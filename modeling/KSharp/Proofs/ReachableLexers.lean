import Mathlib
import KSharp.Proofs.RunTranslation

/-! Reading depends on the text ahead alone: a step behind a front is the step on the text there,
and a lexer in the middle of an expression goes on as one in front of the rest does.
-/

namespace KSharp

-----------------------------------------------------------------------------------------
-- Steps behind a front
-----------------------------------------------------------------------------------------

namespace Scan

theorem tokenAt_append (mode : Mode) (front text : Text) (pos : Nat)
    : tokenAt mode (front ++ text) (front.length + pos)
      = (tokenAt mode text pos).moved front.length := by
  rw [tokenAt, tokenAt, List.drop_length_add_append, Nat.add_comm, ahead_add]

/-- At the very start a value would be placed before its text, so the position is behind it. -/
theorem valueAt_append {pos : Nat} (behind : 0 < pos) (front text : Text)
    : valueAt (front ++ text) (front.length + pos) = (valueAt text pos).moved front.length := by
  rw [valueAt, valueAt, List.drop_length_add_append, Nat.add_comm, valueAhead_add behind]

end Scan

-----------------------------------------------------------------------------------------
-- Lexers in the middle of an expression
-----------------------------------------------------------------------------------------

namespace Lexer

/-- The lexers that calls lead to from the one in front of an expression. -/
inductive Reachable (mode : Mode) (expression : Text) : Lexer → Prop where
  | start : Reachable mode expression (start mode expression)
  | next {lexer} (before : Reachable mode expression lexer)
    : Reachable mode expression lexer.next.2

/-- The lexer is one over the expression in the mode, and it has not read beyond the end. -/
structure Over (mode : Mode) (expression : Text) (lexer : Lexer) : Prop where
  expression_eq : lexer.expression = expression
  mode_eq : lexer.mode = mode
  cursor_le : lexer.cursor ≤ expression.length

theorem Over.close {mode expression lexer} (here : Over mode expression lexer)
    : Over mode expression lexer.close.2 := by
  unfold Lexer.close
  dsimp only
  split <;> exact ⟨here.expression_eq, here.mode_eq, here.cursor_le⟩

/-- A step within the expression leaves a lexer over it, by the outcomes of a step. -/
theorem Over.advance {mode expression lexer scan} (here : Over mode expression lexer)
    (within : ∀ token next, scan = .token token next → next ≤ expression.length)
    : Over mode expression (lexer.advance scan).2 := by
  cases scan with
  | token token next => exact ⟨here.expression_eq, here.mode_eq, within token next rfl⟩
  | endOfInput => exact here.close
  | error cause offset =>
      simp only [Lexer.advance]
      split
      · exact ⟨here.expression_eq, here.mode_eq, here.cursor_le⟩
      · exact here.close

/-- A call leaves a lexer over the same expression, by the phases: a step ends within the text
ahead.
-/
theorem Over.next {mode expression lexer} (here : Over mode expression lexer)
    : Over mode expression lexer.next.2 := by
  obtain ⟨whole, current, cursor, phase⟩ := lexer
  obtain ⟨rfl, rfl, inside⟩ := here
  have ahead : Ahead whole cursor (whole.drop cursor) := ⟨rfl, inside⟩
  cases phase with
  | finished => exact ⟨rfl, rfl, inside⟩
  | token =>
      refine Over.advance ⟨rfl, rfl, inside⟩ ?_
      intro token next step
      exact (ahead.token step).le_length
  | value =>
      refine Over.advance ⟨rfl, rfl, inside⟩ ?_
      intro token next step
      exact (ahead.value step).le_length

theorem Reachable.over {mode expression lexer} (reachable : Reachable mode expression lexer)
    : Over mode expression lexer := by
  induction reachable with
  | start => exact ⟨rfl, rfl, Nat.zero_le _⟩
  | next before ih => exact ih.next

/-- A lexer that owes no value reads the rest of its expression as one in front of it does. Witness:
the run over the rest, made at the cursor.
-/
theorem Over.items_eq {mode expression lexer} (here : Over mode expression lexer)
    (ready : lexer.phase = .token)
    : lexer.items
      = (start mode (expression.drop lexer.cursor)).items.map
          (Item.moved lexer.cursor expression) := by
  obtain ⟨whole, current, cursor, phase⟩ := lexer
  obtain ⟨rfl, rfl, inside⟩ := here
  subst ready
  obtain ⟨tokens, ending, run⟩ := run_total current .token 0 (whole.drop cursor) (by simp)
  have moved := run.moved (by simp) cursor
  rw [Nat.zero_add] at moved
  rw [moved.items_eq ⟨rfl, inside⟩, start, run.items_eq (.start (whole.drop cursor)),
    Ending.items_moved ending current cursor (whole.drop cursor) whole]
  simp [Item.moved]

/-- A step behind a front of a text is the step on the rest, moved behind the front; for a value
this holds behind the first position. A lexer that calls lead to, while it neither owes a value nor
has ended, has the stream of the rest of the expression, moved to its cursor.
-/
theorem reads_text_ahead (mode : Mode)
    : (∀ front text pos,
        Scan.tokenAt mode (front ++ text) (front.length + pos)
          = (Scan.tokenAt mode text pos).moved front.length)
      ∧ (∀ front text pos,
          0 < pos
          → Scan.valueAt (front ++ text) (front.length + pos)
            = (Scan.valueAt text pos).moved front.length)
      ∧ ∀ expression lexer,
          Reachable mode expression lexer
          → lexer.phase = .token
          → lexer.items
            = (start mode (expression.drop lexer.cursor)).items.map
                (Item.moved lexer.cursor expression) := by
  refine ⟨Scan.tokenAt_append mode, ?_, ?_⟩
  · intro front text pos behind
    exact Scan.valueAt_append behind front text
  · intro expression lexer reachable ready
    exact reachable.over.items_eq ready

/-- Behind a parameter and its value the rest of the expression is read on its own: the place of an
empty value moves with the parameter before it, and an error names the whole expression.
-/
theorem reads_text_ahead_chained
    : let rest := "x|(b)|(c)||\"".toList
      let expression := "|(a)v|".toList ++ rest
      let lexer : Lexer := ⟨expression, .strict, 6, .token⟩
      0 < 5
        ∧ Scan.valueAt expression 11 = .token ⟨.parameterValue, [], .text [], 10⟩ 11
        ∧ Reachable .strict expression lexer
        ∧ lexer.phase = .token
        ∧ lexer.items
          = [
            .ok ⟨.identifier, ['x'], .text ['x'], 6⟩,
            .ok ⟨.parameter, "|(b)".toList, .text ['b'], 7⟩,
            .ok ⟨.parameterValue, [], .text [], 10⟩,
            .ok ⟨.parameter, "|(c)".toList, .text ['c'], 11⟩,
            .ok ⟨.parameterValue, [], .text [], 16⟩,
            .error ⟨.unterminatedString, 17, expression⟩
          ] := by
  have reachable : Reachable .strict ("|(a)v|".toList ++ "x|(b)|(c)||\"".toList)
      ⟨"|(a)v|".toList ++ "x|(b)|(c)||\"".toList, .strict, 6, .token⟩ :=
    .next (.next .start)
  have rest : (start .strict "x|(b)|(c)||\"".toList).items
      = [
        .ok ⟨.identifier, ['x'], .text ['x'], 0⟩,
        .ok ⟨.parameter, "|(b)".toList, .text ['b'], 1⟩,
        .ok ⟨.parameterValue, [], .text [], 4⟩,
        .ok ⟨.parameter, "|(c)".toList, .text ['c'], 5⟩,
        .ok ⟨.parameterValue, [], .text [], 10⟩,
        .error ⟨.unterminatedString, 11, "x|(b)|(c)||\"".toList⟩
      ] := by
    cbv
  obtain ⟨-, values, lexers⟩ := reads_text_ahead .strict
  have value := values "|(a)v|".toList "x|(b)|(c)||\"".toList 5 (by decide)
  have items := lexers _ _ reachable rfl
  have behind : ("|(a)v|".toList ++ "x|(b)|(c)||\"".toList).drop 6 = "x|(b)|(c)||\"".toList := rfl
  rw [behind, rest] at items
  exact ⟨by decide, value, reachable, rfl, items⟩

end Lexer

end KSharp
