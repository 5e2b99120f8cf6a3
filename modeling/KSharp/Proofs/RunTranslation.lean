import KSharp.Proofs.LexerRuns

/-! Reading does not depend on where a text stands: from a later position, or behind closed trivia,
a run reads the same tokens, whose offsets are as much later.
-/

namespace KSharp

-----------------------------------------------------------------------------------------
-- Steps
-----------------------------------------------------------------------------------------

/-- The token as it stands a distance further on. -/
def Token.moved (distance : Nat) (token : Token) : Token :=
  { token with offset := token.offset + distance }

namespace Scan

/-- The outcome of a step that is made a distance further on. -/
def moved (distance : Nat) : Scan → Scan
  | .token read next => .token (read.moved distance) (next + distance)
  | .endOfInput => .endOfInput
  | .error cause offset => .error cause (offset + distance)

theorem ahead_add (mode : Mode) (pos distance : Nat) (text : Text)
    : ahead mode (pos + distance) text = (ahead mode pos text).moved distance := by
  rcases cut : Trivia.split .between text with ⟨trivia, _ | ⟨c, rest⟩⟩
  · simp [ahead, cut, moved]
  · cases read : Lexeme.read mode c rest <;>
      simp [ahead, cut, read, Lexeme.placed, moved, Token.moved] <;>
      omega

/-- Behind the first position no place of a value is cut off at the start of the expression. -/
theorem valueToken_add {pos : Nat} (behind : 0 < pos) (distance : Nat)
    (separator raw closing : Text)
    : valueToken (pos + distance) separator raw closing
      = (valueToken pos separator raw closing).moved distance := by
  simp only [valueToken, Token.moved, Token.mk.injEq, true_and]
  split <;> omega

theorem valueAhead_add {pos : Nat} (behind : 0 < pos) (distance : Nat) (text : Text)
    : valueAhead (pos + distance) text = (valueAhead pos text).moved distance := by
  obtain ⟨separator, rest, rfl, separates⟩ := delimits_exists text
  by_cases nothing : rest = []
  · subst nothing
    rw [valueAhead_nil separates, valueAhead_nil separates]
    rfl
  · obtain ⟨raw, closing, after, rfl, reads⟩ := valueReads_exists separates nothing
    have parts : separator ++ (raw ++ (closing ++ after))
        = separator ++ (raw ++ closing) ++ after := by
      simp only [List.append_assoc]
    rw [parts, reads.step, reads.step, valueToken_add behind, Nat.add_right_comm]
    rfl

/-- Closed trivia in front of a text only moves the step. -/
theorem ahead_closed_append {trivia} (closed : Trivia.Closed trivia) (mode : Mode) (pos : Nat)
    (text : Text)
    : ahead mode pos (trivia ++ text) = ahead mode (pos + trivia.length) text := by
  rcases cut : Trivia.split .between text with ⟨lead, _ | ⟨c, rest⟩⟩
  · simp [ahead, closed.split_append, cut]
  · simp [ahead, closed.split_append, cut, Nat.add_assoc]

end Scan

-----------------------------------------------------------------------------------------
-- Runs and streams
-----------------------------------------------------------------------------------------

namespace Lexer

/-- The ending of a run that is made a distance further on. -/
def Ending.moved (distance : Nat) : Ending → Ending
  | .complete => .complete
  | .failed cause offset => .failed cause (offset + distance)

/-- A run over a text can be made a distance further on, by induction on the run. The first
position owes no value, so the places of values move as well.
-/
theorem Run.moved {mode phase pos text tokens ending}
    (run : Run mode phase pos text tokens ending) (behind : phase = .value → 0 < pos)
    (distance : Nat)
    : Run mode phase (pos + distance) text (tokens.map (Token.moved distance))
        (ending.moved distance) := by
  induction run with
  | @token pos text token next tokens ending step more ih =>
      have positive := Nat.zero_lt_of_lt (Scan.lt_of_ahead step)
      have again := Scan.ahead_add mode pos distance text
      rw [step] at again
      refine .token again ?_
      rw [Nat.add_sub_add_right]
      exact ih (fun _ => positive)
  | @value pos text token next tokens ending step more ih =>
      have again := Scan.valueAhead_add (behind rfl) distance text
      rw [step] at again
      refine .value again ?_
      rw [Nat.add_sub_add_right]
      exact ih (by simp)
  | ended step =>
      apply Run.ended
      rw [Scan.ahead_add, step]
      rfl
  | failed step =>
      apply Run.failed
      rw [Scan.ahead_add, step]
      rfl
  | @supplied pos text step =>
      have positive := behind rfl
      have again : Scan.valueAhead (pos + distance) text = .endOfInput := by
        rw [Scan.valueAhead_add positive, step]
        rfl
      have place : pos + distance + text.length - 1 = pos + text.length - 1 + distance := by
        omega
      have supplied : Run mode .value (pos + distance) text _ _ := .supplied again
      rw [place] at supplied
      exact supplied

/-- A run can be made behind closed trivia, by the cases of its first step. -/
theorem Run.closed_append {trivia} (closed : Trivia.Closed trivia) {mode pos text tokens ending}
    (run : Run mode .token (pos + trivia.length) text tokens ending)
    : Run mode .token pos (trivia ++ text) tokens ending := by
  have same := Scan.ahead_closed_append closed mode pos text
  cases run with
  | @token _ _ token next tokens _ step more =>
      have forward := Scan.lt_of_ahead step
      refine .token (same.trans step) ?_
      have rest : next - pos = trivia.length + (next - (pos + trivia.length)) := by omega
      rw [rest, ← List.drop_drop, List.drop_left]
      exact more
  | ended step => exact .ended (same.trans step)
  | failed step => exact .failed (same.trans step)

/-- An item of a stream as it stands a distance further on in a whole expression, which its error
then names.
-/
def Item.moved (distance : Nat) (whole : Text) : Item → Item
  | .ok token => .ok (token.moved distance)
  | .error error => .error ⟨error.cause, error.offset + distance, whole⟩

theorem Ending.items_moved (ending : Ending) (mode : Mode) (distance : Nat)
    (expression whole : Text)
    : (ending.moved distance).items mode whole
      = (ending.items mode expression).map (Item.moved distance whole) := by
  cases ending <;> cases mode <;> rfl

end Lexer

end KSharp
