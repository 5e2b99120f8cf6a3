import Mathlib.Data.List.Basic
import KSharp.Proofs.RunTranslation
import KSharp.Proofs.TextReplacement
import KSharp.Proofs.TokenContexts

/-! Parameter values can be written: a text with a backslash before each pipe is read as the value
that the text is, and reading starts again behind the pipe that closes it.
-/

namespace KSharp

-----------------------------------------------------------------------------------------
-- Written values
-----------------------------------------------------------------------------------------

namespace Escape

/-- The source text of a parameter value: a backslash stands before each pipe. -/
def escapePipes (text : Text) : Text := Text.replaceAll ['|'] ['\\', '|'] text

@[simp]
theorem escapePipes_nil : escapePipes [] = [] := rfl

theorem escapePipes_cons (c : Char) (rest : Text)
    : escapePipes (c :: rest) = (if c = '|' then ['\\', '|'] else [c]) ++ escapePipes rest :=
  Text.replaceAll_char_cons '|' ['\\', '|'] c rest

theorem escapePipes_ne_nil {text : Text} (nonempty : text ≠ []) : escapePipes text ≠ [] := by
  obtain ⟨c, rest, rfl⟩ := List.exists_cons_of_ne_nil nonempty
  rw [escapePipes_cons]
  split <;> simp

/-- A written text does not start with a pipe, whatever stands behind it. -/
theorem head?_escapePipes_append {text : Text} (nonempty : text ≠ []) (after : Text)
    : (escapePipes text ++ after).head? ≠ some '|' := by
  have first : (escapePipes text).head? ≠ some '|' := Text.head?_marked_ne (by decide) text
  obtain ⟨c, rest, written⟩ := List.exists_cons_of_ne_nil (escapePipes_ne_nil nonempty)
  rw [written] at first ⊢
  exact first

theorem unescapePipes_escapePipes (text : Text) : unescapePipes (escapePipes text) = text :=
  Text.replaceAll_marked '\\' '|' text

end Escape

namespace Parameter

/-- The text can end in front of another one: nothing follows, or a pipe that no backslash at the
end of the text takes along.
-/
def EndsBefore (text after : Text) : Prop :=
  after = [] ∨ after.head? = some '|' ∧ text.getLast? ≠ some '\\'

theorem EndsBefore.tail {c : Char} {rest after : Text} (ends : EndsBefore (c :: rest) after)
    : EndsBefore rest after := by
  rcases ends with nothing | ⟨pipe, last⟩
  · exact Or.inl nothing
  · refine Or.inr ⟨pipe, ?_⟩
    intro backslash
    apply last
    simp [List.getLast?_cons, backslash]

/-- A backslash in a written text takes no pipe along that the text does not write with it. -/
theorem EndsBefore.head?_ne {rest after : Text} (ends : EndsBefore ('\\' :: rest) after)
    : (Escape.escapePipes rest ++ after).head? ≠ some '|' := by
  cases rest with
  | nil =>
      rcases ends with nothing | ⟨-, last⟩
      · subst nothing
        simp
      · exact absurd rfl last
  | cons d more => exact Escape.head?_escapePipes_append (List.cons_ne_nil d more) after

/-- The cut of a value passes over a written text up to its end, by induction on the text: each pipe
in it comes with its backslash.
-/
theorem splitValue_escapePipes {text after : Text} (ends : EndsBefore text after)
    : splitValue (Escape.escapePipes text ++ after) = (Escape.escapePipes text, after) := by
  induction text with
  | nil =>
      rcases ends with nothing | ⟨pipe, -⟩
      · subst nothing
        rfl
      · obtain ⟨rest, rfl⟩ := List.head?_eq_some_iff.mp pipe
        simp [splitValue]
  | cons c rest ih =>
      have cut := ih ends.tail
      rw [Escape.escapePipes_cons]
      split
      · simp [splitValue, cut]
      · next pipe =>
        have escape : c = '\\' → (Escape.escapePipes rest ++ after).head? ≠ some '|' := by
          intro backslash
          subst backslash
          exact ends.head?_ne
        rw [List.append_assoc, List.singleton_append, splitValue_cons pipe escape, cut]
        rfl

/-- A pipe starts no parameter where no letters in parentheses follow it. -/
theorem name?_pipe_of_absent {after : Text}
    (absent : ∀ letters, Name letters → ¬('(' :: letters ++ [')'] <+: after))
    : name? ('|' :: after) = none := by
  apply name?_eq_none_iff.mpr
  intro letters grammar front
  exact absent letters grammar (List.cons_prefix_cons.mp front).2

end Parameter

-----------------------------------------------------------------------------------------
-- Reading them
-----------------------------------------------------------------------------------------

namespace Scan

/-- A written text that is not empty is a value before what it can end in front of, and nothing has
to separate it from its parameter.
-/
theorem valueReads_escapePipes {text closing after : Text} (nonempty : text ≠ [])
    (ends : Parameter.EndsBefore text (closing ++ after)) (closes : Delimits closing after)
    : ValueReads [] (Escape.escapePipes text) closing after := by
  refine ⟨?_, ?_, Parameter.splitValue_escapePipes ends, closes⟩
  · apply delimits_nil_iff.mpr
    intro pipe
    exact absurd pipe (Escape.head?_escapePipes_append nonempty (closing ++ after))
  · simp [Escape.escapePipes_ne_nil nonempty]

theorem valueToken_escapePipes {text : Text} (nonempty : text ≠ []) (pos : Nat) (closing : Text)
    : valueToken pos [] (Escape.escapePipes text) closing
      = ⟨.parameterValue, Escape.escapePipes text, .text text, pos⟩ := by
  simp [valueToken, Escape.escapePipes_ne_nil nonempty, Escape.unescapePipes_escapePipes]

end Scan

namespace Lexer

/-- The tokens of a parameter with a name at the start of an expression, and of a text that is
written as its value.
-/
def written (name text : Text) : List Token :=
  let source := Parameter.source name
  [⟨.parameter, source, .text name, 0⟩,
    ⟨.parameterValue, Escape.escapePipes text, .text text, source.length⟩]

/-- A run reads a parameter and its written value, and goes on behind the pipe that closes it. -/
theorem Run.written {mode name text closing after tokens ending} (grammar : Parameter.Name name)
    (nonempty : text ≠ []) (reads : Scan.ValueReads [] (Escape.escapePipes text) closing after)
    (more
      : Run mode .token (Parameter.source name ++ (Escape.escapePipes text ++ closing)).length after
          tokens ending)
    : Run mode .token 0 (Parameter.source name ++ (Escape.escapePipes text ++ closing) ++ after)
        (written name text ++ tokens) ending := by
  have value := Run.value_append reads (by rwa [← List.length_append])
  rw [Scan.valueToken_escapePipes nonempty] at value
  have step : Scan.ahead mode 0
        (Parameter.source name ++ (Escape.escapePipes text ++ closing ++ after))
      = .token ⟨.parameter, Parameter.source name, .text name, 0⟩
          (0 + (Parameter.source name).length) := by
    simpa using Scan.ahead_source grammar .nil (Escape.escapePipes text ++ closing ++ after) mode 0
  rw [List.append_assoc]
  refine .token_append step ?_
  rw [Nat.zero_add]
  exact value

/-- In either mode, a parameter with a name and a text with a backslash before each pipe are read as
that parameter and, as its value, the text. A text that no backslash ends can be closed by a pipe,
if no letters in parentheses follow; the stream goes on as that of the text behind the pipe, moved
there. Without that pipe the value reaches to the end. Witness: the cut of a written text.
-/
theorem items_written_value (mode : Mode) {name text : Text} (grammar : Parameter.Name name)
    (nonempty : text ≠ [])
    : (∀ after,
        text.getLast? ≠ some '\\'
        → (∀ letters, Parameter.Name letters → ¬('(' :: letters ++ [')'] <+: after))
        → let front := Parameter.source name ++ (Escape.escapePipes text ++ ['|'])
          (start mode (front ++ after)).items
            = (written name text).map .ok
              ++ (start mode after).items.map (Item.moved front.length (front ++ after)))
      ∧ (start mode (Parameter.source name ++ Escape.escapePipes text)).items
          = (written name text).map .ok := by
  constructor
  · intro after last absent front
    have closes : Scan.Delimits ['|'] after :=
      Scan.delimits_pipe_iff.mpr (Parameter.name?_pipe_of_absent absent)
    have reads := Scan.valueReads_escapePipes nonempty (Or.inr ⟨rfl, last⟩) closes
    obtain ⟨tokens, ending, run⟩ := run_total mode .token 0 after (by simp)
    have moved := run.moved (by simp) front.length
    rw [Nat.zero_add] at moved
    have whole := Run.written grammar nonempty reads moved
    rw [start, whole.items_eq (.start (front ++ after)), start, run.items_eq (.start after),
      Ending.items_moved ending mode front.length after (front ++ after)]
    simp [Item.moved]
  · have closes : Scan.Delimits [] [] := Scan.delimits_nil_iff.mpr (by simp)
    have reads := Scan.valueReads_escapePipes nonempty (Or.inl rfl) closes
    have run := Run.written grammar nonempty reads (Run.of_closed .nil mode _)
    simp only [List.append_nil] at run
    rw [start, run.items_eq (.start _), Ending.items, List.append_nil]

/-- Text that looks like another parameter belongs to the value; behind the pipe that closes it a
parameter is read, and an error names the whole text. A backslash ends a value at the end.
-/
theorem items_written_value_nested
    : let text := "|a\\|(b)".toList
      let after := "|(c)d| #".toList
      let whole := "|(pre)\\|a\\\\|(b)|".toList ++ after
      Parameter.Name "pre".toList
        ∧ text ≠ []
        ∧ text.getLast? ≠ some '\\'
        ∧ (∀ letters, Parameter.Name letters → ¬('(' :: letters ++ [')'] <+: after))
        ∧ (start .strict whole).items
          = (written "pre".toList text).map .ok
            ++ [
              .ok ⟨.parameter, "|(c)".toList, .text ['c'], 16⟩,
              .ok ⟨.parameterValue, ['d'], .text ['d'], 20⟩,
              .error ⟨.unexpectedCharacter '#', 23, whole⟩
            ]
        ∧ (start .lenient "|(pre)\\|\\".toList).items
          = (written "pre".toList "|\\".toList).map .ok := by
  have letters : "pre".toList.all isLetter := by decide
  have grammar : Parameter.Name "pre".toList := ⟨by decide, List.all_eq_true.mp letters⟩
  have nonempty : "|a\\|(b)".toList ≠ [] := by decide
  have last : "|a\\|(b)".toList.getLast? ≠ some '\\' := by decide
  have absent (letters : Text) (_ : Parameter.Name letters)
      : ¬('(' :: letters ++ [')'] <+: "|(c)d| #".toList) := by
    intro starts
    exact absurd (List.cons_prefix_cons.mp starts).1 (by decide)
  have second : (start .strict "|(c)d| #".toList).items
      = [
        .ok ⟨.parameter, "|(c)".toList, .text ['c'], 0⟩,
        .ok ⟨.parameterValue, ['d'], .text ['d'], 4⟩,
        .error ⟨.unexpectedCharacter '#', 7, "|(c)d| #".toList⟩
      ] := by
    cbv
  have closed := (items_written_value .strict grammar nonempty).1 "|(c)d| #".toList last absent
  have ending : "|\\".toList ≠ [] := by decide
  rw [second] at closed
  exact ⟨grammar, nonempty, last, absent, closed, (items_written_value .lenient grammar ending).2⟩

end Lexer

end KSharp
