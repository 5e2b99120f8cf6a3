import Mathlib
import KSharp.Proofs.LexemeGrammar
import KSharp.Proofs.LexerRuns

/-! The lenient mode beside the strict one: both read the same tokens up to the first error,
and only a quoted literal that is never closed makes the lenient mode read one more.
-/

namespace KSharp

-----------------------------------------------------------------------------------------
-- Lexemes in both modes
-----------------------------------------------------------------------------------------

namespace Lexeme

theorem read_of_ne_quote {c} (other : c ≠ '"') (mode mode' : Mode) (rest : Text)
    : read mode c rest = read mode' c rest := by
  simp only [read, other, if_false]

/-- The lenient mode finds what the strict one finds, by the two kinds of first character. -/
theorem read_lenient_of_found {c rest kind raw value}
    (found : read .strict c rest = .found kind raw value)
    : read .lenient c rest = .found kind raw value := by
  by_cases quote : c = '"'
  · subst quote
    rw [read_quote] at found ⊢
    cases body : quotedBody? rest <;> simp [readQuoted, body] at found ⊢
    exact found
  · rw [read_of_ne_quote quote .lenient .strict, found]

/-- The lenient mode rejects what the strict one rejects, but for a quoted literal that is never
closed, of which it takes all there is.
-/
theorem read_lenient_of_rejected {c rest cause}
    (rejected : read .strict c rest = .rejected cause)
    : read .lenient c rest
      = if cause = .unterminatedString ∧ c = '"' then
          .found .string (c :: rest) (.text (Escape.unescape rest))
        else .rejected cause := by
  by_cases quote : c = '"'
  · subst quote
    rw [read_quote] at rejected ⊢
    cases body : quotedBody? rest <;> simp [readQuoted, body] at rejected ⊢
    simp [← rejected]
  · rw [read_of_ne_quote quote .lenient .strict, rejected, if_neg (fun both => quote both.2)]

end Lexeme

-----------------------------------------------------------------------------------------
-- Runs in both modes
-----------------------------------------------------------------------------------------

namespace Lexer

/-- What the lenient mode reads where a strict run fails: the rest of the expression as one
string, if a quoted literal that is never closed starts there.
-/
def recovered (expression : Text) (cause : LexError.Cause) (offset : Nat) : List Token :=
  if cause = .unterminatedString ∧ expression[offset]? = some '"' then
    let raw := expression.drop offset
    [⟨.string, raw, .text (Escape.unescape raw.tail), offset⟩]
  else []

/-- What the lenient mode reads behind the end of a strict run. -/
def Ending.recovered (expression : Text) : Ending → List Token
  | .complete => []
  | .failed cause offset => Lexer.recovered expression cause offset

/-- Where a strict run fails, the lenient one reads what is recovered and then ends, by the
character at which the error stands.
-/
theorem run_lenient_of_error {expression pos text cause offset}
    (step : Scan.ahead .strict pos text = .error cause offset)
    (ahead : Ahead expression pos text)
    : ∃ later, Run .lenient .token pos text (recovered expression cause offset) later := by
  obtain ⟨trivia, c, rest, cut, rejected, rfl⟩ := Scan.ahead_eq_error_iff.mp step
  have source : text = trivia ++ c :: rest := by
    simpa only [cut] using (Trivia.split_between text).1
  have here : expression.drop (pos + trivia.length) = c :: rest := by
    rw [← List.drop_drop, ahead.drop_eq, source, List.drop_left]
  have first : expression[pos + trivia.length]? = some c := by
    rw [← List.head?_drop, here, List.head?_cons]
  have read := Lexeme.read_lenient_of_rejected rejected
  simp only [recovered, here, first, Option.some.injEq, List.tail_cons]
  split at read
  · next unclosed =>
    rw [if_pos unclosed]
    have all : pos + text.length = pos + trivia.length + (c :: rest).length := by
      rw [source, List.length_append, Nat.add_assoc]
    have string : Scan.ahead .lenient pos text
        = .token ⟨.string, c :: rest, .text (Escape.unescape rest), pos + trivia.length⟩
            (pos + text.length) :=
      Scan.ahead_eq_token_iff.mpr ⟨trivia, c, rest, cut, read, rfl, all⟩
    refine ⟨.complete, .token string (.ended ?_)⟩
    rw [Nat.add_sub_cancel_left, List.drop_length]
    exact Scan.ahead_eq_endOfInput_iff.mpr (by simp [Trivia.split])
  · next other =>
    rw [if_neg other]
    exact ⟨_, .failed (Scan.ahead_eq_error_iff.mpr ⟨trivia, c, rest, cut, read, rfl⟩)⟩

/-- A strict run is the front of a lenient one, which goes on by what is recovered. By induction
on the run, with the same step in both modes until the strict one fails.
-/
theorem Run.lenient {phase pos text tokens ending}
    (run : Run .strict phase pos text tokens ending)
    {expression} (ahead : Ahead expression pos text)
    : ∃ later, Run .lenient phase pos text (tokens ++ ending.recovered expression) later := by
  induction run with
  | token step more ih =>
      obtain ⟨later, run⟩ := ih (ahead.token step)
      obtain ⟨trivia, c, rest, cut, found, placed⟩ := Scan.ahead_eq_token_iff.mp step
      have same := Scan.ahead_eq_token_iff.mpr
        ⟨trivia, c, rest, cut, Lexeme.read_lenient_of_found found, placed⟩
      exact ⟨later, .token same run⟩
  | value step more ih =>
      obtain ⟨later, run⟩ := ih (ahead.value step)
      exact ⟨later, .value step run⟩
  | ended step =>
      have nothing := Scan.ahead_eq_endOfInput_iff.mp step
      exact ⟨.complete, .ended (Scan.ahead_eq_endOfInput_iff.mpr nothing)⟩
  | failed step => exact run_lenient_of_error step ahead
  | supplied step => exact ⟨.complete, .supplied step⟩

/-- The lenient mode never fails. It gives the tokens of the strict mode where that succeeds, and
the tokens before the error with what is recovered behind them where that fails. Witness: the
strict run from the start, extended to a lenient one.
-/
theorem lenient_refines_strict (expression : Text)
    : (∃ tokens, tokenize .lenient expression = .ok tokens)
      ∧ (∀ tokens,
          tokenize .strict expression = .ok tokens
          → tokenize .lenient expression = .ok tokens)
      ∧ ∀ tokens error,
          (start .strict expression).items = tokens.map .ok ++ [.error error]
          → tokenize .lenient expression
            = .ok (tokens ++ recovered expression error.cause error.offset) := by
  refine ⟨?_, ?_, ?_⟩
  · obtain ⟨tokens, ending, run⟩ := run_total .lenient .token 0 expression (by simp)
    exact ⟨tokens, run.tokenize_lenient⟩
  · intro tokens h
    obtain ⟨later, run⟩ := (tokenize_strict_eq_ok_iff.mp h).lenient (.start expression)
    simpa [Ending.recovered] using run.tokenize_lenient
  · intro tokens error h
    obtain ⟨later, run⟩ := (run_of_items_error h).lenient (.start expression)
    exact run.tokenize_lenient

/-- A quoted literal that is never closed, with an escape, ends the strict tokens and is the last
lenient one.
-/
theorem lenient_refines_strict_unclosed
    : let expression := "x \"y\\n".toList
      let x : Token := ⟨.identifier, ['x'], .text ['x'], 0⟩
      (start .strict expression).items
          = [x].map .ok ++ [.error ⟨.unterminatedString, 2, expression⟩]
        ∧ tokenize .lenient expression
          = .ok ([x] ++ [⟨.string, "\"y\\n".toList, .text "y\n".toList, 2⟩]) := by
  have failed : (start .strict "x \"y\\n".toList).items
      = [⟨.identifier, ['x'], .text ['x'], 0⟩].map .ok
        ++ [.error ⟨.unterminatedString, 2, "x \"y\\n".toList⟩] := by
    cbv
  exact ⟨failed, (lenient_refines_strict _).2.2 _ _ failed⟩

end Lexer

end KSharp
