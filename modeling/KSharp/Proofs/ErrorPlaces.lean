import KSharp.Proofs.ByteRanges
import KSharp.Proofs.ErrorCauses
import KSharp.Proofs.ErrorCuts

/-! Where a strict error stands and what it says: it names the expression and a character of it
behind all the tokens, and its cause describes the text from that character on.
-/

namespace KSharp

/-- A value ends no further than its step reads. -/
theorem Scan.stop_le_of_valueAhead {pos text token next}
    (step : valueAhead pos text = .token token next)
    : token.stop ≤ next := by
  obtain ⟨separator, closing, parts⟩ := valueAhead_token step
  have offset := parts.offset
  have moves := parts.moves
  simp only [List.length_append] at moves
  rw [Token.stop]
  split at offset
  · next empty =>
    have none := congrArg List.length empty.1
    rw [List.length_nil] at none
    omega
  · omega

namespace Lexer

/-- The tokens of a run that fails end before the error, by induction on the run. -/
theorem Run.stop_le_offset {mode phase pos text tokens cause offset}
    (run : Run mode phase pos text tokens (.failed cause offset))
    : ∀ token ∈ tokens, token.stop ≤ offset := by
  generalize equal : Ending.failed cause offset = ending at run
  induction run with
  | token step more ih =>
      subst equal
      obtain ⟨-, -, -, -, -, -, stop⟩ := Scan.ahead_eq_token_iff.mp step
      refine List.forall_mem_cons.mpr ⟨?_, ih rfl⟩
      exact stop ▸ more.le_offset
  | value step more ih =>
      subst equal
      refine List.forall_mem_cons.mpr ⟨?_, ih rfl⟩
      exact (Scan.stop_le_of_valueAhead step).trans more.le_offset
  | ended step => cases equal
  | failed step => simp
  | supplied step => cases equal

/-- A character of the text in front of which nothing is found, at that offset if the text stands at
the position; it is no blank.
-/
def RejectedIn (mode : Mode) (pos : Nat) (text : Text) (cause : LexError.Cause) (offset : Nat)
    : Prop :=
  ∃ front c rest,
    text = front ++ c :: rest
    ∧ offset = pos + front.length
    ∧ isBlank c = false
    ∧ Lexeme.read mode c rest = .rejected cause

theorem RejectedIn.append {mode pos next front text cause offset}
    (rejected : RejectedIn mode next text cause offset) (moves : next = pos + front.length)
    : RejectedIn mode pos (front ++ text) cause offset := by
  obtain ⟨before, c, rest, rfl, stands, visible, found⟩ := rejected
  refine ⟨front ++ before, c, rest, (List.append_assoc _ _ _).symm, ?_, visible, found⟩
  rw [stands, moves, Nat.add_assoc, ← List.length_append]

/-- A run fails at a character of its text in front of which nothing is found. By induction on the
run.
-/
theorem Run.rejected {mode phase pos text tokens cause offset}
    (run : Run mode phase pos text tokens (.failed cause offset))
    : RejectedIn mode pos text cause offset := by
  generalize equal : Ending.failed cause offset = ending at run
  induction run with
  | token step more ih =>
      obtain ⟨trivia, parts⟩ := Scan.ahead_token step
      have whole := (ih equal).append parts.moves
      rwa [← parts.source] at whole
  | value step more ih =>
      obtain ⟨separator, closing, parts⟩ := Scan.valueAhead_token step
      have whole := (ih equal).append parts.moves
      rwa [← parts.source] at whole
  | ended step => cases equal
  | @failed pos text _ _ step =>
      cases equal
      obtain ⟨trivia, c, rest, cut, rejected, rfl⟩ := Scan.ahead_eq_error_iff.mp step
      have source := (Trivia.split_between text).1
      have absent := Trivia.split_absent .between text
      simp only [cut] at source absent
      exact ⟨trivia, c, rest, source, rfl, Text.stops_cons_iff.mp absent.blank, rejected⟩
  | supplied step => cases equal

/-- A strict error is that of a run from the start, and it names the expression. -/
theorem failed_of_tokenize_error {expression error}
    (h : tokenize .strict expression = .error error)
    : error.expression = expression
      ∧ ∃ tokens, Run .strict .token 0 expression tokens (.failed error.cause error.offset) := by
  obtain ⟨tokens, items⟩ := items_of_tokenize_error h
  have run := run_of_items_error items
  have same := h.symm.trans run.tokenize_failed
  exact ⟨congrArg LexError.expression (Except.error.inj same), tokens, run⟩

theorem tokenize_error_locates {expression error} (h : tokenize .strict expression = .error error)
    : ∃ c, isBlank c = false ∧ error.Locates c := by
  obtain ⟨whole, tokens, run⟩ := failed_of_tokenize_error h
  obtain ⟨front, c, rest, source, stands, visible, -⟩ := run.rejected
  rw [Nat.zero_add] at stands
  exact ⟨c, visible, LexError.locates_of_append (whole.trans source) stands⟩

/-- A strict error names the expression and locates a character of it that is no blank, behind the
end of every token before; its cause describes the text from that character on. Witness: the run
that fails, with the character at which nothing is found.
-/
theorem tokenize_error_described {expression error}
    (h : tokenize .strict expression = .error error)
    : error.expression = expression
      ∧ (∀ token ∈ (start .strict expression).tokens, token.stop ≤ error.offset)
      ∧ (∃ c, isBlank c = false ∧ error.Locates c)
      ∧ error.cause.Describes (expression.drop error.offset) := by
  obtain ⟨whole, tokens, run⟩ := failed_of_tokenize_error h
  refine ⟨whole, ?_, tokenize_error_locates h, ?_⟩
  · rw [run.tokens_eq]
    exact run.stop_le_offset
  · obtain ⟨front, c, rest, rfl, stands, -, rejected⟩ := run.rejected
    rw [stands, Nat.zero_add, List.drop_left]
    have explained := Lexeme.read_explained .strict c rest
    rwa [rejected] at explained

/-- A literal with an escaped quote is never closed, behind a letter of two bytes and a value. -/
theorem tokenize_error_described_escaped
    : let expression := "é|(a)v| \"x\\\"".toList
      let error : LexError := ⟨.unterminatedString, 8, expression⟩
      tokenize .strict expression = .error error
        ∧ (∀ token ∈ (start .strict expression).tokens, token.stop ≤ 8)
        ∧ (∃ c, isBlank c = false ∧ error.Locates c)
        ∧ error.cause.Describes "\"x\\\"".toList := by
  have failed : tokenize .strict "é|(a)v| \"x\\\"".toList
      = .error ⟨.unterminatedString, 8, "é|(a)v| \"x\\\"".toList⟩ := by
    cbv
  exact ⟨failed, (tokenize_error_described failed).2⟩

end Lexer

end KSharp
