import Mathlib
import KSharp.Proofs.LexerRuns
import KSharp.Proofs.TokenContexts

/-! The text before a strict error read alone: it gives the tokens that were read before the
error, so the text from the error on has decided none of them.
-/

namespace KSharp

-----------------------------------------------------------------------------------------
-- Where an error stands
-----------------------------------------------------------------------------------------

theorem Lexeme.isWordStart_of_rejected {mode c rest cause}
    (rejected : read mode c rest = .rejected cause)
    : isWordStart c = false := by
  rw [← Bool.not_eq_true]
  intro start
  rw [read_wordStart mode start, readWord] at rejected
  unfold classifyWord symbol at rejected
  repeat' split at rejected
  all_goals cases rejected

namespace Lexer

/-- A run does not fail before its start, by induction on it. -/
theorem Run.le_offset {mode phase pos text tokens cause offset}
    (run : Run mode phase pos text tokens (.failed cause offset))
    : pos ≤ offset := by
  generalize equal : Ending.failed cause offset = ending at run
  induction run with
  | token step more ih => exact Nat.le_trans (Nat.le_of_lt (Scan.lt_of_ahead step)) (ih equal)
  | value step more ih => exact Nat.le_trans (Scan.kind_of_valueAhead step).2 (ih equal)
  | ended step => cases equal
  | failed step =>
      cases equal
      obtain ⟨trivia, c, rest, -, -, rfl⟩ := Scan.ahead_eq_error_iff.mp step
      exact Nat.le_add_right _ _
  | supplied step => cases equal

/-- A run fails behind its first token. -/
theorem Run.next_le_offset {mode pos text tokens cause offset token next}
    (run : Run mode .token pos text tokens (.failed cause offset))
    (step : Scan.ahead mode pos text = .token token next)
    : next ≤ offset := by
  cases run with
  | token first more =>
      rw [step] at first
      cases first
      exact more.le_offset
  | failed fails =>
      rw [step] at fails
      cases fails

theorem Run.ne_nil {mode pos text tokens cause offset}
    (run : Run mode .token pos text tokens (.failed cause offset))
    : text ≠ [] := by
  rintro rfl
  cases run with
  | token step more => cases step
  | failed step => cases step

-----------------------------------------------------------------------------------------
-- The text before an error
-----------------------------------------------------------------------------------------

/-- What is kept of a text before an error reaches up to it. No word starts where it stands. -/
structure CutBefore (offset pos : Nat) (text kept : Text) : Prop where
  source : ∃ c rest, text = kept ++ c :: rest ∧ isWordStart c = false
  stands : offset = pos + kept.length

theorem CutBefore.front {offset pos text kept} (cut : CutBefore offset pos text kept)
    : kept <+: text := by
  obtain ⟨c, rest, rfl, -⟩ := cut.source
  exact List.prefix_append kept (c :: rest)

theorem CutBefore.append {offset pos front text kept}
    (cut : CutBefore offset (pos + front.length) text kept)
    : CutBefore offset pos (front ++ text) (front ++ kept) := by
  obtain ⟨c, rest, rfl, word⟩ := cut.source
  refine ⟨⟨c, rest, (List.append_assoc _ _ _).symm, word⟩, ?_⟩
  rw [cut.stands, List.length_append, Nat.add_assoc]

/-- A member behind a point is kept with the point, since its word starts before the error. -/
theorem CutBefore.member {offset pos text kept} (cut : CutBefore offset pos text kept)
    (point : kept.head? = some '.') (member : text.head? = some '.' → Lexeme.MemberAhead text)
    : Lexeme.MemberAhead kept := by
  obtain ⟨c, rest, rfl, word⟩ := cut.source
  obtain ⟨more, rfl⟩ := List.head?_eq_some_iff.mp point
  cases more with
  | nil =>
      have start : isWordStart c := member rfl
      rw [word] at start
      cases start
  | cons d more => exact member rfl

/-- A parameter in front of the text of a failing run is kept, since it is read first. -/
theorem CutBefore.name? {pos text kept tokens cause offset name}
    (cut : CutBefore offset pos text kept)
    (run : Run .strict .token pos text tokens (.failed cause offset))
    (named : Parameter.name? text = some name)
    : Parameter.name? kept = some name := by
  obtain ⟨grammar, front⟩ := Parameter.name?_eq_some_iff.mp named
  refine Parameter.name?_eq_some_iff.mpr ⟨grammar, ?_⟩
  refine List.prefix_of_prefix_length_le front cut.front ?_
  have stands := cut.stands
  obtain ⟨after, rfl⟩ := front
  have before := run.next_le_offset (Scan.ahead_source grammar .nil after .strict pos)
  rw [List.nil_append] at before
  omega

/-- A failing run leaves a text before its error over which it is complete, with the same tokens.
By induction on the run: each step is made again over what is kept of the text behind it. That
holds the member behind an integer, and the parameter behind a value that no pipe closes.
-/
theorem Run.cut {phase pos text tokens cause offset}
    (run : Run .strict phase pos text tokens (.failed cause offset))
    : ∃ kept, CutBefore offset pos text kept ∧ Run .strict phase pos kept tokens .complete := by
  generalize equal : Ending.failed cause offset = ending at run
  induction run with
  | ended step => cases equal
  | supplied step => cases equal
  | @failed pos text _ _ step =>
      cases equal
      obtain ⟨trivia, c, rest, cut, rejected, rfl⟩ := Scan.ahead_eq_error_iff.mp step
      obtain ⟨source, -, closed⟩ := Trivia.split_between text
      simp only [cut] at source closed
      have word := Lexeme.isWordStart_of_rejected rejected
      have run := Run.of_closed (closed (List.cons_ne_nil c rest)) .strict pos
      exact ⟨trivia, ⟨⟨c, rest, source, word⟩, rfl⟩, run⟩
  | @token pos text token next tokens _ step more ih =>
      obtain ⟨kept, cut, run⟩ := ih equal
      obtain ⟨trivia, parts⟩ := Scan.ahead_token step
      have reads := (Scan.ahead_reads step).2
      have member : token.kind = .integer → kept.head? = some '.' → Lexeme.MemberAhead kept := by
        intro integer point
        rw [integer] at reads
        exact cut.member point reads.member
      have again := Scan.ahead_again step parts.closed (.of_front cut.front) member .strict pos
      rw [← parts.offset] at again
      have source := parts.source
      have moves := parts.moves
      generalize text.drop (next - pos) = after at source cut
      subst source moves
      exact ⟨_, cut.append, .token_append again run⟩
  | @value pos text token next tokens _ step more ih =>
      obtain ⟨kept, cut, run⟩ := ih equal
      obtain ⟨separator, raw, closing, reads, source, rfl, moves⟩ := Scan.valueAhead_reads step
      subst equal
      have parameter : closing = [] → Parameter.name? kept ≠ none := by
        rintro rfl
        obtain ⟨name, named⟩ := Option.ne_none_iff_exists'.mp (reads.parameter_after more.ne_nil)
        rw [cut.name? more named]
        exact Option.some_ne_none name
      have again := reads.cut (.of_front cut.front) parameter
      generalize text.drop (next - pos) = after at source cut
      subst source moves
      exact ⟨_, cut.append, .value_append again run⟩

/-- The tokens that an expression has before an error are all the tokens of the text before that
error, which has no error itself. Witness: the run that fails, over what it keeps of the text.
-/
theorem tokenize_take_offset {expression error} (h : tokenize .strict expression = .error error)
    : ∃ tokens : List Token,
        (start .strict expression).items = tokens.map .ok ++ [.error error]
        ∧ tokenize .strict (expression.take error.offset) = .ok tokens := by
  obtain ⟨tokens, items⟩ := items_of_tokenize_error h
  obtain ⟨kept, cut, run⟩ := (run_of_items_error items).cut
  have before : expression.take error.offset = kept := by
    obtain ⟨c, rest, rfl, -⟩ := cut.source
    rw [cut.stands, Nat.zero_add, List.take_left]
  rw [before]
  exact ⟨tokens, items, tokenize_strict_eq_ok_iff.mpr run⟩

/-- A literal that is never closed stands behind a parameter that another one follows, a value with
the pipe that closes it, and an integer with a member.
-/
theorem tokenize_take_offset_unterminated
    : let expression := "|(a)|(b)x|2.y\"z".toList
      let error : LexError := ⟨.unterminatedString, 13, expression⟩
      tokenize .strict expression = .error error
        ∧ ∃ tokens : List Token,
            (start .strict expression).items = tokens.map .ok ++ [.error error]
            ∧ tokenize .strict "|(a)|(b)x|2.y".toList = .ok tokens := by
  have failed : tokenize .strict "|(a)|(b)x|2.y\"z".toList
      = .error ⟨.unterminatedString, 13, "|(a)|(b)x|2.y\"z".toList⟩ := by
    cbv
  exact ⟨failed, tokenize_take_offset failed⟩

end Lexer

end KSharp
