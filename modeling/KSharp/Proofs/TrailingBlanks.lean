import KSharp.Proofs.BlankSuffixes
import KSharp.Proofs.LineChecks

/-! Blanks at the end of an expression: its strict errors stay what and where they are, its tokens
stay the same unless the last one is a parameter value, and the line it stands on is reported as if
the line ended without them.
-/

namespace KSharp

variable {blanks : Text} (blank : ∀ c ∈ blanks, isBlank c)

-----------------------------------------------------------------------------------------
-- Runs
-----------------------------------------------------------------------------------------

/-- Nothing is left behind a pipe that stands alone or behind nothing. -/
theorem Scan.PipeOrNothing.delimits_nil {text : Text} (delimiter : PipeOrNothing text)
    : Delimits text [] := by
  rcases delimiter with rfl | rfl
  · exact delimits_nil_iff.mpr (by simp)
  · exact delimits_pipe_iff.mpr rfl

namespace Lexer

include blank

/-- A run over a value that reaches to the end reads one with the blanks behind the text as well. -/
theorem run_value_blanks {separator raw : Text} (separates : Scan.Delimits separator raw)
    (split : Parameter.splitValue raw = (raw, [])) (nonempty : raw ++ blanks ≠ []) (pos : Nat)
    : ∃ value, Run .strict .value pos (separator ++ raw ++ blanks) [value] .complete := by
  have reads := Scan.valueReads_blanks blank separates split nonempty
  have run : Run .strict .value pos (separator ++ (raw ++ blanks ++ []) ++ []) _ .complete :=
    .value_append reads (.of_closed .nil .strict _)
  rw [List.append_nil, List.append_nil, ← List.append_assoc] at run
  exact ⟨_, run⟩

/-- With blanks behind its text a strict run ends as it did. Its tokens are the same, unless the
last one is a parameter value. By induction on the run.
-/
theorem Run.append_blanks {phase pos text tokens ending}
    (run : Run .strict phase pos text tokens ending)
    : ∃ later,
        Run .strict phase pos (text ++ blanks) later ending
        ∧ (EndsOrdinary tokens → later = tokens) := by
  induction run with
  | @token pos text token next tokens ending step more ih =>
      obtain ⟨later, run, same⟩ := ih
      obtain ⟨forward, within⟩ := Scan.ahead_moves step
      rw [← List.drop_append_of_le_length (by omega)] at run
      refine ⟨token :: later, .token ?_ run, ?_⟩
      · rwa [Scan.ahead_append_blanks blank]
      · intro ordinary
        rw [same ordinary.tail]
  | @value pos text token next tokens ending step more ih =>
      obtain ⟨separator, raw, closing, reads, source, rfl, rfl⟩ := Scan.valueAhead_reads step
      generalize text.drop _ = after at reads source more ih
      subst source
      by_cases ends : closing ++ after = []
      · -- The value reached to the end, so it is the last token and takes the blanks along.
        obtain ⟨rfl, rfl⟩ := List.append_eq_nil_iff.mp ends
        obtain ⟨rfl, rfl⟩ := more.of_nil
        have separates := reads.separates
        have nonempty := reads.nonempty
        rw [ends, List.append_nil] at separates nonempty
        obtain ⟨value, run⟩ := run_value_blanks blank separates reads.split_again.1
          (List.append_ne_nil_of_left_ne_nil nonempty blanks) pos
        refine ⟨[value], by simpa using run, ?_⟩
        intro ordinary
        exact absurd rfl (ordinary _ rfl)
      · obtain ⟨later, run, same⟩ := ih
        have again := Run.value_append (reads.append_blanks blank ends) run
        rw [← List.append_assoc] at again
        refine ⟨_, again, ?_⟩
        intro ordinary
        rw [same ordinary.tail]
  | ended step => exact ⟨[], .ended (by rwa [Scan.ahead_append_blanks blank]), fun _ => rfl⟩
  | failed step => exact ⟨[], .failed (by rwa [Scan.ahead_append_blanks blank]), fun _ => rfl⟩
  | @supplied pos text step =>
      by_cases none : blanks = []
      · subst none
        rw [List.append_nil]
        exact ⟨_, .supplied step, fun _ => rfl⟩
      · have separates := (Scan.valueAhead_endOfInput step).delimits_nil
        obtain ⟨value, run⟩ := run_value_blanks blank separates rfl none pos
        refine ⟨[value], by simpa using run, ?_⟩
        intro ordinary
        exact absurd rfl (ordinary _ rfl)

-----------------------------------------------------------------------------------------
-- Verdicts
-----------------------------------------------------------------------------------------

theorem tokenize_ok_blanks {text tokens} (read : tokenize .strict text = .ok tokens)
    : ∃ later,
        tokenize .strict (text ++ blanks) = .ok later
        ∧ (EndsOrdinary tokens → later = tokens) := by
  obtain ⟨later, run, same⟩ := (tokenize_strict_eq_ok_iff.mp read).append_blanks blank
  exact ⟨later, run.tokenize_complete, same⟩

/-- The error is the same but for the expression it names, and so is the character it locates. -/
theorem tokenize_error_blanks {text error} (failed : tokenize .strict text = .error error)
    : tokenize .strict (text ++ blanks) = .error { error with expression := text ++ blanks }
      ∧ { error with expression := text ++ blanks }.byteSpan = error.byteSpan := by
  obtain ⟨rfl, tokens, run⟩ := failed_of_tokenize_error failed
  obtain ⟨later, again, -⟩ := run.append_blanks blank
  obtain ⟨c, -, locates⟩ := tokenize_error_locates failed
  exact ⟨again.tokenize_failed, locates.byteSpan_append blanks⟩

end Lexer

-----------------------------------------------------------------------------------------
-- Reports
-----------------------------------------------------------------------------------------

include blank in
/-- Behind the first piece of a text without line feeds there are only the blanks behind it. -/
theorem Text.CutIntoLines.blank_after {text line more}
    (cut : CutIntoLines (text ++ blanks) (line :: more)) (inside : '\n' ∉ text)
    : ∀ c ∈ more.flatten, isBlank c := by
  generalize whole : text ++ blanks = source at cut
  cases cut with
  | last visible inside => simp
  | @line line rest _ _ later =>
      rw [later.flatten]
      intro c member
      refine blank c ?_
      rcases List.append_eq_append_iff.mp whole with ⟨front, -, behind⟩ | ⟨front, rfl, behind⟩
      · simp [behind, member]
      · cases front with
        | nil =>
            rw [List.nil_append] at behind
            simp [← behind, member]
        | cons d front =>
            obtain ⟨rfl, -⟩ := List.cons.inj behind
            simp at inside

namespace Source

/-- Lines of blanks have no reports, by induction on them. -/
theorem reports_blank (base : Nat) {lines : List Text} (blank : ∀ c ∈ lines.flatten, isBlank c)
    : (checkFrom base lines).log.reports = [] := by
  induction lines generalizing base with
  | nil => rfl
  | cons line rest ih =>
      rw [List.flatten_cons, List.forall_mem_append] at blank
      have here : (expressionOf line).all isBlank := by
        rw [all_isBlank_expressionOf]
        exact List.all_eq_true.mpr blank.1
      rw [checkFrom_cons, Check.append, ih _ blank.2, checkLine, report?_blank here]
      rfl

include blank

theorem report?_append_blanks (base : Nat) (text : Text)
    : (report? base (text ++ blanks)).map Report.diagnostic
      = (report? base text).map Report.diagnostic := by
  cases verdict : tokenize .strict text with
  | ok tokens =>
      obtain ⟨later, read, -⟩ := Lexer.tokenize_ok_blanks blank verdict
      simp only [report?, verdict, read, Option.map_none]
  | error error =>
      obtain ⟨failed, span⟩ := Lexer.tokenize_error_blanks blank verdict
      simp only [report?, verdict, failed, Option.map_some, Report.diagnostic, Report.label, span]

theorem diagnostics_append_blanks {source : Source} {text : Text}
    (ends : source.text = text ++ blanks) (inside : '\n' ∉ text)
    : source.checkLines.log.reports.map Report.diagnostic
      = (report? 0 source.text).toList.map Report.diagnostic := by
  have cut := Text.cutIntoLines_pieces source.text
  rw [checkLines]
  rcases pieces : Text.pieces source.text with _ | ⟨line, more⟩ <;> rw [pieces] at cut
  · rw [← cut.flatten, List.flatten_nil, report?_blank rfl]
    rfl
  · have whole := cut.flatten
    rw [ends] at cut
    have after := cut.blank_after blank inside
    obtain ⟨lineEnds, split, trimmed⟩ := expressionOf_append line
    have same := report?_append_blanks (List.forall_mem_append.mpr ⟨trimmed, after⟩) 0
      (expressionOf line)
    rw [← List.append_assoc, ← split, ← List.flatten_cons, whole] at same
    rw [checkFrom_cons, Check.append, reports_blank _ after, checkLine, List.append_nil,
      ← Option.toList_map, ← Option.toList_map, same]

end Source

/-- A strict verdict stays what it is with blanks behind the expression, whether it is an error or
not: an error keeps its cause, its offset and the bytes it names, and tokens stay the same unless
the last one is a parameter value. So a source whose only line feeds are among those blanks is
reported with the error of its whole text, although its check leaves out the end of the line.
-/
theorem tokenize_append_blanks (text : Text) {blanks : Text} (blank : ∀ c ∈ blanks, isBlank c)
    : (∀ error,
        tokenize .strict text = .error error
        → tokenize .strict (text ++ blanks) = .error { error with expression := text ++ blanks }
          ∧ { error with expression := text ++ blanks }.byteSpan = error.byteSpan)
      ∧ (∀ tokens,
          tokenize .strict text = .ok tokens
          → ∃ later,
              tokenize .strict (text ++ blanks) = .ok later
              ∧ (Lexer.EndsOrdinary tokens → later = tokens))
      ∧ ∀ source : Source,
          source.text = text ++ blanks
          → '\n' ∉ text
          → source.checkLines.log.reports.map Report.diagnostic
            = match tokenize .strict source.text with
              | .ok _ => []
              | .error error => [Report.diagnostic ⟨.lexical error, Source.fileId, 0⟩] := by
  refine ⟨?_, ?_, ?_⟩
  · intro error failed
    exact Lexer.tokenize_error_blanks blank failed
  · intro tokens read
    exact Lexer.tokenize_ok_blanks blank read
  · intro source ends inside
    rw [Source.diagnostics_append_blanks blank ends inside, Source.report?]
    cases tokenize .strict source.text <;> rfl

/-- An exponent without digits is reported the same before a line end, behind a wide letter. -/
theorem tokenize_append_blanks_unfinished
    : let text := "é + 1e".toList
      let ends := " \r\n".toList
      let error : LexError := ⟨.malformedNumber "1e".toList, 4, text ++ ends⟩
      (∀ c ∈ ends, isBlank c)
        ∧ tokenize .strict (text ++ ends) = .error error
        ∧ error.byteSpan = (5, 6)
        ∧ (Source.checkLines ⟨"m".toList, text ++ ends⟩).log.reports.map Report.diagnostic
          = [Report.diagnostic ⟨.lexical error, Source.fileId, 0⟩] := by
  have blank : ∀ c ∈ " \r\n".toList, isBlank c := List.all_eq_true.mp (by cbv)
  have failed : tokenize .strict "é + 1e".toList
      = .error ⟨.malformedNumber "1e".toList, 4, "é + 1e".toList⟩ := by
    cbv
  have span : (LexError.mk (.malformedNumber "1e".toList) 4 "é + 1e".toList).byteSpan = (5, 6) := by
    decide
  obtain ⟨rejected, -, reported⟩ := tokenize_append_blanks "é + 1e".toList blank
  obtain ⟨same, bytes⟩ := rejected _ failed
  have reports := reported ⟨"m".toList, "é + 1e".toList ++ " \r\n".toList⟩ rfl (by decide)
  rw [same] at reports
  exact ⟨blank, same, bytes.trans span, reports⟩

end KSharp
