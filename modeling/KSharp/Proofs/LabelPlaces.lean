import Mathlib.Data.List.Basic
import KSharp.Command
import KSharp.Proofs.LineChecks

/-! Where the label of an error is shown: the line and the column count the line feeds and the
characters before the labelled one, so they agree with the offset of the error. A label never
reaches over the end of its line.
-/

namespace KSharp

-----------------------------------------------------------------------------------------
-- Places of bytes
-----------------------------------------------------------------------------------------

namespace Snippet

/-- A byte of a text is on the line behind all the line feeds among the bytes before it, and in the
column behind the characters that stand between the start of that line and the byte.
-/
structure Shows (text : Text) (byte line column : Nat) : Prop where
  line_eq : line = (text.utf8Encode.extract 0 byte).data.count 0x0A + 1
  column_eq
    : ∃ before part after,
        text = before ++ part ++ after
        ∧ byte = Text.utf8Length (before ++ part)
        ∧ (before = [] ∨ before.getLast? = some '\n')
        ∧ '\n' ∉ part
        ∧ column = part.length + 1

theorem takeBytes_append (front rest : Text)
    : takeBytes (Text.utf8Length front) (front ++ rest) = front := by
  induction front with
  | nil =>
      cases rest with
      | nil => rfl
      | cons c more =>
          have positive := c.utf8Size_pos
          simp only [Text.utf8Length, List.nil_append, takeBytes]
          rw [if_neg (by omega)]
  | cons c more ih => simp [Text.utf8Length, takeBytes, ih]

/-- A text is whole lines and a part of the next one, which is what stands behind its last line
feed.
-/
theorem exists_lines_append (text : Text)
    : ∃ before part,
        text = before ++ part ∧ (before = [] ∨ before.getLast? = some '\n') ∧ '\n' ∉ part := by
  obtain ⟨part, split, inside, last⟩ := Text.trimEnd_append (· ≠ '\n') text
  refine ⟨_, part, split, ?_, ?_⟩
  · cases ends : (Text.trimEnd (· ≠ '\n') text).getLast? with
    | none => exact Or.inl (List.getLast?_eq_none_iff.mp ends)
    | some c =>
        have feed : c = '\n' := by simpa using last c ends
        exact Or.inr (congrArg some feed)
  · intro member
    simpa using inside '\n' member

section

variable {before part : Text} (ends : before = [] ∨ before.getLast? = some '\n')
  (inside : '\n' ∉ part)

include ends inside

theorem takeWhile_reverse_append
    : (before ++ part).reverse.takeWhile (· ≠ '\n') = part.reverse := by
  have stops : Text.Stops (· ≠ '\n') before.reverse := by
    intro c first
    rw [List.head?_reverse] at first
    rcases ends with rfl | last
    · simp at first
    · rw [last] at first
      cases first
      rfl
  rw [List.reverse_append]
  refine stops.takeWhile_append ?_
  intro c member
  refine decide_eq_true ?_
  rintro rfl
  exact inside (List.mem_reverse.mp member)

omit ends in
theorem count_append_of_inside : (before ++ part).count '\n' = before.count '\n' := by
  rw [List.count_append, List.count_eq_zero.mpr inside, Nat.add_zero]

variable (after : Text)

/-- Behind whole lines and a part of the next one the place counts those lines and shows that part
before itself.
-/
theorem placeOf_append
    : placeOf (Text.utf8Length (before ++ part)) (before ++ part ++ after)
      = ⟨before.count '\n' + 1, part, after.takeWhile (· ≠ '\n')⟩ := by
  simp only [placeOf, takeBytes_append, takeWhile_reverse_append ends inside,
    count_append_of_inside inside, List.drop_left, List.reverse_reverse]

theorem shows_append
    : Shows (before ++ part ++ after) (Text.utf8Length (before ++ part))
        (before.count '\n' + 1) (part.length + 1) := by
  refine ⟨?_, before, part, after, rfl, rfl, ends, inside, rfl⟩
  have bytes := Text.extract_utf8Encode [] (before ++ part) after
  rw [List.nil_append, Text.utf8Length, Nat.zero_add] at bytes
  rw [bytes, Text.count_utf8Encode, count_append_of_inside inside]

end

/-- The first line of a rendering ends with the source's name and the numbers of the place. -/
theorem renderLabel_names (source : Source) (label : Label)
    : let place := placeOf label.start source.text
      ∃ border below,
        renderLabel source label
          = border ++ source.name ++ ':' :: Text.ofNat place.line ++ ':' :: Text.ofNat place.column
            ++ '\n' :: below := by
  have split (first : Text) (rest : List Text)
      : (first :: rest).flatMap (· ++ ['\n']) = first ++ '\n' :: rest.flatMap (· ++ ['\n']) := by
    simp
  exact ⟨_, _, split _ _⟩

end Snippet

-----------------------------------------------------------------------------------------
-- Labels
-----------------------------------------------------------------------------------------

/-- A label is shown at a line and a column of a source: its rendering names both, its first byte
is there, and its end is one column further on in the same line.
-/
structure Label.ShownAt (source : Source) (label : Label) (line column : Nat) : Prop where
  named
    : ∃ border below,
        Snippet.renderLabel source label
          = border ++ source.name ++ ':' :: Text.ofNat line ++ ':' :: Text.ofNat column
            ++ '\n' :: below
  first : Snippet.Shows source.text label.start line column
  last : Snippet.Shows source.text label.stop line (column + 1)

/-- A label on one character is shown behind the whole lines before it and the part of its own
line, unless that character is a line feed.
-/
theorem Label.shownAt {source : Source} {label : Label} {before part : Text} {c : Char}
    {after : Text} (text : source.text = before ++ part ++ c :: after)
    (start : label.start = Text.utf8Length (before ++ part))
    (stop : label.stop = label.start + c.utf8Size)
    (ends : before = [] ∨ before.getLast? = some '\n') (inside : '\n' ∉ part)
    (visible : c ≠ '\n')
    : label.ShownAt source (before.count '\n' + 1) (part.length + 1) := by
  refine ⟨?_, ?_, ?_⟩
  · have place := Snippet.placeOf_append ends inside (c :: after)
    rw [← text, ← start] at place
    have named := Snippet.renderLabel_names source label
    rwa [place] at named
  · rw [text, start]
    exact Snippet.shows_append ends inside (c :: after)
  · have longer : '\n' ∉ part ++ [c] := by simp [inside, visible.symm]
    have shown := Snippet.shows_append ends longer after
    have source : before ++ (part ++ [c]) ++ after = source.text := by simp [text]
    have length : Text.utf8Length (before ++ (part ++ [c])) = label.stop := by
      rw [stop, start, ← List.append_assoc, Text.utf8Length_append]
      rfl
    rwa [source, length, List.length_append] at shown

-----------------------------------------------------------------------------------------
-- Printed labels
-----------------------------------------------------------------------------------------

/-- What is printed of a lexical error in a source: a line with its cause, and the label below it.
-/
def Label.printed (source : Source) (error : LexError) (label : Label) : Text :=
  "error: ".toList ++ ("字句解析エラー: ".toList ++ error.cause.message) ++ ['\n']
    ++ Snippet.renderLabel source label

theorem Report.render_diagnostic {report : Report} {error : LexError}
    (lexical : report.failure = .lexical error) (source : Source)
    : Snippet.render source report.diagnostic = (report.label error).printed source error := by
  have shown : report.diagnostic
      = ⟨"字句解析エラー: ".toList ++ error.cause.message, [report.label error]⟩ := by
    simp only [diagnostic, lexical]
  rw [shown]
  unfold Snippet.render Label.printed
  dsimp only
  rw [List.flatMap_singleton]

namespace Command

/-- A check prints each of its reports. -/
theorem printed_of_mem {source : Source} {report : Report} {error : LexError}
    (member : report ∈ source.checkLines.log.reports) (lexical : report.failure = .lexical error)
    : (report.label error).printed source error <:+: (runCheck source).errors := by
  have log : Snippet.render source report.diagnostic
      <:+: Snippet.renderLog source source.checkLines.log := by
    rw [Snippet.renderLog, List.flatMap_def]
    exact List.infix_of_mem_flatten (List.mem_map_of_mem member)
  rw [Report.render_diagnostic lexical] at log
  have reported : source.checkLines.log.hasErrors := by
    rw [ErrorLog.hasErrors, Bool.not_eq_true', List.isEmpty_eq_false_iff]
    exact List.ne_nil_of_mem member
  simp only [runCheck, if_pos reported, failed, List.append_assoc]
  exact log.trans (List.prefix_append _ _).isInfix

end Command

-----------------------------------------------------------------------------------------
-- Labels of errors
-----------------------------------------------------------------------------------------

theorem isLineEnd_of_visible {c : Char} (visible : isBlank c = false)
    : Text.isLineEnd c = false := by
  rw [← Bool.not_eq_true] at visible ⊢
  intro ended
  simp only [Text.isLineEnd, Bool.or_eq_true, decide_eq_true_eq] at ended
  rcases ended with rfl | rfl <;> exact visible (by decide)

/-- The label of an error is on the character that follows as many others as its offset says. -/
theorem Report.label_bounds (report : Report) {error : LexError} {left : Text} {c : Char}
    {right : Text} (split : error.expression = left ++ c :: right)
    (offset : error.offset = left.length)
    : (report.label error).start = report.base + Text.utf8Length left
      ∧ (report.label error).stop = (report.label error).start + c.utf8Size := by
  simp only [label, LexError.byteSpan_eq split offset, Nat.add_assoc, and_self]

/-- A report on a piece is shown on the line with the piece's number, in the column behind the
offset of its error: the pieces before are ended, and the piece has no line feed before the error.
-/
theorem Report.IsOn.shownAt {report : Report} {source : Source} {before expression ends after}
    {error : LexError} {c : Char}
    (on : report.IsOn source.text before expression ends after error c)
    : Text.isLineEnd c = false
      ∧ (report.label error).ShownAt source (before.length + 1) (error.offset + 1) := by
  obtain ⟨d, visible, locates⟩ := Lexer.tokenize_error_locates on.fails
  obtain rfl : d = c := by
    have here := locates.at_offset
    rw [on.whole, on.character] at here
    exact (Option.some.inj here).symm
  obtain ⟨left, right, split, offset⟩ := locates.split
  obtain ⟨start, stop⟩ := report.label_bounds split offset
  have cut := Text.cutIntoLines_pieces source.text
  have whole := cut.flatten
  rw [on.piece] at cut whole
  obtain ⟨ended, behind⟩ := cut.split
  rw [← on.whole, split] at behind whole
  have inside := behind.not_mem_of_append (List.append_assoc left _ _)
  rw [on.base, ← Text.utf8Length_flatten, ← Text.utf8Length_append] at start
  have text : source.text = before.flatten ++ left ++ d :: (right ++ ends ++ after.flatten) := by
    rw [← whole]
    simp
  have shown := Label.shownAt text start stop ended.getLast?_flatten inside
    (ne_lineFeed_of_visible visible)
  rw [ended.count_flatten, ← offset] at shown
  exact ⟨isLineEnd_of_visible visible, shown⟩

/-- The report on the error of a whole text is shown behind the line feeds and the characters that
stand before the error.
-/
theorem Report.shownAt_of_whole {source : Source} {error : LexError}
    (failed : tokenize .strict source.text = .error error)
    : let front := source.text.take error.offset
      (Report.label ⟨.lexical error, Source.fileId, 0⟩ error).ShownAt source
        (front.count '\n' + 1) ((front.reverse.takeWhile (· ≠ '\n')).length + 1) := by
  intro front
  obtain ⟨c, visible, locates⟩ := Lexer.tokenize_error_locates failed
  obtain ⟨left, right, split, offset⟩ := locates.split
  obtain ⟨start, stop⟩ := Report.label_bounds ⟨.lexical error, Source.fileId, 0⟩ split offset
  have text := (Lexer.failed_of_tokenize_error failed).1.symm.trans split
  have taken : front = left := by simp only [front, text, offset, List.take_left]
  obtain ⟨before, part, rfl, ends, inside⟩ := Snippet.exists_lines_append left
  rw [Nat.zero_add] at start
  have shown := Label.shownAt text start stop ends inside (ne_lineFeed_of_visible visible)
  rwa [taken, Snippet.takeWhile_reverse_append ends inside,
    Snippet.count_append_of_inside inside, List.length_reverse]

/-- The label of an error is shown where its offset says. In a check of lines it stands in the line
with the number of the failing piece, as many columns behind the first one as the offset counts. For
a whole text it stands behind the line feeds among the characters before the offset, and behind the
characters that follow the last of those. It marks no line end and ends in the line it starts in.
Either command prints the label below the cause of its error.
-/
theorem errors_shown_at_offset (source : Source)
    : (∀ report ∈ source.checkLines.log.reports,
        ∃ before expression ends after error c,
          report.IsOn source.text before expression ends after error c
          ∧ Text.isLineEnd c = false
          ∧ (report.label error).ShownAt source (before.length + 1) (error.offset + 1)
          ∧ (report.label error).printed source error <:+: (Command.runCheck source).errors)
      ∧ ∀ error,
          tokenize .strict source.text = .error error
          → let report : Report := ⟨.lexical error, Source.fileId, 0⟩
            let front := source.text.take error.offset
            (∀ format,
              Command.runTokens .strict format source
                = Command.failed (Snippet.render source report.diagnostic)
                    "Lexical analysis failed".toList)
            ∧ (∀ format,
                (Command.runTokens .strict format source).errors
                = (report.label error).printed source error
                  ++ "error: Lexical analysis failed\n".toList)
            ∧ report.diagnostic.labels = [report.label error]
            ∧ (∃ c, source.text[error.offset]? = some c ∧ Text.isLineEnd c = false)
            ∧ (report.label error).ShownAt source
                (front.count '\n' + 1) ((front.reverse.takeWhile (· ≠ '\n')).length + 1) := by
  refine ⟨?_, ?_⟩
  · intro report member
    have reports : source.checkLines.log.reports
        = (Text.pieces source.text).zipIdx.filterMap
            (Source.reportOn (Text.pieces source.text)) :=
      Source.reports_checkFrom [] _
    have listed := member
    rw [reports] at listed
    obtain ⟨before, expression, ends, after, error, c, here⟩ := Source.exists_isOn listed
    obtain ⟨visible, shown⟩ := here.shownAt
    exact ⟨before, expression, ends, after, error, c, here, visible, shown,
      Command.printed_of_mem member here.failure⟩
  · intro error failed report front
    obtain ⟨c, visible, locates⟩ := Lexer.tokenize_error_locates failed
    have whole := (Lexer.failed_of_tokenize_error failed).1
    have fails (format : Format)
        : Command.runTokens .strict format source
          = Command.failed (Snippet.render source report.diagnostic)
              "Lexical analysis failed".toList := by
      simp [Command.runTokens, failed, Snippet.renderLog, ErrorLog.add, ErrorLog.empty, report]
    refine ⟨fails, ?_, rfl, ⟨c, ?_, isLineEnd_of_visible visible⟩,
      Report.shownAt_of_whole failed⟩
    · intro format
      rw [fails, Command.failed, Report.render_diagnostic rfl, List.append_assoc,
        List.append_assoc]
      rfl
    · rw [← whole]
      exact locates.at_offset

/-- A literal over two lines is open on either of them alone, and closed before a section sign in
the fourth column of the second line.
-/
theorem errors_shown_at_offset_multiline
    : let source : Source := ⟨"m".toList, "\"a\r\né\" §".toList⟩
      let second : Report := ⟨.lexical ⟨.unterminatedString, 1, "é\" §".toList⟩, Source.fileId, 4⟩
      let error : LexError := ⟨.unexpectedCharacter '§', 7, source.text⟩
      second ∈ source.checkLines.log.reports
        ∧ (∃ before expression ends after error c,
            second.IsOn source.text before expression ends after error c
            ∧ Text.isLineEnd c = false
            ∧ (second.label error).ShownAt source (before.length + 1) (error.offset + 1)
            ∧ (second.label error).printed source error <:+: (Command.runCheck source).errors)
        ∧ tokenize .strict source.text = .error error
        ∧ (Report.label ⟨.lexical error, Source.fileId, 0⟩ error).ShownAt source 2 4 := by
  intro source second error
  obtain ⟨check, failed⟩
      : source.checkLines.log.reports
          = [⟨.lexical ⟨.unterminatedString, 0, "\"a".toList⟩, Source.fileId, 0⟩, second]
        ∧ tokenize .strict source.text = .error error :=
    ⟨by cbv, by cbv⟩
  obtain ⟨lines, whole⟩ := errors_shown_at_offset source
  have member : second ∈ source.checkLines.log.reports := by simp [check]
  obtain ⟨-, -, -, -, shown⟩ := whole error failed
  exact ⟨member, lines second member, failed, shown⟩

end KSharp
