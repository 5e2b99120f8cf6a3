import KSharp.Proofs.ErrorPlaces
import KSharp.Proofs.LineCuts
import KSharp.Source

/-! The check of a source line by line: which expressions it counts, which errors it reports and
which bytes of the source their labels mark. Checks of sources that are joined at a line end join
as well.
-/

namespace KSharp

-----------------------------------------------------------------------------------------
-- Labels on the bytes of a text
-----------------------------------------------------------------------------------------

/-- The bytes of texts one behind the other are those of each of them. -/
theorem Text.utf8Length_flatten (texts : List Text)
    : utf8Length texts.flatten = (texts.map utf8Length).sum := by
  induction texts with
  | nil => rfl
  | cons text rest ih =>
      rw [List.flatten_cons, utf8Length_append, ih, List.map_cons, List.sum_cons]

/-- A label is of bytes of the expression that starts at the byte `base` of a text: it is not empty
and holds the bytes of a character.
-/
structure Label.Marks (label : Label) (text : Text) (base : Nat) (expression : Text) (c : Char)
    : Prop where
  nonempty : label.start < label.stop
  behind : base ≤ label.start
  within : label.stop ≤ base + Text.utf8Length expression
  bytes : text.utf8Encode.extract label.start label.stop = [c].utf8Encode

/-- The label of an error marks the character that the error locates, wherever in a text the
expression stands.
-/
theorem Report.label_marks {error : LexError} {c : Char} (locates : error.Locates c)
    (fileId : Nat) (front rest : Text)
    : (Report.label ⟨.lexical error, fileId, Text.utf8Length front⟩ error).Marks
        (front ++ (error.expression ++ rest)) (Text.utf8Length front) error.expression c := by
  obtain ⟨left, right, split, offset⟩ := locates.split
  have span := LexError.byteSpan_eq split offset
  have positive := c.utf8Size_pos
  refine ⟨?_, ?_, ?_, ?_⟩ <;> simp only [label, span]
  · omega
  · omega
  · rw [split, Text.utf8Length_append, Text.utf8Length]
    omega
  · have bytes := Text.extract_utf8Encode (front ++ left) [c] (right ++ rest)
    rw [Text.utf8Length_append, Nat.add_assoc] at bytes
    simpa [split, Text.utf8Length] using bytes

/-- A report is on the expression of a piece of a text, which is the piece without the line ends at
its end: the report has the expression's error and first byte, and its only label marks the
character at the error's offset.
-/
structure Report.IsOn (report : Report) (text : Text) (before : List Text) (expression ends : Text)
    (after : List Text) (error : LexError) (c : Char)
    : Prop where
  piece : Text.pieces text = before ++ (expression ++ ends) :: after
  ends : ∀ d ∈ ends, Text.isLineEnd d
  trimmed : ∀ d, expression.getLast? = some d → Text.isLineEnd d = false
  fails : tokenize .strict expression = .error error
  whole : error.expression = expression
  failure : report.failure = .lexical error
  base : report.base = (before.map Text.utf8Length).sum
  character : expression[error.offset]? = some c
  labelled : report.diagnostic.labels = [report.label error]
  marks : (report.label error).Marks text report.base expression c

-----------------------------------------------------------------------------------------
-- Checks one behind the other
-----------------------------------------------------------------------------------------

/-- A report whose expression stands that many bytes further on. -/
def Report.moved (distance : Nat) (report : Report) : Report :=
  { report with base := report.base + distance }

/-- The check of a text that starts that many bytes further on. -/
def Check.moved (distance : Nat) (check : Check) : Check :=
  ⟨check.checked, ⟨check.log.reports.map (.moved distance)⟩⟩

/-- A check and a later one: both counts, and the reports in their order. -/
def Check.append (first second : Check) : Check :=
  ⟨first.checked + second.checked, ⟨first.log.reports ++ second.log.reports⟩⟩

theorem Check.empty_append (check : Check) : append ⟨0, .empty⟩ check = check := by
  simp [append, ErrorLog.empty]

theorem Check.append_assoc (first second third : Check)
    : (first.append second).append third = first.append (second.append third) := by
  simp [append, Nat.add_assoc]

theorem Check.moved_append (distance : Nat) (first second : Check)
    : (first.append second).moved distance
      = (first.moved distance).append (second.moved distance) := by
  simp [moved, append]

-----------------------------------------------------------------------------------------
-- Checks line by line
-----------------------------------------------------------------------------------------

namespace Source

/-- The report on a piece and its number, if it has an error without its line end: the expression
starts behind the bytes of the pieces before.
-/
def reportOn (pieces : List Text) : Text × Nat → Option Report
  | (piece, index) =>
    match tokenize .strict (expressionOf piece) with
    | .ok _ => none
    | .error error =>
      some ⟨.lexical error, fileId, ((pieces.take index).map Text.utf8Length).sum⟩

theorem report?_eq_some_iff {base expression report}
    : report? base expression = some report
      ↔ ∃ error,
          tokenize .strict expression = .error error
          ∧ report = ⟨.lexical error, fileId, base⟩ := by
  unfold report?
  cases tokenize .strict expression with
  | ok tokens => simp
  | error error => simp [eq_comm]

/-- A line is its expression with line ends behind it, which are blanks. -/
theorem expressionOf_append (line : Text)
    : ∃ ends, line = expressionOf line ++ ends ∧ ∀ c ∈ ends, isBlank c := by
  obtain ⟨ends, split, dropped, -⟩ := Text.trimEnd_append Text.isLineEnd line
  refine ⟨ends, split, ?_⟩
  intro c member
  have ended := dropped c member
  simp only [Text.isLineEnd, Bool.or_eq_true, decide_eq_true_eq] at ended
  rcases ended with rfl | rfl <;> decide

/-- So a line is blank exactly if its expression is. -/
theorem all_isBlank_expressionOf (line : Text)
    : (expressionOf line).all isBlank = line.all isBlank := by
  obtain ⟨ends, split, blank⟩ := expressionOf_append line
  have whole := congrArg (List.all · isBlank) split
  simp only [List.all_append, List.all_eq_true.mpr blank, Bool.and_true] at whole
  exact whole.symm

/-- An expression of blanks has no error, as an error locates a character that is no blank. -/
theorem report?_blank {base expression} (blank : expression.all isBlank)
    : report? base expression = none := by
  apply Option.eq_none_iff_forall_ne_some.mpr
  intro report found
  obtain ⟨error, failed, -⟩ := report?_eq_some_iff.mp found
  obtain ⟨c, visible, locates⟩ := Lexer.tokenize_error_locates failed
  have whole := (Lexer.failed_of_tokenize_error failed).1
  have member := List.mem_of_getElem? (whole ▸ locates.at_offset)
  have same := List.all_eq_true.mp blank c member
  rw [visible] at same
  cases same

/-- The check of a line alone, which starts at the byte `base`: it is counted if it has a character
that is no blank, and reported if its expression has an error.
-/
def checkLine (base : Nat) (line : Text) : Check :=
  ⟨if line.any (!isBlank ·) then 1 else 0, ⟨(report? base (expressionOf line)).toList⟩⟩

/-- Each line is checked alone, before the later ones: skipping a blank line hides no error. -/
theorem checkFrom_cons (base : Nat) (line : Text) (rest : List Text)
    : checkFrom base (line :: rest)
      = (checkLine base line).append (checkFrom (base + Text.utf8Length line) rest) := by
  have same := all_isBlank_expressionOf line
  have visible : line.any (!isBlank ·) = !line.all isBlank := by
    rw [List.any_eq_not_all_not]
    simp
  rw [← same] at visible
  by_cases blank : (expressionOf line).all isBlank
  · simp [checkFrom, checkLine, Check.append, visible, blank, report?_blank blank]
  · simp [checkFrom, checkLine, Check.append, visible, blank, Nat.add_comm]

/-- The lines that are counted are those with a character that is no blank. -/
theorem checked_checkFrom (base : Nat) (lines : List Text)
    : (checkFrom base lines).checked = lines.countP (·.any (!isBlank ·)) := by
  induction lines generalizing base with
  | nil => rfl
  | cons line rest ih =>
      rw [checkFrom_cons, List.countP_cons, Check.append, ih, Nat.add_comm]
      rfl

/-- Each piece that has an error is reported, with the bytes of the pieces before it as its base. By
induction on the pieces that are left.
-/
theorem reports_checkFrom (before after : List Text)
    : (checkFrom (before.map Text.utf8Length).sum after).log.reports
      = (after.zipIdx before.length).filterMap (reportOn (before ++ after)) := by
  induction after generalizing before with
  | nil => rfl
  | cons line rest ih =>
      have later := ih (before ++ [line])
      have here : reportOn (before ++ line :: rest) (line, before.length)
          = report? (before.map Text.utf8Length).sum (expressionOf line) := by
        simp only [reportOn, List.take_left]
        rfl
      simp only [List.map_append, List.sum_append, List.map_singleton, List.sum_singleton,
        List.length_append, List.length_singleton, List.append_assoc,
        List.singleton_append] at later
      rw [checkFrom_cons, Check.append, later, checkLine, List.zipIdx_cons, List.filterMap_cons,
        here]
      cases report? (before.map Text.utf8Length).sum (expressionOf line) <;> rfl

/-- The check of lines is that of a front of them and of the others behind it. By induction on the
front.
-/
theorem checkFrom_append (base : Nat) (front rest : List Text)
    : checkFrom base (front ++ rest)
      = (checkFrom base front).append
          (checkFrom (base + (front.map Text.utf8Length).sum) rest) := by
  induction front generalizing base with
  | nil => exact (Check.empty_append _).symm
  | cons line more ih =>
      rw [List.cons_append, checkFrom_cons, checkFrom_cons, ih, Check.append_assoc, Nat.add_assoc]
      rfl

theorem checkLine_moved (distance base : Nat) (line : Text)
    : checkLine (base + distance) line = (checkLine base line).moved distance := by
  unfold checkLine report?
  cases tokenize .strict (expressionOf line) <;> rfl

/-- Lines that start further on have the same reports that many bytes further on. -/
theorem checkFrom_moved (distance base : Nat) (lines : List Text)
    : checkFrom (base + distance) lines = (checkFrom base lines).moved distance := by
  induction lines generalizing base with
  | nil => rfl
  | cons line rest ih =>
      rw [checkFrom_cons, checkFrom_cons, Check.moved_append, checkLine_moved, ← ih,
        Nat.add_right_comm]

/-- The report of the error on a piece is on its expression, behind which only line ends stand. -/
theorem report_isOn {text : Text} {before : List Text} {piece : Text} {after : List Text} {error}
    (cut : Text.pieces text = before ++ piece :: after)
    (failed : tokenize .strict (expressionOf piece) = .error error)
    : ∃ expression ends c,
        (Report.mk (.lexical error) fileId (before.map Text.utf8Length).sum).IsOn text before
          expression ends after error c := by
  obtain ⟨ends, split, dropped, kept⟩ := Text.trimEnd_append Text.isLineEnd piece
  obtain ⟨whole, -⟩ := Lexer.failed_of_tokenize_error failed
  obtain ⟨c, -, locates⟩ := Lexer.tokenize_error_locates failed
  rw [split] at cut
  have source : text = before.flatten ++ (error.expression ++ (ends ++ after.flatten)) := by
    rw [← (Text.cutIntoLines_pieces text).flatten, cut, whole, expressionOf]
    simp
  have marks := Report.label_marks locates fileId before.flatten (ends ++ after.flatten)
  rw [← source, Text.utf8Length_flatten, whole] at marks
  have character := locates.at_offset
  rw [whole] at character
  exact ⟨expressionOf piece, ends, c, cut, dropped, kept, failed, whole, rfl, rfl, character, rfl,
    marks⟩

theorem exists_isOn {text : Text} {report : Report}
    (member : report ∈ (Text.pieces text).zipIdx.filterMap (reportOn (Text.pieces text)))
    : ∃ before expression ends after error c,
        report.IsOn text before expression ends after error c := by
  obtain ⟨⟨piece, index⟩, numbered, found⟩ := List.mem_filterMap.mp member
  have there : (Text.pieces text)[index]? = some piece := List.mem_zipIdx_iff_getElem?.mp numbered
  obtain ⟨inside, rfl⟩ := List.getElem?_eq_some_iff.mp there
  have cut : Text.pieces text = (Text.pieces text).take index
      ++ (Text.pieces text)[index] :: (Text.pieces text).drop (index + 1) := by
    rw [← List.drop_eq_getElem_cons inside, List.take_append_drop]
  cases failed : tokenize .strict (expressionOf (Text.pieces text)[index]) with
  | ok tokens => simp [reportOn, failed] at found
  | error error =>
      simp only [reportOn, failed] at found
      cases found
      obtain ⟨expression, ends, c, on⟩ := report_isOn cut failed
      exact ⟨_, expression, ends, _, error, c, on⟩

/-- The check of a source counts the lines that hold more than blanks and reports the error of each
expression in order, with the line's first byte and a label on the character. Sources that are
joined at a line end have the check of the first and that of the second, moved behind it.
-/
theorem checkLines_reports (source : Source)
    : let pieces := Text.pieces source.text
      Text.CutIntoLines source.text pieces
        ∧ source.checkLines.checked = pieces.countP (·.any (!isBlank ·))
        ∧ source.checkLines.log.reports = pieces.zipIdx.filterMap (reportOn pieces)
        ∧ (∀ report ∈ source.checkLines.log.reports,
            ∃ before expression ends after error c,
              report.IsOn source.text before expression ends after error c)
        ∧ ∀ first second,
            source.text = first ++ second
            → (first = [] ∨ first.getLast? = some '\n')
            → source.checkLines
              = (checkLines { source with text := first }).append
                  ((checkLines { source with text := second }).moved (Text.utf8Length first)) := by
  have reports : source.checkLines.log.reports
      = (Text.pieces source.text).zipIdx.filterMap (reportOn (Text.pieces source.text)) :=
    reports_checkFrom [] _
  refine ⟨Text.cutIntoLines_pieces source.text, checked_checkFrom 0 _, reports, ?_, ?_⟩
  · intro report member
    rw [reports] at member
    exact exists_isOn member
  · intro first second whole ends
    have cut := Text.cutIntoLines_pieces first
    simp only [checkLines]
    rw [whole, Text.pieces_append ends, checkFrom_append, checkFrom_moved,
      ← Text.utf8Length_flatten, cut.flatten]

/-- A section sign is reported on the third line, which starts at the byte 7 behind a letter of two
bytes, a blank line and their line ends.
-/
theorem checkLines_reports_third_line
    : let source : Source := ⟨"m".toList, "é\r\n \r\né §".toList⟩
      let report : Report :=
        ⟨.lexical ⟨.unexpectedCharacter '§', 2, "é §".toList⟩, fileId, 7⟩
      source.checkLines = ⟨2, ⟨[report]⟩⟩
        ∧ (∃ before expression ends after error c,
            report.IsOn source.text before expression ends after error c)
        ∧ source.checkLines
          = (checkLines { source with text := "é\r\n \r\n".toList }).append
              ((checkLines { source with text := "é §".toList }).moved
                (Text.utf8Length "é\r\n \r\n".toList)) := by
  have check : checkLines ⟨"m".toList, "é\r\n \r\né §".toList⟩
      = ⟨2, ⟨[⟨.lexical ⟨.unexpectedCharacter '§', 2, "é §".toList⟩, fileId, 7⟩]⟩⟩ := by
    cbv
  obtain ⟨-, -, -, on, join⟩ := checkLines_reports ⟨"m".toList, "é\r\n \r\né §".toList⟩
  refine ⟨check, on _ ?_, join _ _ rfl (Or.inr rfl)⟩
  rw [check]
  exact List.mem_singleton_self _

end Source

end KSharp
