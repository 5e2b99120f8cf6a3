import KSharp.Proofs.CursorNumbers
import KSharp.Proofs.CursorSymbols
import KSharp.Proofs.ParameterValues

/-! Runs of the machine that moves a cursor: each move follows the step, so a run from the place
where the step starts reads what the step reads, and no index and no slice of it is outside the
expression. The steps to parameter values agree in the same way.
-/

namespace KSharp.Cursor

variable {mode : Mode} {expression : Text} {origin start pos : Nat}

-----------------------------------------------------------------------------------------
-- Moves
-----------------------------------------------------------------------------------------

/-- Outside all lexemes the next character decides, in the order in which a lexeme is read. -/
theorem follows_atStart
    : Follows mode expression pos (some (atStart expression pos pos)) := by
  unfold atStart
  split
  · next ended =>
    apply Follows.stop
    rw [Scan.tokenAt, Text.drop_of_none ended]
    rfl
  next c here =>
  have around := Around.of_some here
  split
  · next blank =>
    apply Follows.goOn
    apply Reading.outside
    rw [Scan.tokenAt, around.ahead.drop_eq, List.nil_append, Scan.ahead_blank blank]
    rfl
  next dark =>
  split
  · next first => exact follows_next around (.word first (by simp))
  next word =>
  split
  · next digit => exact follows_next around (.integer ⟨by simp, by simpa using digit⟩)
  next digit =>
  split
  · next verbatim =>
    obtain ⟨sign, quote⟩ := verbatim
    obtain ⟨rest, equal⟩ := List.head?_eq_some_iff.mp (around.step.next.symm.trans quote)
    rw [sign, equal] at around
    exact follows_pair around (.verbatim .nil)
  next verbatim =>
  split
  · next quote =>
    subst quote
    exact follows_next around (.quoted .nil)
  next quote =>
  split
  · next operator => exact follows_next around (.symbol operator rfl)
  next operator =>
  have absent : Trivia.Absent (c :: expression.drop (pos + 1)) := by
    apply Trivia.absent_cons (by simpa using dark)
    intro slash
    subst slash
    exact operator (by decide)
  have reads := tokenAt_of_absent around.ahead absent mode
  rw [around.step.next] at verbatim
  simp only [Lexeme.read, word, digit, verbatim, quote, operator, ↓reduceIte, Bool.false_eq_true]
    at reads
  split
  · next kind alone =>
    rw [alone] at reads
    exact .stop reads
  · next unknown =>
    rw [unknown] at reads
    exact .stop reads

theorem follows_inLineComment
    (same : Scan.tokenAt mode expression origin
      = Scan.aheadIn .line mode pos (expression.drop pos))
    : Follows mode expression origin (some (inLineComment expression start pos)) := by
  unfold inLineComment
  split
  · next ended =>
    apply Follows.stop
    rw [same, Text.drop_of_none ended]
    rfl
  next c here =>
  have around := Around.of_some here
  rw [around.ahead.drop_eq, List.nil_append, Scan.aheadIn_line_cons] at same
  split
  · next ends =>
    rw [if_pos ends] at same
    apply Follows.goOn
    apply Reading.outside
    rw [same, Scan.tokenAt, around.ahead.drop_eq, List.nil_append]
  · next more =>
    rw [if_neg more] at same
    exact .goOn (.lineComment same)

theorem follows_inBlockComment
    (same : Scan.tokenAt mode expression origin
      = Scan.aheadIn .block mode pos (expression.drop pos))
    : Follows mode expression origin (some (inBlockComment expression start pos)) := by
  unfold inBlockComment
  split
  · next ended =>
    apply Follows.stop
    rw [same, Text.drop_of_none ended]
    rfl
  next c here =>
  have around := Around.of_some here
  rw [around.step.next]
  split
  · next closes =>
    obtain ⟨star, slash⟩ := closes
    obtain ⟨rest, equal⟩ := List.head?_eq_some_iff.mp slash
    rw [star, equal] at around
    have beyond := around.pair.behind
    rw [around.ahead.drop_eq, List.nil_append, Scan.aheadIn_block_close] at same
    apply Follows.goOn
    apply Reading.outside
    rw [same, Scan.tokenAt, beyond.ahead.drop_eq, List.nil_append]
  · next more =>
    have opens : ¬['*', '/'] <+: c :: expression.drop (pos + 1) :=
      fun front => more (Parameter.opens_of_front front)
    rw [around.ahead.drop_eq, List.nil_append, Scan.aheadIn_block_cons opens] at same
    exact .goOn (.blockComment same)

/-- Each move from a reading follows the step, one case for each state of the cursor. -/
theorem follows_move {cursor : Cursor} (reading : Reading mode expression origin cursor)
    : Follows mode expression origin (move mode expression cursor) := by
  cases reading with
  | outside same => exact follows_atStart.trans same
  | lineComment same => exact follows_inLineComment same
  | blockComment same => exact follows_inBlockComment same
  | @lexeme state start pos run after same around front =>
      apply Follows.trans _ same
      cases state with
      | start => cases front
      | word => exact follows_inWord around front
      | integer =>
          cases front with
          | integer digits => exact follows_inInteger around digits
      | point =>
          cases front with
          | point digits => exact follows_behindPoint around digits
      | fraction =>
          cases front with
          | fraction digits part => exact follows_inFraction around digits part
      | exponent => exact follows_inExponent around front
      | quoted =>
          cases front with
          | quoted grammar => exact follows_inQuoted around grammar
      | escaped =>
          cases front with
          | escaped grammar => exact follows_behindBackslash around grammar
      | verbatim =>
          cases front with
          | verbatim grammar => exact follows_inVerbatim around grammar
      | symbol => exact follows_inSymbol around front
      | lineComment => cases front
      | blockComment => cases front

-----------------------------------------------------------------------------------------
-- Runs
-----------------------------------------------------------------------------------------

/-- A run from a reading ends with what the step from its origin reads, by induction on the moves.
-/
theorem run_eq {cursor : Cursor} (reading : Reading mode expression origin cursor)
    : run mode expression cursor = some (Scan.tokenAt mode expression origin) := by
  fun_induction run mode expression cursor with
  | case1 cursor moved =>
      have follows := follows_move reading
      rw [moved] at follows
      cases follows
  | case2 cursor scan moved =>
      have follows := follows_move reading
      rw [moved] at follows
      cases follows with
      | stop same => rw [same]
  | case3 cursor later moved ih =>
      have follows := follows_move reading
      rw [moved] at follows
      cases follows with
      | goOn reading => exact ih reading

theorem tokenAt?_eq (mode : Mode) (expression : Text) (pos : Nat)
    : tokenAt? mode expression pos = some (Scan.tokenAt mode expression pos) :=
  run_eq (.outside rfl)

-----------------------------------------------------------------------------------------
-- Parameter values
-----------------------------------------------------------------------------------------

theorem opensParameter_eq (expression : Text) (pos : Nat)
    : opensParameter expression pos = Parameter.starts (expression.drop pos) := by
  cases here : expression[pos]? with
  | none =>
      simp [opensParameter, here, Text.drop_of_none here, Parameter.starts, Parameter.name?]
  | some c =>
      have around := Around.of_some here
      rw [around.ahead.drop_eq, List.nil_append, opensParameter, here]
      by_cases opens : c = '|' ∧ expression[pos + 1]? = some '('
      · obtain ⟨pipe, second⟩ := opens
        obtain ⟨rest, equal⟩ := List.head?_eq_some_iff.mp (around.step.next.symm.trans second)
        rw [pipe, equal] at around ⊢
        rw [closing?_eq around.pair.behind (by simp)]
        simp [second, Parameter.starts]
      · have ordinary := opens
        rw [around.step.next] at ordinary
        rw [Parameter.starts, Parameter.name?_of_ne ordinary]
        simpa using fun pipe second => absurd ⟨pipe, second⟩ opens

/-- Where reading goes on behind a value whose source text ends at a position, before a text. -/
def behindValue (pos : Nat) (after : Text) : Nat :=
  pos + if Scan.startsWithDelimiter after then 1 else 0

theorem unescapePipes_nil : Escape.unescapePipes [] = [] := rfl

/-- From a position on, the value and its end are those that the text ahead is split at, by
induction on the split.
-/
theorem valueFrom_eq {text : Text} (around : Around expression pos pos [] text) (value : Text)
    : valueFrom expression pos value
      = ⟨value ++ Escape.unescapePipes (Parameter.splitValue text).1,
          pos + (Parameter.splitValue text).1.length,
          behindValue (pos + (Parameter.splitValue text).1.length)
            (Parameter.splitValue text).2⟩ := by
  fun_induction Parameter.splitValue text generalizing pos value with
  | case1 =>
      rw [valueFrom_end around.next]
      simp only [unescapePipes_nil, List.append_nil, List.length_nil, Nat.add_zero]
      rfl
  | case2 rest raw after cut ih =>
      have here : expression[pos]? = some '\\' := around.next
      have second : expression[pos + 1]? = some '|' := around.step.next
      have decoded : Escape.unescapePipes ('\\' :: '|' :: raw) = '|' :: Escape.unescapePipes raw :=
        Text.replaceAll_append (List.cons_ne_nil '\\' ['|']) ['|'] raw
      have stop : pos + ('\\' :: '|' :: raw).length = pos + 2 + raw.length := by
        simp only [List.length_cons]
        omega
      rw [valueFrom_some here, if_pos ⟨rfl, second⟩, ih around.pair.behind]
      simp only [cut, decoded, stop, List.append_assoc, List.singleton_append]
  | case3 rest =>
      have here : expression[pos]? = some '|' := around.next
      have plain : ¬('|' = '\\' ∧ expression[pos + 1]? = some '|') := by simp
      rw [valueFrom_some here, if_neg plain, if_pos rfl, opensParameter_eq, around.ahead.drop_eq]
      cases opens : Parameter.starts ('|' :: rest) with
      | false => simp [behindValue, Scan.startsWithDelimiter, opens, unescapePipes_nil]
      | true => simp [behindValue, Scan.startsWithDelimiter, opens, unescapePipes_nil]
  | case4 c rest escape pipe raw after cut ih =>
      have here : expression[pos]? = some c := around.next
      have plain : ¬(c = '\\' ∧ expression[pos + 1]? = some '|') := by
        rw [around.step.next]
        rintro ⟨rfl, second⟩
        obtain ⟨more, equal⟩ := List.head?_eq_some_iff.mp second
        exact escape more rfl equal
      have decoded : Escape.unescapePipes (c :: raw) = c :: Escape.unescapePipes raw := by
        apply Text.replaceAll_cons
        intro front
        have ends := Parameter.splitValue_head? rest
        rw [cut] at ends
        exact ends (Parameter.opens_of_front front).2
      have stop : pos + (c :: raw).length = pos + 1 + raw.length := by
        rw [List.length_cons]
        omega
      rw [valueFrom_some here, if_neg plain, if_neg pipe, ih around.step.behind]
      simp only [cut, decoded, stop, List.append_assoc, List.singleton_append]

theorem valueBehind?_end {anchor : Nat} (ended : expression.drop start = [])
    : valueBehind? expression start anchor = some .endOfInput := by
  rw [valueBehind?, if_pos (List.drop_eq_nil_iff.mp ended)]

/-- The slice of a value is the source text that the text ahead is split at. -/
theorem valueBehind?_cons {anchor : Nat} {c : Char} {rest raw after : Text}
    (ahead : expression.drop start = c :: rest)
    (cut : Parameter.splitValue (c :: rest) = (raw, after))
    : valueBehind? expression start anchor
      = some (.token
          ⟨.parameterValue, raw, .text (Escape.unescapePipes raw),
            if behindValue (start + raw.length) after = start then anchor else start⟩
          (behindValue (start + raw.length) after)) := by
  have inside : start < expression.length := by
    have length := congrArg List.length ahead
    rw [List.length_drop, List.length_cons] at length
    omega
  have around : Around expression start start [] (c :: rest) := ⟨⟨ahead, inside.le⟩, rfl⟩
  have source := Parameter.splitValue_append (c :: rest)
  have value := valueFrom_eq around []
  rw [cut] at source value
  have whole : Around expression start (start + raw.length) raw after := by
    refine ⟨⟨?_, inside.le⟩, rfl⟩
    rw [ahead, ← source]
  have empty : (start + raw.length = start
      ∧ behindValue (start + raw.length) after = start + raw.length)
      ↔ behindValue (start + raw.length) after = start := by
    unfold behindValue
    split <;> omega
  rw [valueBehind?, if_neg (Nat.not_le.mpr inside)]
  simp only [value, whole.slice?, empty, List.nil_append, Option.bind_eq_bind, Option.bind_some]

/-- The checked step to a value takes no slice outside the expression and reads what the step to a
value reads.
-/
theorem valueAt?_eq (expression : Text) (pos : Nat)
    : valueAt? expression pos = some (Scan.valueAt expression pos) := by
  have separates : (expression[pos]? = some '|' ∧ ¬opensParameter expression pos)
      ↔ Scan.startsWithDelimiter (expression.drop pos) := by
    simp [opensParameter_eq, Scan.startsWithDelimiter]
  unfold valueAt? Scan.valueAt Scan.valueAhead
  rw [if_congr separates rfl rfl]
  split
  · simp only [List.drop_drop]
    split
    · next ended => exact valueBehind?_end ended
    · next c rest ahead => exact valueBehind?_cons ahead rfl
  · simp only [List.drop_zero]
    split
    · next ended => exact valueBehind?_end ended
    · next c rest ahead => exact valueBehind?_cons ahead rfl

end KSharp.Cursor
