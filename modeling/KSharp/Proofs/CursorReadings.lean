import KSharp.Proofs.CursorMachine
import KSharp.Proofs.RunTranslation

/-! The machine that moves a cursor reads what the steps to tokens read. At each place of the cursor
the characters from the start of the lexeme on are the front of one, by the state, and the step from
there is still the one that was asked for. So no index and no slice is outside the expression.
-/

namespace KSharp

-----------------------------------------------------------------------------------------
-- Slices around a position
-----------------------------------------------------------------------------------------

/-- The text around a position: the run from a start up to it, and what follows. -/
structure Cursor.Around (expression : Text) (start pos : Nat) (run after : Text) : Prop where
  ahead : Lexer.Ahead expression start (run ++ after)
  pos_eq : pos = start + run.length

namespace Cursor.Around

variable {expression run after : Text} {start pos : Nat}

theorem slice? (around : Around expression start pos run after)
    : expression.slice? start pos = some run := by
  have length := around.ahead.length
  have ends := around.pos_eq
  rw [List.length_append] at length
  have inside : start ≤ pos ∧ pos ≤ expression.length := by omega
  have width : pos - start = run.length := by omega
  rw [Text.slice?, if_pos inside, List.extract_eq_take_drop, around.ahead.drop_eq, width,
    List.take_left]

theorem getElem? (around : Around expression start pos run after) (n : Nat)
    : expression[pos + n]? = after[n]? := by
  have ends := around.pos_eq
  calc
    expression[pos + n]? = (expression.drop start)[run.length + n]? := by
      rw [List.getElem?_drop, ends, Nat.add_assoc]
    _ = after[n]? := by rw [around.ahead.drop_eq, List.getElem?_append_right (by omega),
      Nat.add_sub_cancel_left]

/-- The run takes over the next character. -/
theorem step {c : Char} {rest : Text} (around : Around expression start pos run (c :: rest))
    : Around expression start (pos + 1) (run ++ [c]) rest := by
  obtain ⟨ahead, ends⟩ := around
  refine ⟨?_, ?_⟩
  · rwa [List.append_assoc]
  · rw [ends, List.length_append, List.length_singleton, Nat.add_assoc]

theorem pair {c d : Char} {rest : Text} (around : Around expression start pos run (c :: d :: rest))
    : Around expression start (pos + 2) (run ++ [c, d]) rest := by
  have passed := around.step.step
  rwa [List.append_assoc] at passed

theorem next (around : Around expression start pos run after) : expression[pos]? = after.head? := by
  rw [List.head?_eq_getElem?, ← around.getElem? 0, Nat.add_zero]

theorem front (around : Around expression start pos run after)
    : Around expression start start [] (run ++ after) :=
  ⟨around.ahead, rfl⟩

/-- What follows the run is a text around its own start. -/
theorem behind (around : Around expression start pos run after)
    : Around expression pos pos [] after := by
  have length := around.ahead.length
  have ends := around.pos_eq
  rw [List.length_append] at length
  refine ⟨⟨?_, by omega⟩, rfl⟩
  rw [ends, ← List.drop_drop, around.ahead.drop_eq, List.drop_left]
  rfl

/-- A character in front of a position is the first one of the text ahead. -/
theorem of_some {c : Char} (here : expression[pos]? = some c)
    : Around expression pos pos [] (c :: expression.drop (pos + 1)) := by
  obtain ⟨inside, same⟩ := List.getElem?_eq_some_iff.mp here
  refine ⟨⟨?_, inside.le⟩, rfl⟩
  rw [List.drop_eq_getElem_cons inside, same]
  rfl

end Cursor.Around

theorem Text.drop_of_none {text : Text} {pos : Nat} (ended : text[pos]? = none)
    : text.drop pos = [] :=
  List.drop_eq_nil_of_le (List.getElem?_eq_none_iff.mp ended)

-----------------------------------------------------------------------------------------
-- Steps from a region of trivia on
-----------------------------------------------------------------------------------------

theorem isBlank_of_isLineEnd {c : Char} (ends : Text.isLineEnd c) : isBlank c := by
  simp only [Text.isLineEnd, Bool.or_eq_true, decide_eq_true_eq] at ends
  rcases ends with same | same
  · subst same
    decide
  · subst same
    decide

namespace Scan

/-- The step on a text that starts in a region of trivia. -/
def aheadIn (region : Trivia.Region) (mode : Mode) (pos : Nat) (text : Text) : Scan :=
  match Trivia.split region text with
  | (_, []) => .endOfInput
  | (trivia, c :: rest) => (Lexeme.read mode c rest).placed (pos + trivia.length)

theorem aheadIn_between (mode : Mode) (pos : Nat) (text : Text)
    : aheadIn .between mode pos text = ahead mode pos text := by
  rcases cut : Trivia.split .between text with ⟨trivia, _ | ⟨c, rest⟩⟩
  · simp [aheadIn, ahead, cut]
  · simp [aheadIn, ahead, cut]

/-- What the cut passes over and leaves in another region only moves the step. -/
theorem aheadIn_moved {region later : Trivia.Region} {text front rest : Text}
    (cut : Trivia.split region text
      = (front ++ (Trivia.split later rest).1, (Trivia.split later rest).2))
    (mode : Mode) (pos : Nat)
    : aheadIn region mode pos text = aheadIn later mode (pos + front.length) rest := by
  rcases left : Trivia.split later rest with ⟨trivia, _ | ⟨c, more⟩⟩
  · simp [aheadIn, cut, left]
  · simp [aheadIn, cut, left, Nat.add_assoc]

theorem ahead_blank {c : Char} (blank : isBlank c) (mode : Mode) (pos : Nat) (rest : Text)
    : ahead mode pos (c :: rest) = ahead mode (pos + 1) rest :=
  ahead_closed_append (.blank blank .nil) mode pos rest

theorem ahead_line (mode : Mode) (pos : Nat) (rest : Text)
    : ahead mode pos ('/' :: '/' :: rest) = aheadIn .line mode (pos + 2) rest := by
  have cut : Trivia.split .between ('/' :: '/' :: rest)
      = (['/', '/'] ++ (Trivia.split .line rest).1, (Trivia.split .line rest).2) := by
    simp [Trivia.split]
  rw [← aheadIn_between]
  exact aheadIn_moved cut mode pos

theorem ahead_block (mode : Mode) (pos : Nat) (rest : Text)
    : ahead mode pos ('/' :: '*' :: rest) = aheadIn .block mode (pos + 2) rest := by
  have cut : Trivia.split .between ('/' :: '*' :: rest)
      = (['/', '*'] ++ (Trivia.split .block rest).1, (Trivia.split .block rest).2) := by
    simp [Trivia.split]
  rw [← aheadIn_between]
  exact aheadIn_moved cut mode pos

/-- The line end behind a line comment may be passed over as a blank. -/
theorem aheadIn_line_cons (mode : Mode) (pos : Nat) (c : Char) (rest : Text)
    : aheadIn .line mode pos (c :: rest)
      = if Text.isLineEnd c then ahead mode pos (c :: rest)
        else aheadIn .line mode (pos + 1) rest := by
  have cut : Trivia.split .line (c :: rest)
      = ([c] ++ (Trivia.split (if Text.isLineEnd c then .between else .line) rest).1,
          (Trivia.split (if Text.isLineEnd c then .between else .line) rest).2) := by
    simp [Trivia.split]
  rw [aheadIn_moved cut]
  split
  · next ends => rw [ahead_blank (isBlank_of_isLineEnd ends), aheadIn_between]; rfl
  · rfl

theorem aheadIn_block_close (mode : Mode) (pos : Nat) (rest : Text)
    : aheadIn .block mode pos ('*' :: '/' :: rest) = ahead mode (pos + 2) rest := by
  have cut : Trivia.split .block ('*' :: '/' :: rest)
      = (['*', '/'] ++ (Trivia.split .between rest).1, (Trivia.split .between rest).2) := by
    simp [Trivia.split]
  rw [aheadIn_moved cut, aheadIn_between]
  rfl

theorem aheadIn_block_cons {c : Char} {rest : Text} (opens : ¬['*', '/'] <+: c :: rest)
    (mode : Mode) (pos : Nat)
    : aheadIn .block mode pos (c :: rest) = aheadIn .block mode (pos + 1) rest := by
  have cut : Trivia.split .block (c :: rest)
      = ([c] ++ (Trivia.split .block rest).1, (Trivia.split .block rest).2) :=
    Trivia.split_block_cons opens
  exact aheadIn_moved cut mode pos

end Scan

namespace Lexeme

/-- A lexeme that is found has the whole run as its source text. -/
def Whole (run : Text) : Lexeme → Prop
  | .found _ raw _ => raw = run
  | .rejected _ => True

theorem integer_whole (run : Text) : (integer run).Whole run := by
  unfold integer
  split
  · rfl
  · trivial

theorem readDouble_whole (run : Text) : (Cursor.readDouble run).Whole run := by
  unfold Cursor.readDouble
  split
  · rfl
  · trivial

theorem readSymbol_whole (run : Text) : (Cursor.readSymbol run).Whole run := rfl

end Lexeme

namespace Cursor

-----------------------------------------------------------------------------------------
-- Readings
-----------------------------------------------------------------------------------------

open Lexeme (Mantissa QuotedBody VerbatimBody isExponentMarker isSign)

/-- The run before a cursor is the front of a lexeme, as its state says. Behind a marker without a
sign a digit stands in the run or follows it.
-/
inductive Front : State → Text → Text → Prop where
  | word {c tail after} (start : isWordStart c) (inside : ∀ d ∈ tail, isWordChar d)
    : Front .word (c :: tail) after
  | spoiled {digits d tail after} (grammar : Lexeme.Digits digits) (start : isWordStart d)
    (exponent : isExponentMarker d = false) (inside : ∀ e ∈ tail, isWordChar e)
    : Front .word (digits ++ d :: tail) after
  | integer {whole after} (digits : Lexeme.Digits whole) : Front .integer whole after
  | point {whole after} (digits : Lexeme.Digits whole) : Front .point (whole ++ ['.']) after
  | fraction {whole part after} (digits : Lexeme.Digits whole) (fraction : Lexeme.Digits part)
    : Front .fraction (whole ++ '.' :: part) after
  | signed {before marker sign power after} (mantissa : Mantissa before)
    (marks : isExponentMarker marker) (signs : isSign sign) (digits : ∀ c ∈ power, c.isDigit)
    : Front .exponent (before ++ marker :: sign :: power) after
  | unsigned {before marker power after} (mantissa : Mantissa before)
    (marks : isExponentMarker marker) (digits : ∀ c ∈ power, c.isDigit)
    (started : ¬Text.Stops Char.isDigit (power ++ after))
    : Front .exponent (before ++ marker :: power) after
  | quoted {body after} (grammar : QuotedBody body) : Front .quoted ('"' :: body) after
  | escaped {body after} (grammar : QuotedBody body) : Front .escaped ('"' :: body ++ ['\\']) after
  | verbatim {body after} (grammar : VerbatimBody body)
    : Front .verbatim ('@' :: '"' :: body) after
  | symbol {c tail after} (operator : Operator.isChar c)
    (grown : Operator.grow [c] tail = c :: tail)
    : Front .symbol (c :: tail) after

/-- A place of the cursor from which the machine is still about to read what a step from the origin
reads: trivia, or the front of a lexeme, has been passed over.
-/
inductive Reading (mode : Mode) (expression : Text) (origin : Nat) : Cursor → Prop where
  | outside {pos}
    (same : Scan.tokenAt mode expression origin = Scan.tokenAt mode expression pos)
    : Reading mode expression origin ⟨.start, pos, pos⟩
  | lexeme {state start pos run after}
    (same : Scan.tokenAt mode expression origin = Scan.tokenAt mode expression start)
    (around : Around expression start pos run after) (front : Front state run after)
    : Reading mode expression origin ⟨state, start, pos⟩
  | lineComment {start pos}
    (same : Scan.tokenAt mode expression origin
      = Scan.aheadIn .line mode pos (expression.drop pos))
    : Reading mode expression origin ⟨.lineComment, start, pos⟩
  | blockComment {start pos}
    (same : Scan.tokenAt mode expression origin
      = Scan.aheadIn .block mode pos (expression.drop pos))
    : Reading mode expression origin ⟨.blockComment, start, pos⟩

/-- A checked move takes no index and no slice outside the expression, and it leads to another
reading or ends with what a step from the origin reads.
-/
inductive Follows (mode : Mode) (expression : Text) (origin : Nat) : Option Move → Prop where
  | goOn {cursor} (reading : Reading mode expression origin cursor)
    : Follows mode expression origin (some (.goOn cursor))
  | stop {scan} (same : Scan.tokenAt mode expression origin = scan)
    : Follows mode expression origin (some (.stop scan))

/-- What follows a step goes on to follow one that reads the same. -/
theorem Follows.trans {mode : Mode} {expression : Text} {origin start : Nat} {moved : Option Move}
    (follows : Follows mode expression start moved)
    (same : Scan.tokenAt mode expression origin = Scan.tokenAt mode expression start)
    : Follows mode expression origin moved := by
  cases follows with
  | stop later => exact .stop (same.trans later)
  | goOn reading =>
      apply Follows.goOn
      cases reading with
      | outside later => exact .outside (same.trans later)
      | lexeme later around front => exact .lexeme (same.trans later) around front
      | lineComment later => exact .lineComment (same.trans later)
      | blockComment later => exact .blockComment (same.trans later)

section Ends

variable {mode : Mode} {expression run after : Text} {start pos : Nat}

theorem tokenAt_of_absent {c : Char} {rest : Text}
    (ahead : Lexer.Ahead expression start (c :: rest)) (absent : Trivia.Absent (c :: rest))
    (mode : Mode)
    : Scan.tokenAt mode expression start = (Lexeme.read mode c rest).placed start := by
  rw [Scan.tokenAt, ahead.drop_eq, Scan.ahead_of_absent absent]

theorem follows_finish {read : Text → Lexeme}
    (around : Around expression start pos run after) (whole : (read run).Whole run)
    (reads : Scan.tokenAt mode expression start = (read run).placed start)
    : Follows mode expression start (finish expression start pos read) := by
  have ended : finish expression start pos read = some (.stop ((read run).placed start)) := by
    rw [finish, around.slice?]
    cases found : read run with
    | rejected cause => simp [found, Lexeme.placed]
    | found kind raw value =>
        rw [found] at whole
        obtain rfl : raw = run := whole
        simp [found, Lexeme.placed, around.pos_eq]
  rw [ended]
  exact .stop reads

theorem follows_enclose {kind : Kind} {left inside right : Text} {decode : Text → Text}
    {innerStart innerStop : Nat}
    (around : Around expression start pos run after) (parts : run = left ++ (inside ++ right))
    (opens : innerStart = start + left.length) (closes : innerStop = innerStart + inside.length)
    (reads : Scan.tokenAt mode expression start
      = (Lexeme.found kind run (.text (decode inside))).placed start)
    : Follows mode expression start
        (enclose expression kind start pos innerStart innerStop decode) := by
  have inner : Around expression innerStart innerStop inside (right ++ after) := by
    refine ⟨⟨?_, ?_⟩, closes⟩
    · calc
        expression.drop innerStart = (expression.drop start).drop left.length := by
          rw [List.drop_drop, opens]
        _ = inside ++ (right ++ after) := by
          rw [around.ahead.drop_eq, parts]
          simp
    · have length := around.ahead.length
      rw [parts] at length
      simp only [List.length_append] at length
      omega
  have ended : enclose expression kind start pos innerStart innerStop decode
      = some (.stop ((Lexeme.found kind run (.text (decode inside))).placed start)) := by
    simp only [enclose, around.slice?, inner.slice?, Lexeme.placed, ← around.pos_eq]
    rfl
  rw [ended]
  exact .stop reads

/-- A move that depends on the class of the next character follows if it does for both outcomes. -/
theorem follows_if {p : Char → Bool} {passed stopped : Option Move}
    (around : Around expression start pos run after)
    (passes : ∀ c rest, after = c :: rest → p c → Follows mode expression start passed)
    (stops : Text.Stops p after → Follows mode expression start stopped)
    : Follows mode expression start (if expression[pos]?.any p then passed else stopped) := by
  rw [around.next]
  rcases Text.stops_or_cons p after with ends | ⟨c, rest, equal, holds⟩
  · have other : ¬after.head?.any p := by
      intro here
      obtain ⟨c, first, holds⟩ := (Option.any_eq_true _ _).mp here
      rw [ends c first] at holds
      cases holds
    rw [if_neg other]
    exact stops ends
  · rw [if_pos (by simpa [equal] using holds)]
    exact passes c rest equal holds

theorem follows_next {state : State} {c : Char} {rest : Text}
    (around : Around expression start pos run (c :: rest)) (front : Front state (run ++ [c]) rest)
    : Follows mode expression start (some (.goOn ⟨state, start, pos + 1⟩)) := by
  exact .goOn (.lexeme rfl around.step front)

theorem follows_pair {state : State} {c d : Char} {rest : Text}
    (around : Around expression start pos run (c :: d :: rest))
    (front : Front state (run ++ [c, d]) rest)
    : Follows mode expression start (some (.goOn ⟨state, start, pos + 2⟩)) := by
  exact .goOn (.lexeme rfl around.pair front)

end Ends

end Cursor

end KSharp
