import Mathlib.Data.Nat.PSub
import KSharp.Proofs.NumberDecisions

/-! The steps at a position as machines that move a cursor over the expression, by one character or
two at a time. Each index and each slice that they take is checked against the expression: where
one is outside, they have no outcome.
-/

namespace KSharp

/-- The part of a text between two positions, if they are in this order and inside the text. -/
def Text.slice? (text : Text) (start stop : Nat) : Option Text :=
  if start ≤ stop ∧ stop ≤ text.length then some (text.extract start stop) else none

/-- What the characters before a cursor are a part of. -/
inductive Cursor.State where
  | start
  | word
  | integer
  | point
  | fraction
  | exponent
  | quoted
  | escaped
  | verbatim
  | symbol
  | lineComment
  | blockComment
deriving DecidableEq

/-- A cursor in an expression: the position of the next character, and where the lexeme starts that
the characters before it belong to.
-/
structure Cursor where
  state : Cursor.State
  start : Nat
  pos : Nat

namespace Cursor

/-- What the next character leads to: another place of the cursor, or the end of the step. -/
inductive Move where
  | goOn (cursor : Cursor)
  | stop (scan : Scan)

-----------------------------------------------------------------------------------------
-- Ends of lexemes
-----------------------------------------------------------------------------------------

/-- The run of word characters that a word or a number has become; it is a word only if it does not
start with a digit.
-/
def classifyRun (run : Text) : Lexeme :=
  if Lexeme.classifyWord run = .symbol .identifier run ∧ ¬isWord run then
    .rejected (.invalidIdentifier run)
  else Lexeme.classifyWord run

/-- What stands behind the digits and the fraction of a number. -/
def afterMantissa (run : Text) : Text :=
  let after := run.dropWhile Char.isDigit
  if after.head? = some '.' then after.tail.dropWhile Char.isDigit else after

/-- Whether the text, which starts with a digit, writes a number: its exponent has digits. -/
def writesNumber (run : Text) : Bool :=
  match afterMantissa run with
  | [] => true
  | marker :: power =>
    let digits := if power.head?.any Lexeme.isSign then power.tail else power
    Lexeme.isExponentMarker marker && !digits.isEmpty && digits.all Char.isDigit

/-- The lexeme of a run with a point or an exponent. -/
def readDouble (run : Text) : Lexeme :=
  if writesNumber run then .double run else .rejected (.malformedNumber run)

/-- The lexeme of a run that grew like a symbol. -/
def readSymbol (run : Text) : Lexeme :=
  .symbol (if run = [';'] then .semicolon else .operator) run

/-- The end of a step at the end of a lexeme, which is read from its slice of the expression. -/
def finish (expression : Text) (start stop : Nat) (read : Text → Lexeme) : Option Move := do
  match read (← expression.slice? start stop) with
  | .found kind raw value => some (.stop (.token ⟨kind, raw, value, start⟩ stop))
  | .rejected cause => some (.stop (.error cause start))

/-- The end of a step at the end of a lexeme whose value is decoded from a slice inside it. -/
def enclose (expression : Text) (kind : Kind) (start stop innerStart innerStop : Nat)
    (decode : Text → Text)
    : Option Move := do
  let inside ← expression.slice? innerStart innerStop
  let raw ← expression.slice? start stop
  some (.stop (.token ⟨kind, raw, .text (decode inside), start⟩ stop))

-----------------------------------------------------------------------------------------
-- Moves
-----------------------------------------------------------------------------------------

/-- The move outside all lexemes, by the first character of the next one. -/
def atStart (expression : Text) (start pos : Nat) : Move :=
  match expression[pos]? with
  | none => .stop .endOfInput
  | some c =>
    if isBlank c then .goOn ⟨.start, pos + 1, pos + 1⟩
    else if isWordStart c then .goOn ⟨.word, start, pos + 1⟩
    else if c.isDigit then .goOn ⟨.integer, start, pos + 1⟩
    else if c = '@' ∧ expression[pos + 1]? = some '"' then .goOn ⟨.verbatim, start, pos + 2⟩
    else if c = '"' then .goOn ⟨.quoted, start, pos + 1⟩
    else if Operator.isChar c then .goOn ⟨.symbol, start, pos + 1⟩
    else
      match Kind.punctuation? c with
      | some kind => .stop (.token (.symbol kind [c] pos) (pos + 1))
      | none => .stop (.error (.unexpectedCharacter c) pos)

/-- The move in a run of word characters. -/
def inWord (expression : Text) (start pos : Nat) : Option Move :=
  if expression[pos]?.any isWordChar then some (.goOn ⟨.word, start, pos + 1⟩)
  else finish expression start pos classifyRun

/-- The move at the marker of an exponent, which a sign or a digit has to follow. -/
def atMarker (expression : Text) (start pos : Nat) : Option Move :=
  if expression[pos + 1]?.any Lexeme.isSign then some (.goOn ⟨.exponent, start, pos + 2⟩)
  else if expression[pos + 1]?.any Char.isDigit then some (.goOn ⟨.exponent, start, pos + 1⟩)
  else finish expression start (pos + 1) (fun run => .rejected (.malformedNumber run))

/-- The move in the first digits of a number. -/
def inInteger (expression : Text) (start pos : Nat) : Option Move :=
  if expression[pos]?.any Char.isDigit then some (.goOn ⟨.integer, start, pos + 1⟩)
  else if expression[pos]? = some '.' then some (.goOn ⟨.point, start, pos + 1⟩)
  else if expression[pos]?.any Lexeme.isExponentMarker then atMarker expression start pos
  else if expression[pos]?.any isWordChar then some (.goOn ⟨.word, start, pos + 1⟩)
  else finish expression start pos Lexeme.integer

/-- The move behind the point of a number. A member gives the point back. -/
def behindPoint (expression : Text) (start pos : Nat) : Option Move := do
  if expression[pos]?.any Char.isDigit then some (.goOn ⟨.fraction, start, pos + 1⟩)
  else if expression[pos]?.any isWordStart then
    finish expression start (← pos.ppred) Lexeme.integer
  else finish expression start pos readDouble

/-- The move in the digits of a fraction. -/
def inFraction (expression : Text) (start pos : Nat) : Option Move :=
  if expression[pos]?.any Char.isDigit then some (.goOn ⟨.fraction, start, pos + 1⟩)
  else if expression[pos]?.any Lexeme.isExponentMarker then atMarker expression start pos
  else finish expression start pos readDouble

/-- The move in the digits of an exponent. -/
def inExponent (expression : Text) (start pos : Nat) : Option Move :=
  if expression[pos]?.any Char.isDigit then some (.goOn ⟨.exponent, start, pos + 1⟩)
  else finish expression start pos readDouble

/-- The end of a step where a quoted literal is not closed. -/
def unclosed (mode : Mode) (expression : Text) (start : Nat) : Option Move :=
  match mode with
  | .strict => some (.stop (.error .unterminatedString start))
  | .lenient =>
    enclose expression .string start expression.length (start + 1) expression.length Escape.unescape

/-- The move in a quoted literal. -/
def inQuoted (mode : Mode) (expression : Text) (start pos : Nat) : Option Move :=
  match expression[pos]? with
  | none => unclosed mode expression start
  | some c =>
    if c = '\\' then some (.goOn ⟨.escaped, start, pos + 1⟩)
    else if c = '"' then
      enclose expression .string start (pos + 1) (start + 1) pos Escape.unescape
    else some (.goOn ⟨.quoted, start, pos + 1⟩)

/-- The move behind a backslash of a quoted literal. -/
def behindBackslash (mode : Mode) (expression : Text) (start pos : Nat) : Option Move :=
  match expression[pos]? with
  | none => unclosed mode expression start
  | some _ => some (.goOn ⟨.quoted, start, pos + 1⟩)

/-- The move in a verbatim literal. -/
def inVerbatim (expression : Text) (start pos : Nat) : Option Move :=
  match expression[pos]? with
  | none => some (.stop (.error .unterminatedString start))
  | some c =>
    if c = '"' then
      if expression[pos + 1]? = some '"' then some (.goOn ⟨.verbatim, start, pos + 2⟩)
      else enclose expression .string start (pos + 1) (start + 2) pos Escape.unescapeVerbatim
    else some (.goOn ⟨.verbatim, start, pos + 1⟩)

/-- The position of the parenthesis that closes a parameter's name, from a position in the name on,
if nothing but letters stands before it and the name is not empty.
-/
def closing? (expression : Text) (first pos : Nat) : Option Nat :=
  match _inside : expression[pos]? with
  | none => none
  | some c =>
    if c = ')' then if first < pos then some pos else none
    else if isLetter c then closing? expression first (pos + 1)
    else none
termination_by expression.length - pos
decreasing_by
  obtain ⟨inside, -⟩ := List.getElem?_eq_some_iff.mp _inside
  omega

theorem closing?_end {expression : Text} {first pos : Nat} (ended : expression[pos]? = none)
    : closing? expression first pos = none := by
  unfold closing?
  split
  · rfl
  · next here =>
    rw [ended] at here
    cases here

theorem closing?_some {expression : Text} {first pos : Nat} {c : Char}
    (here : expression[pos]? = some c)
    : closing? expression first pos
      = if c = ')' then if first < pos then some pos else none
        else if isLetter c then closing? expression first (pos + 1)
        else none := by
  rw [closing?.eq_def]
  split
  · next ended =>
    rw [here] at ended
    cases ended
  · next d same =>
    obtain rfl : c = d := Option.some.inj (here.symm.trans same)
    rfl

/-- The move behind a symbol that opens nothing. It grows while the table has a longer one. -/
def growing (expression : Text) (start pos : Nat) : Option Move :=
  if expression[pos]?.any Operator.isChar then do
    let run ← expression.slice? start pos
    if expression[pos]?.any (Operator.canGrow run) then some (.goOn ⟨.symbol, start, pos + 1⟩)
    else finish expression start pos readSymbol
  else finish expression start pos readSymbol

/-- The move behind an operator character. Behind the first one a comment or a parameter may open.
-/
def inSymbol (expression : Text) (start pos : Nat) : Option Move := do
  let previous ← expression[← pos.ppred]?
  if pos = start + 1 ∧ previous = '/' ∧ expression[pos]? = some '/' then
    some (.goOn ⟨.lineComment, start, pos + 1⟩)
  else if pos = start + 1 ∧ previous = '/' ∧ expression[pos]? = some '*' then
    some (.goOn ⟨.blockComment, start, pos + 1⟩)
  else if pos = start + 1 ∧ previous = '|' ∧ expression[pos]? = some '(' then
    match closing? expression (pos + 1) (pos + 1) with
    | some close => enclose expression .parameter start (close + 1) (start + 2) close id
    | none => finish expression start pos readSymbol
  else growing expression start pos

/-- The move in a line comment, which leaves the line end to the blanks. -/
def inLineComment (expression : Text) (start pos : Nat) : Move :=
  match expression[pos]? with
  | none => .stop .endOfInput
  | some c =>
    if Text.isLineEnd c then .goOn ⟨.start, pos, pos⟩ else .goOn ⟨.lineComment, start, pos + 1⟩

/-- The move in a block comment. -/
def inBlockComment (expression : Text) (start pos : Nat) : Move :=
  match expression[pos]? with
  | none => .stop .endOfInput
  | some c =>
    if c = '*' ∧ expression[pos + 1]? = some '/' then .goOn ⟨.start, pos + 2, pos + 2⟩
    else .goOn ⟨.blockComment, start, pos + 1⟩

/-- The move of a cursor, by what the characters before it are a part of. -/
def move (mode : Mode) (expression : Text) : Cursor → Option Move
  | ⟨.start, start, pos⟩ => some (atStart expression start pos)
  | ⟨.word, start, pos⟩ => inWord expression start pos
  | ⟨.integer, start, pos⟩ => inInteger expression start pos
  | ⟨.point, start, pos⟩ => behindPoint expression start pos
  | ⟨.fraction, start, pos⟩ => inFraction expression start pos
  | ⟨.exponent, start, pos⟩ => inExponent expression start pos
  | ⟨.quoted, start, pos⟩ => inQuoted mode expression start pos
  | ⟨.escaped, start, pos⟩ => behindBackslash mode expression start pos
  | ⟨.verbatim, start, pos⟩ => inVerbatim expression start pos
  | ⟨.symbol, start, pos⟩ => inSymbol expression start pos
  | ⟨.lineComment, start, pos⟩ => some (inLineComment expression start pos)
  | ⟨.blockComment, start, pos⟩ => some (inBlockComment expression start pos)

-----------------------------------------------------------------------------------------
-- Steps
-----------------------------------------------------------------------------------------

theorem lt_of_any {expression : Text} {pos : Nat} {p : Char → Bool}
    (holds : expression[pos]?.any p)
    : pos < expression.length := by
  obtain ⟨c, here, -⟩ := (Option.any_eq_true _ _).mp holds
  exact (List.getElem?_eq_some_iff.mp here).1

theorem lt_of_some {expression : Text} {pos : Nat} {c : Char} (here : expression[pos]? = some c)
    : pos < expression.length :=
  (List.getElem?_eq_some_iff.mp here).1

theorem finish_ne_goOn {expression : Text} {start stop : Nat} {read : Text → Lexeme}
    {later : Cursor}
    : finish expression start stop read ≠ some (.goOn later) := by
  intro moved
  obtain ⟨run, -, ended⟩ := Option.bind_eq_some_iff.mp moved
  split at ended <;> cases ended

theorem enclose_ne_goOn {expression : Text} {kind : Kind} {start stop innerStart innerStop : Nat}
    {decode : Text → Text} {later : Cursor}
    : enclose expression kind start stop innerStart innerStop decode ≠ some (.goOn later) := by
  intro moved
  obtain ⟨inside, -, later⟩ := Option.bind_eq_some_iff.mp moved
  obtain ⟨raw, -, ended⟩ := Option.bind_eq_some_iff.mp later
  cases ended

theorem unclosed_ne_goOn {mode : Mode} {expression : Text} {start : Nat} {later : Cursor}
    : unclosed mode expression start ≠ some (.goOn later) := by
  cases mode with
  | strict => simp [unclosed]
  | lenient => exact enclose_ne_goOn

theorem growing_goOn {expression : Text} {start pos : Nat} {later : Cursor}
    (moved : growing expression start pos = some (.goOn later))
    : expression[pos]?.any Operator.isChar ∧ later = ⟨.symbol, start, pos + 1⟩ := by
  unfold growing at moved
  split at moved
  · next operator =>
    obtain ⟨run, -, grown⟩ := Option.bind_eq_some_iff.mp moved
    split at grown
    · cases grown
      exact ⟨operator, rfl⟩
    · exact absurd grown finish_ne_goOn
  · exact absurd moved finish_ne_goOn

/-- A move to another place passes a character of the expression, by the cases of the state. Only
the end of a line comment is left where it is, and the cursor is outside comments then.
-/
theorem move_forward {mode : Mode} {expression : Text} {cursor later : Cursor}
    (moved : move mode expression cursor = some (.goOn later))
    : cursor.pos < expression.length
      ∧ (cursor.pos < later.pos
        ∨ cursor.state = .lineComment ∧ later.state = .start ∧ later.pos = cursor.pos) := by
  obtain ⟨state, start, pos⟩ := cursor
  cases state with
  | start => grind [move, atStart, lt_of_some]
  | word => grind [move, inWord, lt_of_any, finish_ne_goOn]
  | integer => grind [move, inInteger, atMarker, lt_of_any, lt_of_some, finish_ne_goOn]
  | point =>
      simp only [move, behindPoint] at moved
      split at moved
      · grind [lt_of_any]
      · split at moved
        · obtain ⟨before, -, ended⟩ := Option.bind_eq_some_iff.mp moved
          exact absurd ended finish_ne_goOn
        · exact absurd moved finish_ne_goOn
  | fraction => grind [move, inFraction, atMarker, lt_of_any, finish_ne_goOn]
  | exponent => grind [move, inExponent, lt_of_any, finish_ne_goOn]
  | quoted => grind [move, inQuoted, lt_of_some, unclosed_ne_goOn, enclose_ne_goOn]
  | escaped => grind [move, behindBackslash, lt_of_some, unclosed_ne_goOn]
  | verbatim => grind [move, inVerbatim, lt_of_some, enclose_ne_goOn]
  | symbol =>
      obtain ⟨before, -, moved⟩ := Option.bind_eq_some_iff.mp moved
      obtain ⟨previous, -, moved⟩ := Option.bind_eq_some_iff.mp moved
      split at moved
      · grind [lt_of_some]
      split at moved
      · grind [lt_of_some]
      split at moved
      · split at moved
        · exact absurd moved enclose_ne_goOn
        · exact absurd moved finish_ne_goOn
      · obtain ⟨operator, grown⟩ := growing_goOn moved
        subst grown
        exact ⟨lt_of_any operator, Or.inl (Nat.lt_succ_self pos)⟩
  | lineComment => grind [move, inLineComment, lt_of_some]
  | blockComment => grind [move, inBlockComment, lt_of_some]

/-- Twice the number of characters ahead, and one more in a line comment, whose end is left to be
read as a blank.
-/
def remaining (expression : Text) (cursor : Cursor) : Nat :=
  2 * (expression.length - cursor.pos) + if cursor.state = .lineComment then 1 else 0

theorem remaining_lt {mode : Mode} {expression : Text} {cursor later : Cursor}
    (moved : move mode expression cursor = some (.goOn later))
    : later.remaining expression < cursor.remaining expression := by
  obtain ⟨inside, forward⟩ := move_forward moved
  unfold remaining
  rcases forward with passed | ⟨comment, outside, same⟩
  · split <;> split <;> omega
  · simp only [comment, outside, same, reduceCtorEq, ↓reduceIte]
    omega

/-- The outcome of the moves from a place of the cursor, none as soon as one of them takes an index
or a slice outside the expression.
-/
def run (mode : Mode) (expression : Text) (cursor : Cursor) : Option Scan :=
  match _moved : move mode expression cursor with
  | none => none
  | some (.stop scan) => some scan
  | some (.goOn later) => run mode expression later
termination_by cursor.remaining expression
decreasing_by exact remaining_lt _moved

/-- The step to a token at a position, with all indices and slices checked. -/
def tokenAt? (mode : Mode) (expression : Text) (pos : Nat) : Option Scan :=
  run mode expression ⟨.start, pos, pos⟩

-----------------------------------------------------------------------------------------
-- Parameter values
-----------------------------------------------------------------------------------------

/-- Whether a parameter starts at a position. -/
def opensParameter (expression : Text) (pos : Nat) : Bool :=
  expression[pos]? = some '|'
  && expression[pos + 1]? = some '('
  && (closing? expression (pos + 2) (pos + 2)).isSome

/-- A value as it was read so far, with the position behind its source text and the one where
reading goes on.
-/
structure ValueEnd where
  value : Text
  stop : Nat
  next : Nat

/-- The value from a position on, behind the part of it that was read before. -/
def valueFrom (expression : Text) (pos : Nat) (value : Text) : ValueEnd :=
  match _inside : expression[pos]? with
  | none => ⟨value, pos, pos⟩
  | some c =>
    if c = '\\' ∧ expression[pos + 1]? = some '|' then
      valueFrom expression (pos + 2) (value ++ ['|'])
    else if c = '|' then ⟨value, pos, if opensParameter expression pos then pos else pos + 1⟩
    else valueFrom expression (pos + 1) (value ++ [c])
termination_by expression.length - pos
decreasing_by
  all_goals have inside := lt_of_some _inside
  all_goals omega

theorem valueFrom_end {expression value : Text} {pos : Nat} (ended : expression[pos]? = none)
    : valueFrom expression pos value = ⟨value, pos, pos⟩ := by
  unfold valueFrom
  split
  · rfl
  · next here =>
    rw [ended] at here
    cases here

theorem valueFrom_some {expression value : Text} {pos : Nat} {c : Char}
    (here : expression[pos]? = some c)
    : valueFrom expression pos value
      = if c = '\\' ∧ expression[pos + 1]? = some '|' then
          valueFrom expression (pos + 2) (value ++ ['|'])
        else if c = '|' then ⟨value, pos, if opensParameter expression pos then pos else pos + 1⟩
        else valueFrom expression (pos + 1) (value ++ [c]) := by
  rw [valueFrom.eq_def]
  split
  · next ended =>
    rw [here] at ended
    cases ended
  · next d same =>
    obtain rfl : c = d := Option.some.inj (here.symm.trans same)
    rfl

/-- The value that starts at a position. An empty one in front of a parameter is placed at the
anchor.
-/
def valueBehind? (expression : Text) (start anchor : Nat) : Option Scan := do
  if expression.length ≤ start then some .endOfInput
  else
    let ending := valueFrom expression start []
    let raw ← expression.slice? start ending.stop
    let empty := ending.stop = start ∧ ending.next = ending.stop
    let offset := if empty then anchor else start
    some (.token ⟨.parameterValue, raw, .text ending.value, offset⟩ ending.next)

/-- The step to a parameter value at a position, with all slices checked. The anchor is the
separator that was skipped, or else the character before the position.
-/
def valueAt? (expression : Text) (pos : Nat) : Option Scan :=
  if expression[pos]? = some '|' ∧ ¬opensParameter expression pos then
    valueBehind? expression (pos + 1) pos
  else valueBehind? expression pos (pos - 1)

end Cursor

end KSharp
