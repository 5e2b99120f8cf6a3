import KSharp.Source
import KSharp.Unicode.Width

/-! The rendering of a diagnostic: its message, and the labelled line of the source with carets
below the labelled character.
-/

namespace KSharp.Snippet

/-- The longest front of a text that takes at most a number of bytes. -/
def takeBytes : Nat → Text → Text
  | _, [] => []
  | n, c :: rest => if c.utf8Size ≤ n then c :: takeBytes (n - c.utf8Size) rest else []

/-- A place in a source: the number of its line from one on, the text of that line before the
place, and the text from there on up to the next line feed.
-/
structure Place where
  line : Nat
  before : Text
  after : Text
deriving DecidableEq

/-- The place of a byte. Lines are ended by line feeds alone. -/
def placeOf (byte : Nat) (text : Text) : Place :=
  let front := takeBytes byte text
  { line := front.count '\n' + 1
    before := (front.reverse.takeWhile (· ≠ '\n')).reverse
    after := (text.drop front.length).takeWhile (· ≠ '\n') }

/-- The number of a place's column, which counts characters from one on. -/
def Place.column (place : Place) : Nat := place.before.length + 1

/-- The line of a place as it is shown, without line ends and null characters at its end. -/
def Place.shownLine (place : Place) : Text :=
  Text.trimEnd (fun c => Text.isLineEnd c || c = '\u0000') (place.before ++ place.after)

/-- The distance between tab stops. -/
def tabWidth : Nat := 4

/-- The columns that a character takes when it starts in a column counted from zero; a tab
reaches to the next tab stop.
-/
def widthAt (column : Nat) (c : Char) : Nat :=
  if c = '\t' then tabWidth - column % tabWidth else Unicode.columns c

/-- A line from a column on, with its tabs turned into spaces. -/
def expandTabs (column : Nat) : Text → Text
  | [] => []
  | c :: rest =>
    let width := widthAt column c
    (if c = '\t' then List.replicate width ' ' else [c]) ++ expandTabs (column + width) rest

/-- The carets below the character of a line with an index: spaces below what precedes it, and
carets as wide as itself. One column stands behind the line for a character there.
-/
def carets (column : Nat) : Nat → Text → Text
  | 0, [] => ['^']
  | _ + 1, [] => [' ']
  | 0, c :: _ => List.replicate (widthAt column c) '^'
  | index + 1, c :: rest =>
    let width := widthAt column c
    List.replicate width ' ' ++ carets (column + width) index rest

/-- A label with the line it lies in: a border with the place, an empty line, the line under its
number, and the carets with the label's message. All borders stand as far to the right as
the line's number is long.
-/
def renderLabel (source : Source) (label : Label) : Text :=
  let place := placeOf label.start source.text
  let number := Text.ofNat place.line
  let margin := List.replicate number.length ' '
  let lines : List Text := [
    margin ++ " ┌─ ".toList ++ source.name ++ ':' :: number ++ ':' :: Text.ofNat place.column,
    margin ++ " │".toList,
    number ++ " │ ".toList ++ expandTabs 0 place.shownLine,
    margin ++ " │ ".toList ++ carets 0 place.before.length place.shownLine
      ++ ' ' :: label.message,
    []
  ]
  lines.flatMap (· ++ ['\n'])

/-- A diagnostic about a source: its message, then its labels. -/
def render (source : Source) (diagnostic : Diagnostic) : Text :=
  "error: ".toList ++ diagnostic.message ++ ['\n']
    ++ diagnostic.labels.flatMap (renderLabel source)

/-- The diagnostics of a log about a source, in its order. -/
def renderLog (source : Source) (log : ErrorLog) : Text :=
  log.reports.flatMap fun report => render source report.diagnostic

end KSharp.Snippet
