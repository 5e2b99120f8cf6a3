import KSharp.Diagnostic
import KSharp.Lexer

/-! Source texts with one expression a line, checked line by line. -/

namespace KSharp

/-- A named source text. -/
structure Source where
  name : Text
  text : Text
deriving DecidableEq, Repr

/-- The outcome of a check: the number of expressions read, and their errors. -/
structure Check where
  checked : Nat
  log : ErrorLog
deriving DecidableEq, Repr

namespace Source

/-- The number by which labels refer to a source, each being registered alone. -/
def fileId : Nat := 0

/-- The source with the content of a file, which must be there and hold UTF-8. -/
def ofContent (name : Text) : Option ByteArray → Except Failure Source
  | none => .error (.file "No such file or directory (os error 2)".toList)
  | some bytes =>
    match String.fromUTF8? bytes with
    | some content => .ok ⟨name, content.toList⟩
    | none => .error (.file "stream did not contain valid UTF-8".toList)

/-- The expression on a line: the line without its end. -/
def expressionOf (line : Text) : Text := Text.trimEnd Text.isLineEnd line

/-- The report on an expression that starts at the byte `base`, if it has an error. -/
def report? (base : Nat) (expression : Text) : Option Report :=
  match tokenize .strict expression with
  | .ok _ => none
  | .error error => some ⟨.lexical error, fileId, base⟩

/-- The check of lines, the first of which starts at the byte `base`. Lines of blanks hold no
expression.
-/
def checkFrom : Nat → List Text → Check
  | _, [] => ⟨0, .empty⟩
  | base, line :: rest =>
    let later := checkFrom (base + Text.utf8Length line) rest
    let expression := expressionOf line
    if expression.all isBlank then later
    else
      ⟨later.checked + 1, ⟨(report? base expression).toList ++ later.log.reports⟩⟩

/-- The check of each line of a source as a strict expression of its own. -/
def checkLines (source : Source) : Check := checkFrom 0 (Text.pieces source.text)

end Source

end KSharp
