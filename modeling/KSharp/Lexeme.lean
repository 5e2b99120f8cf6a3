import KSharp.Lexeme.Number
import KSharp.Lexeme.Parameter
import KSharp.Lexeme.StringLiteral
import KSharp.Lexeme.Word

/-! The lexeme in front of a text, chosen by its first character. -/

namespace KSharp.Lexeme

/-- The lexeme of a symbol in front of a text that starts with the operator character `c`: a
parameter, the semicolon or the longest operator.
-/
def readSymbol (c : Char) (rest : Text) : Lexeme :=
  match Parameter.name? (c :: rest) with
  | some name => .found .parameter (Parameter.source name) (.text name)
  | none =>
    let raw := Operator.grow [c] rest
    .symbol (if raw = [';'] then .semicolon else .operator) raw

/-- The lexeme in front of the text `c :: rest`, no trivia being there. -/
def read (mode : Mode) (c : Char) (rest : Text) : Lexeme :=
  if isWordStart c then readWord c rest
  else if c.isDigit then readNumber c rest
  else if c = '@' ∧ rest.head? = some '"' then readVerbatim rest.tail
  else if c = '"' then readQuoted mode rest
  else if Operator.isChar c then readSymbol c rest
  else
    match Kind.punctuation? c with
    | some kind => .symbol kind [c]
    | none => .rejected (.unexpectedCharacter c)

end KSharp.Lexeme
