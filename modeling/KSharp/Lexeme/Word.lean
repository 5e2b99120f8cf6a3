import KSharp.Character
import KSharp.Lexeme.Basic
import KSharp.Operator

/-! Words: identifiers, truth values and the operators that are spelt as words. -/

namespace KSharp.Lexeme

/-- Whether the text is a name in any ASCII letter case. -/
def isNameIgnoringCase (name text : Text) : Bool := text.map Char.toLower = name

/-- The classification of a whole word. -/
def classifyWord (word : Text) : Lexeme :=
  if Operator.isWordOperator word then
    .found .operator word (.text (Unicode.lowercase word))
  else if isNameIgnoringCase "true".toList word then .found .boolean word (.boolean true)
  else if isNameIgnoringCase "false".toList word then .found .boolean word (.boolean false)
  else .symbol .identifier word

/-- The lexeme of the longest word in front of a text that starts with `c`. -/
def readWord (c : Char) (rest : Text) : Lexeme := classifyWord (c :: rest.takeWhile isWordChar)

end KSharp.Lexeme
