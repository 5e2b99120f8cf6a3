import KSharp.Text
import KSharp.Unicode.Alphabetic
import KSharp.Unicode.WhiteSpace

/-! The character classes of macro expressions. Digits are the ten ASCII digits, as
`Char.isDigit` has them; letters and blanks are those of Unicode.
-/

namespace KSharp

/-- A letter is an alphabetic character of any script. -/
def isLetter (c : Char) : Bool := Unicode.isAlphabetic c

/-- A blank separates tokens and belongs to none outside literals. -/
def isBlank (c : Char) : Bool := Unicode.isWhiteSpace c

/-- A word starts with a letter or an underscore. -/
def isWordStart (c : Char) : Bool := isLetter c || c = '_'

/-- A word goes on with letters, digits and underscores. -/
def isWordChar (c : Char) : Bool := isLetter c || c.isDigit || c = '_'

/-- Whether the text is a word: its first character starts one and the others go on. -/
def isWord : Text → Bool
  | [] => false
  | c :: rest => isWordStart c && rest.all isWordChar

end KSharp
