import KSharp.Binary64.Basic
import KSharp.Text

/-! Tokens: a kind, the source text, the value read from it and an offset. -/

namespace KSharp

/-- The kinds of tokens. A bracket is a parenthesis, an indexer a square bracket and a block a
brace. A parameter is a directive, a name in parentheses after a pipe, and its value is the text
that it is applied to.
-/
inductive Kind where
  | identifier
  | integer
  | double
  | boolean
  | string
  | operator
  | semicolon
  | dot
  | comma
  | leftBracket
  | rightBracket
  | leftIndexer
  | rightIndexer
  | blockStart
  | blockEnd
  | parameter
  | parameterValue
deriving DecidableEq, Repr

/-- The name under which a kind is shown. -/
def Kind.name : Kind → Text
  | .identifier => "Identifier".toList
  | .integer => "Integer".toList
  | .double => "Double".toList
  | .boolean => "Boolean".toList
  | .string => "String".toList
  | .operator => "Operator".toList
  | .semicolon => "Semicolon".toList
  | .dot => "Dot".toList
  | .comma => "Comma".toList
  | .leftBracket => "LeftBracket".toList
  | .rightBracket => "RightBracket".toList
  | .leftIndexer => "LeftIndexer".toList
  | .rightIndexer => "RightIndexer".toList
  | .blockStart => "BlockStart".toList
  | .blockEnd => "BlockEnd".toList
  | .parameter => "Parameter".toList
  | .parameterValue => "ParameterValue".toList

/-- The kind of a character that is a token by itself, if it is one. -/
def Kind.punctuation? : Char → Option Kind
  | '(' => some .leftBracket
  | ')' => some .rightBracket
  | '[' => some .leftIndexer
  | ']' => some .rightIndexer
  | '{' => some .blockStart
  | '}' => some .blockEnd
  | '.' => some .dot
  | ',' => some .comma
  | _ => none

/-- What a token stands for. -/
inductive Value where
  | text (text : Text)
  | integer (n : Int)
  | double (x : Binary64)
  | boolean (b : Bool)
deriving DecidableEq, Repr

namespace Value

/-- The text of a textual value. -/
def text? : Value → Option Text
  | .text t => some t
  | _ => none

/-- The number of an integral value. -/
def integer? : Value → Option Int
  | .integer n => some n
  | _ => none

/-- The number of a double value. -/
def double? : Value → Option Binary64
  | .double x => some x
  | _ => none

/-- The truth of a boolean value. -/
def boolean? : Value → Option Bool
  | .boolean b => some b
  | _ => none

end Value

/-- A token: its source text `raw`, quotes and escapes included, the value it stands for, and
the offset of its first character in the expression.
-/
structure Token where
  kind : Kind
  raw : Text
  value : Value
  offset : Nat
deriving DecidableEq, Repr

namespace Token

/-- The token that stands for its own source text. -/
def symbol (kind : Kind) (raw : Text) (offset : Nat) : Token := ⟨kind, raw, .text raw, offset⟩

/-- The empty value that completes a directive at the end of an expression. -/
def emptyParameterValue (offset : Nat) : Token := symbol .parameterValue [] offset

/-- The offset right after the last source character. -/
def stop (token : Token) : Nat := token.offset + token.raw.length

end Token

end KSharp
