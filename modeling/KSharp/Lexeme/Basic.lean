import KSharp.LexError
import KSharp.Token

/-! What the front of a text is read as. -/

namespace KSharp

/-- How lexical errors are handled. The first one ends the tokens in both modes. The strict mode
reports it; the lenient mode is silent, and lets a string literal that is never closed reach to
the end.
-/
inductive Mode where
  | strict
  | lenient
deriving DecidableEq, Repr

/-- What stands at the front of a text: a lexeme with its kind, its source text and its
value, or the cause why there is none.
-/
inductive Lexeme where
  | found (kind : Kind) (raw : Text) (value : Value)
  | rejected (cause : LexError.Cause)
deriving DecidableEq

/-- The lexeme whose value is its own source text. -/
def Lexeme.symbol (kind : Kind) (raw : Text) : Lexeme := .found kind raw (.text raw)

end KSharp
