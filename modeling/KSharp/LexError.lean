import KSharp.Text

/-! Lexical errors: their causes, places and messages. -/

namespace KSharp

/-- Why a text cannot be read as a token: no token starts with a character; a number has an
exponent without digits or an integer beyond 64 bits; a string literal lacks its closing quote;
a word starts with a digit.
-/
inductive LexError.Cause where
  | unexpectedCharacter (c : Char)
  | malformedNumber (text : Text)
  | unterminatedString
  | invalidIdentifier (text : Text)
deriving DecidableEq, Repr

/-- A lexical error: its cause, the offset where the rejected text starts, and the whole
expression.
-/
structure LexError where
  cause : LexError.Cause
  offset : Nat
  expression : Text
deriving DecidableEq, Repr

namespace LexError

/-- The text in single quotes. -/
def quoted (text : Text) : Text := '\'' :: text ++ ['\'']

/-- The message of a cause. -/
def Cause.message : Cause → Text
  | .unexpectedCharacter c => "予期しない文字: ".toList ++ quoted [c]
  | .malformedNumber t => "不正な数値リテラル: ".toList ++ quoted t
  | .unterminatedString => "未終了の文字列リテラル".toList
  | .invalidIdentifier t => "不正な識別子: ".toList ++ quoted t

/-- The message of an error, with its offset. -/
def message (error : LexError) : Text :=
  "字句解析エラー (オフセット ".toList ++ Text.ofNat error.offset ++ "): ".toList
    ++ error.cause.message

/-- The first byte, in the UTF-8 form of the expression, of the character at the error's
offset, and the byte after it; both are the byte length if no character is there.
-/
def byteSpan (error : LexError) : Nat × Nat :=
  let start := Text.utf8Length (error.expression.take error.offset)
  match error.expression.drop error.offset with
  | [] => (start, start)
  | c :: _ => (start, start + c.utf8Size)

end LexError

end KSharp
