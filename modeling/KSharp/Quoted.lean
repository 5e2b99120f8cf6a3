import KSharp.Text
import KSharp.Unicode.DefaultIgnorable
import KSharp.Unicode.GraphemeExtend
import KSharp.Unicode.Printable

/-! Texts in double quotes, in which nothing stays invisible. -/

namespace KSharp.Quoted

/-- A character by its number, in hexadecimal digits between braces. -/
def numbered (c : Char) : Text := "\\u\x7b".toList ++ Nat.toDigits 16 c.toNat ++ ['}']

/-- Whether the character would be drawn as a part of the one before it. The halfwidth sound
marks of katakana extend a grapheme too, but are letters with a place of their own.
-/
def isCombining (c : Char) : Bool :=
  Unicode.isGraphemeExtend c && !(c = '\uff9e' || c = '\uff9f')

/-- Whether the character cannot be seen on its own: it is a part of the one before it, is left
blank, or leaves no mark at all.
-/
def isHidden (c : Char) : Bool :=
  isCombining c || Unicode.isDefaultIgnorable c || !Unicode.isPrintable c

/-- A character inside double quotes: quotes and backslashes stand behind a backslash, and a
character that cannot be seen on its own is written by a letter or by its number.
-/
def char (c : Char) : Text :=
  if c = '"' ∨ c = '\\' then ['\\', c]
  else if c = '\n' then ['\\', 'n']
  else if c = '\r' then ['\\', 'r']
  else if c = '\t' then ['\\', 't']
  else if c = '\u0000' then ['\\', '0']
  else if isHidden c then numbered c
  else [c]

/-- A text in double quotes. -/
def text (t : Text) : Text := '"' :: t.flatMap char ++ ['"']

end KSharp.Quoted
