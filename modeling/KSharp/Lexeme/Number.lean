import KSharp.Binary64.Rounding
import KSharp.Character
import KSharp.Lexeme.Basic

/-! Numbers: integers of 64 bits and doubles with a point, an exponent or both. -/

namespace KSharp.Lexeme

/-- The largest integer that a literal may write. -/
def maxInteger : Nat := Nat.pow 2 63 - 1

/-- The lexeme of an integer's digits. -/
def integer (digits : Text) : Lexeme :=
  if Text.toNat digits ≤ maxInteger then .found .integer digits (.integer (Text.toNat digits))
  else .rejected (.malformedNumber digits)

/-- The lexeme of a double's source text. -/
def double (raw : Text) : Lexeme := .found .double raw (.double (Binary64.ofLiteral raw))

/-- The lexeme of a double with an exponent: its mantissa and marker, and the text after the
marker, where a sign may stand and digits must.
-/
def withExponent (mantissa : Text) (marker : Char) (after : Text) : Lexeme :=
  let (sign, digits) :=
    match after with
    | '+' :: rest => (['+'], rest.takeWhile Char.isDigit)
    | '-' :: rest => (['-'], rest.takeWhile Char.isDigit)
    | _ => ([], after.takeWhile Char.isDigit)
  if digits = [] then .rejected (.malformedNumber (mantissa ++ marker :: sign))
  else double (mantissa ++ marker :: sign ++ digits)

/-- Whether the character is the marker of an exponent. -/
def isExponentMarker (c : Char) : Bool := c = 'e' || c = 'E'

/-- The lexeme of a number whose integral digits are followed by a point and `after`. A letter
or underscore there is a member of the integer, whose point is left for the next token.
-/
def readFraction (digits after : Text) : Lexeme :=
  match after with
  | [] => double (digits ++ ['.'])
  | c :: _ =>
    if isWordStart c then integer digits
    else
      let fraction := after.takeWhile Char.isDigit
      match after.dropWhile Char.isDigit with
      | [] => double (digits ++ '.' :: fraction)
      | m :: rest =>
        if isExponentMarker m then withExponent (digits ++ '.' :: fraction) m rest
        else double (digits ++ '.' :: fraction)

/-- The lexeme of the number in front of a text that starts with the digit `c`. -/
def readNumber (c : Char) (rest : Text) : Lexeme :=
  let digits := c :: rest.takeWhile Char.isDigit
  match rest.dropWhile Char.isDigit with
  | [] => integer digits
  | '.' :: after => readFraction digits after
  | d :: after =>
    if isExponentMarker d then withExponent digits d after
    else if isWordChar d then
      .rejected (.invalidIdentifier (digits ++ (d :: after).takeWhile isWordChar))
    else integer digits

end KSharp.Lexeme
