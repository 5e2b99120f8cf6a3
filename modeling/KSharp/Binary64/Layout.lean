import KSharp.Binary64.Shortest

/-! The written forms of doubles: positional always, or positional near one and otherwise
scientific.
-/

namespace KSharp

namespace Digits

/-- Positional writing, with `whole` after an integer that has no fraction. -/
def positional (x : Digits) (whole : Text) : Text :=
  match x.point with
  | .negSucc k => "0.".toList ++ List.replicate (k + 1) '0' ++ x.digits
  | .ofNat 0 => "0.".toList ++ x.digits
  | .ofNat (k + 1) =>
    if x.digits.length ≤ k + 1 then
      x.digits ++ List.replicate (k + 1 - x.digits.length) '0' ++ whole
    else x.digits.take (k + 1) ++ '.' :: x.digits.drop (k + 1)

/-- Scientific writing: one digit, the others after a point, and a signed power of ten. -/
def scientific (x : Digits) : Text :=
  let fraction := x.digits.drop 1
  let power := x.point - 1
  x.digits.take 1 ++ (if fraction = [] then [] else '.' :: fraction)
    ++ 'e' :: (if power < 0 then [] else ['+']) ++ Text.ofInt power

end Digits

namespace Binary64

/-- The minus sign of a double whose sign bit is set. -/
def sign (x : Binary64) : Text := if x.isNegative then ['-'] else []

/-- The display of a double: positional, with no point after a whole number. -/
def display (x : Binary64) : Text :=
  if x.isNaN then "NaN".toList
  else if x.isInfinite then x.sign ++ "inf".toList
  else if x.isZero then x.sign ++ ['0']
  else x.sign ++ (x.shortest .up).positional []

/-- The JSON number of a double. Powers of ten from -5 to 15 are written positionally and
always with a point, the others scientifically; JSON has no number for the infinities and
for what is not a number.
-/
def json (x : Binary64) : Text :=
  if x.isNaN || x.isInfinite then "null".toList
  else if x.isZero then x.sign ++ "0.0".toList
  else
    let digits := x.shortest .even
    x.sign ++ if -5 < digits.point ∧ digits.point ≤ 16 then digits.positional ".0".toList
      else digits.scientific

end Binary64

end KSharp
