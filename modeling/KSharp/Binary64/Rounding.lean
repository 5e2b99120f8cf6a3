import KSharp.Text
import KSharp.Binary64.Basic

/-! The double nearest to a decimal number, a tie going to the even significand. -/

namespace KSharp

/-- The number `digits * 10 ^ exponent`. -/
structure Decimal where
  digits : Nat
  exponent : Int

/-- The number that a literal such as `12.5e-3` writes: digits, a fraction after a point and
a power of ten after a marker, the last two of which may be missing.
-/
def Decimal.ofLiteral (raw : Text) : Decimal :=
  let whole := raw.takeWhile Char.isDigit
  let afterWhole := raw.dropWhile Char.isDigit
  let fraction :=
    if afterWhole.head? = some '.' then afterWhole.tail.takeWhile Char.isDigit else []
  let power : Int :=
    match raw.dropWhile (fun c => c.isDigit || c = '.') with
    | _ :: '-' :: digits => -(Text.toNat digits : Int)
    | _ :: '+' :: digits => Text.toNat digits
    | _ :: digits => Text.toNat digits
    | [] => 0
  ⟨Text.toNat (whole ++ fraction), power - fraction.length⟩

namespace Binary64

/-- The quotient rounded to the nearest natural number, a tie going to the even one. -/
def roundHalfEven (num den : Nat) : Nat :=
  let floor := num / den
  let twice := 2 * (num % den)
  if twice < den then floor
  else if den < twice then floor + 1
  else floor + floor % 2

/-- The fraction `num * 2 ^ -power / den` as a numerator and a denominator. -/
def shifted (num den : Nat) (power : Int) : Nat × Nat :=
  match power with
  | .ofNat k => (num, den * Nat.pow 2 k)
  | .negSucc k => (num * Nat.pow 2 (k + 1), den)

/-- The exponent of the largest power of two that is at most `num / den`. -/
def floorLog2 (num den : Nat) : Int :=
  let guess : Int := (num.log2 : Int) - den.log2
  let (n, d) := shifted num den guess
  if d ≤ n then guess else guess - 1

/-- The double nearest to `num / den`. With the unit in the last place fixed by the size of
the quotient and never below `2 ^ -1074`, the rounded count of units is added to the exponent
bits, so that a carry out of the significand raises the exponent by itself. Quotients beyond
the largest double become infinity.
-/
def ofRatio (num den : Nat) : Binary64 :=
  if num = 0 then ⟨0⟩
  else
    let unit := max (floorLog2 num den - 52) (-1074)
    if 971 < unit then infinity
    else
      let (n, d) := shifted num den unit
      ⟨UInt64.ofNat ((unit + 1074).toNat * Nat.pow 2 52 + roundHalfEven n d)⟩

/-- The double nearest to a decimal number. Powers of ten that alone carry every number of
its length past the largest double, or below half the smallest one, are not computed.
-/
def ofDecimal (x : Decimal) : Binary64 :=
  if x.digits = 0 then ⟨0⟩
  else
    match x.exponent with
    | .ofNat k => if 400 < k then infinity else ofRatio (x.digits * Nat.pow 10 k) 1
    | .negSucc k =>
      if x.digits.log2 + 1100 < 3 * k then ⟨0⟩ else ofRatio x.digits (Nat.pow 10 (k + 1))

/-- The double that a literal writes. -/
def ofLiteral (raw : Text) : Binary64 := ofDecimal (Decimal.ofLiteral raw)

end Binary64

end KSharp
