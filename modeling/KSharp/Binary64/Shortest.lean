import KSharp.Text
import KSharp.Binary64.Basic

/-! The fewest decimal digits that still read back as the same double. -/

namespace KSharp

/-- Which of two equally near decimal neighbours is chosen: the one whose last digit is even, or
the one of larger magnitude.
-/
inductive Tie where
  | even
  | up
deriving DecidableEq

/-- The number `0.d₁d₂… * 10 ^ point`, for the digits `d₁d₂…`, of which neither the first
nor the last is a zero.
-/
structure Digits where
  digits : Text
  point : Int
deriving DecidableEq

namespace Binary64

/-- A finite positive double as a fraction `value / den`, with the fractions `low / den` and
`high / den` that bound the numbers rounded to it. The bounds lie half-way to the two
neighbours, and belong to these numbers exactly when the significand is even.
-/
structure Interval where
  value : Nat
  low : Nat
  high : Nat
  den : Nat
  closed : Bool

/-- The interval of a finite positive double. Quarters of the unit in the last place keep
both bounds integral; below a power of two the neighbour is only half as far away.
-/
def interval (x : Binary64) : Interval :=
  let below := if x.fractionField = 0 ∧ 1 < x.exponentField then 1 else 2
  let (up, den) : Nat × Nat :=
    match x.scale - 2 with
    | .ofNat k => (Nat.pow 2 k, 1)
    | .negSucc k => (1, Nat.pow 2 (k + 1))
  { value := 4 * x.significand * up
    low := (4 * x.significand - below) * up
    high := (4 * x.significand + 2) * up
    den := den
    closed := x.significand % 2 = 0 }

/-- Whether `num / den` is rounded to the double of the interval. -/
def Interval.holds (i : Interval) (num den : Nat) : Bool :=
  if i.closed then i.low * den ≤ num * i.den && num * i.den ≤ i.high * den
  else i.low * den < num * i.den && num * i.den < i.high * den

/-- The number of digits before the decimal point of a positive fraction, negative by the
count of zeros that follow the point.
-/
def pointOf (num den : Nat) : Int :=
  if den ≤ num then (Text.ofNat (num / den)).length
  else
    1 - ((Text.ofNat ((den - 1) / num)).length : Int)

/-- The neighbour of the interval's value, on the grid of decimals with `count` digits, that
is rounded to the double; the nearer one, if both are.
-/
def Interval.onGrid (i : Interval) (tie : Tie) (count : Nat) : Option Digits :=
  let point := pointOf i.value i.den
  let (scaleNum, scaleDen) : Nat × Nat :=
    match point - count with
    | .ofNat k => (Nat.pow 10 k, 1)
    | .negSucc k => (1, Nat.pow 10 (k + 1))
  let num := i.value * scaleDen
  let den := i.den * scaleNum
  let floor := num / den
  let digitsOf (d : Nat) : Digits :=
    let digits := Text.ofNat d
    ⟨Text.trimEnd (· = '0') digits, point - count + digits.length⟩
  match i.holds (floor * scaleNum) scaleDen, i.holds ((floor + 1) * scaleNum) scaleDen with
  | false, false => none
  | true, false => some (digitsOf floor)
  | false, true => some (digitsOf (floor + 1))
  | true, true =>
    let twice := 2 * (num % den)
    if twice < den then some (digitsOf floor)
    else if den < twice then some (digitsOf (floor + 1))
    else
      match tie with
      | .even => some (digitsOf (floor + floor % 2))
      | .up => some (digitsOf (floor + 1))

/-- The fewest digits that read back as the magnitude of a finite non-zero double, and of
these the nearest to it. Seventeen digits always suffice.
-/
def shortest (x : Binary64) (tie : Tie) : Digits :=
  ((List.range 17).findSome? fun n => x.interval.onGrid tie (n + 1)).getD ⟨[], 0⟩

end Binary64

end KSharp
