/-! Sets of characters listed as ranges of code points. -/

namespace KSharp.Unicode

/-- Whether one of the ranges, both ends included, holds the code point. The ranges ascend,
so the search ends at the first one that starts beyond it.
-/
def holds : List (Nat × Nat) → Nat → Bool
  | [], _ => false
  | (first, last) :: more, n => if n < first then false else n ≤ last || holds more n

end KSharp.Unicode
