/-! Texts as lists of characters: replacement, cutting into lines, trimming and numerals. -/

namespace KSharp

/-- A text is the list of its Unicode scalar values, so lengths and offsets count those. -/
abbrev Text := List Char

namespace Text

-----------------------------------------------------------------------------------------
-- Replacement
-----------------------------------------------------------------------------------------

/-- Replacement inside a scan from the left: `skip` characters still belong to the
occurrence of `old` that was found last and are passed over.
-/
def replaceFrom (old new : Text) : Nat → Text → Text
  | _, [] => []
  | skip + 1, _ :: rest => replaceFrom old new skip rest
  | 0, c :: rest =>
    if old.isPrefixOf (c :: rest) then new ++ replaceFrom old new (old.length - 1) rest
    else c :: replaceFrom old new 0 rest

/-- The text with every occurrence of the non-empty `old` turned into `new`. Occurrences
are found from the left and never overlap, and what was put in is not searched again.
-/
def replaceAll (old new text : Text) : Text := replaceFrom old new 0 text

-----------------------------------------------------------------------------------------
-- Lines and trimming
-----------------------------------------------------------------------------------------

/-- The pieces of a text cut after each line feed, so that together they are the text and
none of them is empty.
-/
def pieces : Text → List Text
  | [] => []
  | c :: rest =>
    if c = '\n' then [c] :: pieces rest
    else
      match pieces rest with
      | [] => [[c]]
      | piece :: more => (c :: piece) :: more

/-- The text without the characters of a class at its end. -/
def trimEnd (drop : Char → Bool) (text : Text) : Text :=
  (text.reverse.dropWhile drop).reverse

/-- The text without the characters of a class at either end. -/
def trim (drop : Char → Bool) (text : Text) : Text := trimEnd drop (text.dropWhile drop)

/-- Line feed and carriage return end a line. -/
def isLineEnd (c : Char) : Bool := c = '\n' || c = '\r'

/-- The number of bytes that the text takes in UTF-8. -/
def utf8Length : Text → Nat
  | [] => 0
  | c :: rest => c.utf8Size + utf8Length rest

-----------------------------------------------------------------------------------------
-- Numerals
-----------------------------------------------------------------------------------------

/-- The number that a run of decimal digits stands for. -/
def toNat (digits : Text) : Nat := digits.foldl (fun n c => 10 * n + (c.toNat - 48)) 0

/-- The decimal digits of a natural number, without leading zeros. -/
def ofNat (n : Nat) : Text := Nat.toDigits 10 n

/-- The decimal digits of an integer, after a minus sign if it is negative. -/
def ofInt : Int → Text
  | .ofNat n => ofNat n
  | .negSucc n => '-' :: ofNat (n + 1)

/-- The text filled up on its left to a width. -/
def padLeft (width : Nat) (fill : Char) (text : Text) : Text :=
  List.replicate (width - text.length) fill ++ text

/-- The decimal digits of an integer, filled up with zeros to a width, which counts its sign. -/
def zeroPadded (width : Nat) : Int → Text
  | .ofNat n => padLeft width '0' (ofNat n)
  | .negSucc n => '-' :: padLeft (width - 1) '0' (ofNat (n + 1))

end Text

end KSharp
