import Mathlib.Data.List.Induction
import Mathlib.Data.Nat.Digits.Defs
import KSharp.Proofs.LexemeSteps

/-! How a number goes on behind its digits: by the text there, the digits are read as an integer, as
a double or as an error. A step at a digit decides by exactly these cases.
-/

namespace KSharp

-----------------------------------------------------------------------------------------
-- Decimal numbers
-----------------------------------------------------------------------------------------

/-- The number that a text of decimal digits writes, the last digit counting ones. -/
def Text.decimal (digits : Text) : Nat :=
  Nat.ofDigits 10 (digits.reverse.map (fun c => c.toNat - '0'.toNat))

/-- Reading digits from the left gives the number that they write, by induction from the right. -/
theorem Text.toNat_eq_decimal (digits : Text) : toNat digits = decimal digits := by
  induction digits using List.reverseRecOn with
  | nil => rfl
  | append_singleton front c ih =>
      have last : toNat (front ++ [c]) = 10 * toNat front + (c.toNat - 48) := by
        simp [toNat]
      rw [last, ih]
      simp [decimal, Nat.ofDigits_cons, Nat.add_comm]

theorem Text.isDigit_of_mem_ofNat {n : Nat} {c : Char} (member : c ∈ ofNat n) : c.isDigit :=
  Nat.isDigit_of_mem_toDigits (by decide) (by decide) member

theorem Text.ofNat_injective {m n : Nat} (same : ofNat m = ofNat n) : m = n := by
  have read := congrArg (Nat.ofDigitChars 10 · 0) same
  simpa [ofNat, Nat.ofDigitChars_ten_toDigits] using read

namespace Lexeme

-----------------------------------------------------------------------------------------
-- Verdicts
-----------------------------------------------------------------------------------------

/-- What the digits of an integer are read as: they may be too many for 64 bits. -/
inductive IntegerVerdict (digits : Text) : Lexeme → Prop where
  | fits (small : digits.decimal ≤ 2 ^ 63 - 1)
    : IntegerVerdict digits (.found .integer digits (.integer digits.decimal))
  | exceeds (large : 2 ^ 63 - 1 < digits.decimal)
    : IntegerVerdict digits (.rejected (.malformedNumber digits))

/-- Whether the character is the sign of an exponent. -/
def isSign (c : Char) : Bool := c = '+' || c = '-'

/-- What a number with an exponent marker is read as, by the text behind the marker. Digits have to
stand there or behind a sign.
-/
inductive ExponentVerdict (front : Text) (marker : Char) : Text → Lexeme → Prop where
  | signed {sign power after} (signs : isSign sign) (digits : Digits power)
    (stops : Text.Stops Char.isDigit after)
    : ExponentVerdict front marker (sign :: (power ++ after))
        (double (front ++ marker :: sign :: power))
  | signAlone {sign after} (signs : isSign sign) (stops : Text.Stops Char.isDigit after)
    : ExponentVerdict front marker (sign :: after)
        (.rejected (.malformedNumber (front ++ [marker, sign])))
  | unsigned {power after} (digits : Digits power) (stops : Text.Stops Char.isDigit after)
    : ExponentVerdict front marker (power ++ after) (double (front ++ marker :: power))
  | markerAlone {after} (unsigned : Text.Stops isSign after)
    (stops : Text.Stops Char.isDigit after)
    : ExponentVerdict front marker after (.rejected (.malformedNumber (front ++ [marker])))

/-- What the digits of a number are read as, by the text behind them. A point belongs to the number
unless a member follows it, and a word that does not start an exponent spoils the digits.
-/
inductive NumberVerdict (digits : Text) : Text → Lexeme → Prop where
  | member {c rest lexeme} (start : isWordStart c) (verdict : IntegerVerdict digits lexeme)
    : NumberVerdict digits ('.' :: c :: rest) lexeme
  | point {after} (word : Text.Stops isWordStart after) (stops : Text.Stops Char.isDigit after)
    : NumberVerdict digits ('.' :: after) (double (digits ++ ['.']))
  | fraction {part after} (fraction : Digits part) (stops : Text.Stops Char.isDigit after)
    (exponent : Text.Stops isExponentMarker after)
    : NumberVerdict digits ('.' :: (part ++ after)) (double (digits ++ '.' :: part))
  | fractionExponent {part marker after lexeme} (fraction : Digits part)
    (marks : isExponentMarker marker)
    (verdict : ExponentVerdict (digits ++ '.' :: part) marker after lexeme)
    : NumberVerdict digits ('.' :: (part ++ marker :: after)) lexeme
  | exponent {marker after lexeme} (marks : isExponentMarker marker)
    (verdict : ExponentVerdict digits marker after lexeme)
    : NumberVerdict digits (marker :: after) lexeme
  | word {c after} (start : isWordStart c) (exponent : isExponentMarker c = false)
    : NumberVerdict digits (c :: after)
        (.rejected (.invalidIdentifier (digits ++ (c :: after).takeWhile isWordChar)))
  | integer {after lexeme} (point : after.head? ≠ some '.') (word : Text.Stops isWordStart after)
    (verdict : IntegerVerdict digits lexeme)
    : NumberVerdict digits after lexeme

-----------------------------------------------------------------------------------------
-- There is a verdict
-----------------------------------------------------------------------------------------

theorem stops_or_digits (text : Text)
    : Text.Stops Char.isDigit text
      ∨ ∃ run after, text = run ++ after ∧ Digits run ∧ Text.Stops Char.isDigit after := by
  have whole := List.takeWhile_append_dropWhile (p := Char.isDigit) (l := text)
  have stops := Text.stops_dropWhile Char.isDigit text
  by_cases none : text.takeWhile Char.isDigit = []
  · rw [none, List.nil_append] at whole
    exact Or.inl (whole ▸ stops)
  · exact Or.inr ⟨_, _, whole.symm, digits_takeWhile none, stops⟩

theorem integerVerdict_total (digits : Text) : ∃ lexeme, IntegerVerdict digits lexeme := by
  rcases le_or_gt digits.decimal (2 ^ 63 - 1) with small | large
  · exact ⟨_, .fits small⟩
  · exact ⟨_, .exceeds large⟩

theorem exponentVerdict_total (front : Text) (marker : Char) (after : Text)
    : ∃ lexeme, ExponentVerdict front marker after lexeme := by
  rcases Text.stops_or_cons isSign after with unsigned | ⟨sign, rest, rfl, signs⟩
  · rcases stops_or_digits after with stops | ⟨power, later, rfl, digits, stops⟩
    · exact ⟨_, .markerAlone unsigned stops⟩
    · exact ⟨_, .unsigned digits stops⟩
  · rcases stops_or_digits rest with stops | ⟨power, later, rfl, digits, stops⟩
    · exact ⟨_, .signAlone signs stops⟩
    · exact ⟨_, .signed signs digits stops⟩

/-- Every text behind digits decides on them, by its first characters. -/
theorem numberVerdict_total (digits after : Text) : ∃ lexeme, NumberVerdict digits after lexeme := by
  obtain ⟨integer, fits⟩ := integerVerdict_total digits
  by_cases point : after.head? = some '.'
  · obtain ⟨rest, rfl⟩ := List.head?_eq_some_iff.mp point
    rcases Text.stops_or_cons isWordStart rest with word | ⟨c, more, rfl, start⟩
    · rcases stops_or_digits rest with stops | ⟨part, later, rfl, fraction, stops⟩
      · exact ⟨_, .point word stops⟩
      rcases Text.stops_or_cons isExponentMarker later with plain | ⟨marker, behind, rfl, marks⟩
      · exact ⟨_, .fraction fraction stops plain⟩
      · obtain ⟨lexeme, verdict⟩ := exponentVerdict_total (digits ++ '.' :: part) marker behind
        exact ⟨lexeme, .fractionExponent fraction marks verdict⟩
    · exact ⟨integer, .member start fits⟩
  · rcases Text.stops_or_cons isWordStart after with word | ⟨c, rest, rfl, start⟩
    · exact ⟨integer, .integer point word fits⟩
    cases marks : isExponentMarker c with
    | false => exact ⟨_, .word start marks⟩
    | true =>
        obtain ⟨lexeme, verdict⟩ := exponentVerdict_total digits c rest
        exact ⟨lexeme, .exponent marks verdict⟩

-----------------------------------------------------------------------------------------
-- A verdict is what is read
-----------------------------------------------------------------------------------------

theorem IntegerVerdict.eq {digits : Text} {lexeme} (verdict : IntegerVerdict digits lexeme)
    : integer digits = lexeme := by
  have bound : maxInteger = 2 ^ 63 - 1 := rfl
  rw [integer, Text.toNat_eq_decimal, bound]
  cases verdict with
  | fits small => exact if_pos small
  | exceeds large => exact if_neg (Nat.not_le.mpr large)

theorem sign_of_isSign {sign : Char} (signs : isSign sign) : Sign [sign] := by
  simp only [isSign, Bool.or_eq_true, decide_eq_true_eq] at signs
  rcases signs with rfl | rfl
  · exact Or.inr (Or.inl rfl)
  · exact Or.inr (Or.inr rfl)

/-- The exponent is read by its verdict: with digits it makes a double, and without them it ends
behind the sign or the marker.
-/
theorem ExponentVerdict.eq {front marker after lexeme}
    (verdict : ExponentVerdict front marker after lexeme)
    : withExponent front marker after = lexeme := by
  cases verdict with
  | signed signs digits stops =>
      exact withExponent_eq (sign_of_isSign signs) digits stops front marker
  | @signAlone sign rest signs stops =>
      have none := stops.takeWhile
      rcases sign_of_isSign signs with empty | plus | minus
      · cases empty
      · cases plus
        simp [withExponent, none]
      · cases minus
        simp [withExponent, none]
  | unsigned digits stops =>
      exact withExponent_eq (Or.inl rfl) digits stops front marker
  | markerAlone unsigned stops =>
      unfold withExponent
      split
      next sign power equal =>
        split at equal
        · exact absurd (Text.stops_cons_iff.mp unsigned) (by decide)
        · exact absurd (Text.stops_cons_iff.mp unsigned) (by decide)
        · cases equal
          simp [stops.takeWhile]

/-- The digits are read by the verdict on them, by its cases. -/
theorem NumberVerdict.eq {digits after lexeme} (verdict : NumberVerdict digits after lexeme)
    (stops : Text.Stops Char.isDigit after)
    : afterDigits digits after = lexeme := by
  cases verdict with
  | member start verdict =>
      rw [afterDigits, readFraction, if_pos start]
      exact verdict.eq
  | @point behind word none =>
      have plain : Text.Stops isExponentMarker behind :=
        word.mono (fun _ => isWordStart_of_isExponentMarker)
      have nothing : ∀ c ∈ ([] : Text), c.isDigit := by simp
      calc
        afterDigits digits ('.' :: behind) = afterFraction (digits ++ ['.']) behind :=
          readFraction_eq nothing none word digits
        _ = double (digits ++ ['.']) := afterFraction_double plain _
  | @fraction part behind fraction ends exponent =>
      rw [afterDigits, readFraction_eq fraction.digit ends (fraction.stops_isWordStart behind),
        afterFraction_double exponent]
  | fractionExponent fraction marks verdict =>
      rw [afterDigits, readFraction_eq fraction.digit (stops_marker marks _)
          (fraction.stops_isWordStart _), afterFraction, if_pos marks]
      exact verdict.eq
  | exponent marks verdict =>
      rw [afterDigits_marker marks]
      exact verdict.eq
  | @word c behind start exponent =>
      have word : isWordChar c := isWordChar_of_isWordStart start
      rw [afterDigits, if_neg (by simp [exponent]), if_pos word]
      rintro rfl
      exact absurd start (by decide)
  | integer point word verdict =>
      rw [afterDigits_integer (isWordChar_stops word stops) (fun same => absurd same point)]
      exact verdict.eq

end Lexeme

-----------------------------------------------------------------------------------------
-- Steps at a digit
-----------------------------------------------------------------------------------------

namespace Scan

/-- A step at a digit reads the number there. -/
theorem tokenAt_digit {expression : Text} {pos : Nat} {c : Char} {rest : Text}
    (ahead : expression.drop pos = c :: rest) (digit : c.isDigit) (mode : Mode)
    : tokenAt mode expression pos
      = (Lexeme.afterDigits ((c :: rest).takeWhile Char.isDigit)
          ((c :: rest).dropWhile Char.isDigit)).placed pos := by
  have visible : isBlank c = false := isBlank_of_isWordChar (isWordChar_of_isDigit digit)
  have slash : c ≠ '/' := by
    rintro rfl
    exact absurd digit (by decide)
  have digits : Lexeme.Digits ((c :: rest).takeWhile Char.isDigit) := by
    apply Lexeme.digits_takeWhile
    simp [digit]
  have stops := Text.stops_dropWhile Char.isDigit (c :: rest)
  have source := List.takeWhile_append_dropWhile (p := Char.isDigit) (l := c :: rest)
  rw [tokenAt, ahead, ahead_of_absent (Trivia.absent_cons visible slash rest),
    Lexeme.read_digit mode digit, Lexeme.readNumber_eq digits stops source.symm]

/-- At a digit, in either mode, the text behind the longest run of digits decides on exactly one
lexeme, and that is what a step reads there. Witness: the verdict on the digits, which is what the
reader of numbers finds.
-/
theorem tokenAt_number (mode : Mode) (expression : Text) (pos : Nat)
    (digit : ∃ c, expression[pos]? = some c ∧ c.isDigit)
    : let digits := (expression.drop pos).takeWhile Char.isDigit
      let after := (expression.drop pos).dropWhile Char.isDigit
      (∃ lexeme, Lexeme.NumberVerdict digits after lexeme)
      ∧ ∀ lexeme,
          Lexeme.NumberVerdict digits after lexeme
          ↔ tokenAt mode expression pos = lexeme.placed pos := by
  obtain ⟨c, here, digit⟩ := digit
  obtain ⟨rest, ahead⟩ := List.head?_eq_some_iff.mp (List.head?_drop.trans here)
  have read := tokenAt_digit ahead digit mode
  rw [← ahead] at read
  have stops := Text.stops_dropWhile Char.isDigit (expression.drop pos)
  obtain ⟨found, verdict⟩ := Lexeme.numberVerdict_total
    ((expression.drop pos).takeWhile Char.isDigit) ((expression.drop pos).dropWhile Char.isDigit)
  refine ⟨⟨found, verdict⟩, ?_⟩
  intro lexeme
  rw [read, Lexeme.placed_inj]
  constructor
  · intro other
    exact other.eq stops
  · rintro rfl
    rwa [verdict.eq stops]

/-- Behind a fraction and a marker, a sign without digits spoils the number up to the sign. -/
theorem tokenAt_number_unfinished
    : let expression := "x7.25e+y".toList
      (∃ c, expression[1]? = some c ∧ c.isDigit)
      ∧ tokenAt .lenient expression 1 = .error (.malformedNumber "7.25e+".toList) 1 := by
  have digit : ∃ c, "x7.25e+y".toList[1]? = some c ∧ c.isDigit := ⟨'7', rfl, rfl⟩
  have fraction : Lexeme.Digits ['2', '5'] := ⟨by simp, by simp⟩
  have stops : Text.Stops Char.isDigit ['y'] := Text.stops_cons_iff.mpr rfl
  have verdict : Lexeme.NumberVerdict ['7'] ".25e+y".toList
      (.rejected (.malformedNumber "7.25e+".toList)) :=
    .fractionExponent fraction rfl (.signAlone rfl stops)
  exact ⟨digit, ((tokenAt_number .lenient _ 1 digit).2 _).mp verdict⟩

end Scan

end KSharp
