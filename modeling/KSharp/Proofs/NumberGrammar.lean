import KSharp.Lexeme.Number
import KSharp.Proofs.CharacterClasses

/-! The grammar of numbers, each with the text that may stand behind it, and that the reader of
numbers finds exactly the numbers of the grammar.
-/

namespace KSharp.Lexeme

-----------------------------------------------------------------------------------------
-- The grammar
-----------------------------------------------------------------------------------------

/-- A run of digits, at least one. -/
structure Digits (text : Text) : Prop where
  nonempty : text ≠ []
  digit : ∀ c ∈ text, c.isDigit

/-- The digits before an exponent, with a point and further digits behind or without. -/
inductive Mantissa : Text → Prop where
  | whole {whole} (digits : Digits whole) : Mantissa whole
  | pointed {whole part} (digits : Digits whole) (fraction : Digits part)
    : Mantissa (whole ++ '.' :: part)

/-- The sign of an exponent, which may be left out. -/
def Sign (text : Text) : Prop := text = [] ∨ text = ['+'] ∨ text = ['-']

/-- A point with a member of the integer before it starts the text. -/
def MemberAhead : Text → Prop
  | '.' :: c :: _ => isWordStart c
  | _ => False

/-- A number of a kind as it stands before a text, which does not make it longer. An integer may
stand before a point only if a member follows; a point without digits behind it belongs to the
number only if none does.
-/
inductive Numeral : Kind → Text → Text → Prop where
  | integer {whole after} (digits : Digits whole) (stops : Text.Stops isWordChar after)
    (member : after.head? = some '.' → MemberAhead after)
    : Numeral .integer whole after
  | point {whole after} (digits : Digits whole) (stops : Text.Stops isWordChar after)
    : Numeral .double (whole ++ ['.']) after
  | fraction {whole part after} (digits : Digits whole) (fraction : Digits part)
    (stops : Text.Stops Char.isDigit after) (exponent : Text.Stops isExponentMarker after)
    : Numeral .double (whole ++ '.' :: part) after
  | exponent {before marker sign power after} (mantissa : Mantissa before)
    (marks : isExponentMarker marker) (signs : Sign sign) (digits : Digits power)
    (stops : Text.Stops Char.isDigit after)
    : Numeral .double (before ++ marker :: (sign ++ power)) after

/-- A text that goes on neither with a word nor with a digit does not go on a word either. -/
theorem isWordChar_stops {text : Text} (word : Text.Stops isWordStart text)
    (digit : Text.Stops Char.isDigit text)
    : Text.Stops isWordChar text := by
  intro c first
  have start := word c first
  simp only [isWordStart, Bool.or_eq_false_iff] at start
  simp [isWordChar, start, digit c first]

/-- The lexeme of a number of a kind: the digits of an integer may be too many. -/
def ofNumeral (kind : Kind) (raw : Text) : Lexeme :=
  if kind = .integer then integer raw else double raw

theorem isWordStart_of_isExponentMarker {c : Char} (marker : isExponentMarker c)
    : isWordStart c := by
  simp only [isExponentMarker, Bool.or_eq_true, decide_eq_true_eq] at marker
  rcases marker with rfl | rfl <;> decide

-----------------------------------------------------------------------------------------
-- What is found is a number of the grammar
-----------------------------------------------------------------------------------------

/-- What is found in front of a text is a number of the grammar, and the rest of the text stands
behind it.
-/
def FindsNumeral (text : Text) : Lexeme → Prop
  | .found kind raw value =>
      ofNumeral kind raw = .found kind raw value
      ∧ ∃ after, text = raw ++ after ∧ Numeral kind raw after
  | .rejected _ => True

theorem findsNumeral_integer {digits after : Text} (numeral : Numeral .integer digits after)
    : (integer digits).FindsNumeral (digits ++ after) := by
  unfold integer
  split
  · next fits =>
    refine ⟨?_, after, rfl, numeral⟩
    simp [ofNumeral, integer, fits]
  · trivial

theorem findsNumeral_double {raw after : Text} (numeral : Numeral .double raw after)
    : (double raw).FindsNumeral (raw ++ after) :=
  ⟨rfl, after, rfl, numeral⟩

theorem digits_takeWhile {text : Text} (nonempty : text.takeWhile Char.isDigit ≠ [])
    : Digits (text.takeWhile Char.isDigit) :=
  ⟨nonempty, List.all_eq_true.mp List.all_takeWhile⟩

/-- An exponent is a marker, a sign and digits, by the cases of the sign. -/
theorem withExponent_findsNumeral {mantissa : Text} (grammar : Mantissa mantissa) {marker : Char}
    (marks : isExponentMarker marker) (after : Text)
    : (withExponent mantissa marker after).FindsNumeral (mantissa ++ marker :: after) := by
  have signed (sign rest : Text) (signs : Sign sign)
      : (if rest.takeWhile Char.isDigit = [] then
            .rejected (.malformedNumber (mantissa ++ marker :: sign))
          else double (mantissa ++ marker :: sign ++ rest.takeWhile Char.isDigit)).FindsNumeral
          (mantissa ++ marker :: (sign ++ rest)) := by
    split
    · trivial
    · next more =>
      have numeral := Numeral.exponent grammar marks signs (digits_takeWhile more)
        (Text.stops_dropWhile Char.isDigit rest)
      have found := findsNumeral_double numeral
      simpa using found
  simp only [withExponent]
  split
  · exact signed ['+'] _ (Or.inr (Or.inl rfl))
  · exact signed ['-'] _ (Or.inr (Or.inr rfl))
  · exact signed [] _ (Or.inl rfl)

/-- What follows a point decides between a member, a bare point, a fraction and an exponent. A
character that starts no word marks no exponent either.
-/
theorem readFraction_findsNumeral {digits : Text} (grammar : Digits digits) (after : Text)
    : (readFraction digits after).FindsNumeral (digits ++ '.' :: after) := by
  have whole := List.takeWhile_append_dropWhile (p := Char.isDigit) (l := after)
  have stops := Text.stops_dropWhile Char.isDigit after
  have pointed (exponent : Text.Stops isExponentMarker (after.dropWhile Char.isDigit))
      (word : Text.Stops isWordStart after)
      : (double (digits ++ '.' :: after.takeWhile Char.isDigit)).FindsNumeral
          (digits ++ '.' :: after) := by
    by_cases none : after.takeWhile Char.isDigit = []
    · rw [none, List.nil_append] at whole
      rw [whole] at stops
      have found := findsNumeral_double (Numeral.point grammar (isWordChar_stops word stops))
      rw [List.append_assoc] at found
      rwa [none]
    · have numeral := Numeral.fraction grammar (digits_takeWhile none) stops exponent
      have found := findsNumeral_double numeral
      rwa [List.append_assoc, List.cons_append, whole] at found
  cases after with
  | nil => exact pointed (.nil _) (.nil _)
  | cons c more =>
      simp only [readFraction]
      split
      · next start =>
        have point : Text.Stops isWordChar ('.' :: c :: more) := by
          rw [Text.stops_cons_iff]
          decide
        exact findsNumeral_integer (.integer grammar point (fun _ => start))
      · next other =>
        have word : Text.Stops isWordStart (c :: more) := by
          rw [Text.stops_cons_iff]
          simpa using other
        split
        · next equal => exact pointed (equal ▸ .nil _) word
        · next m rest equal =>
          split
          · next marks =>
            have part : (c :: more).takeWhile Char.isDigit ≠ [] := by
              intro none
              rw [none, List.nil_append, equal] at whole
              cases whole
              exact other (isWordStart_of_isExponentMarker marks)
            have exponent := withExponent_findsNumeral
              (.pointed grammar (digits_takeWhile part)) marks rest
            rwa [List.append_assoc, List.cons_append, ← equal, whole] at exponent
          · next plain =>
            refine pointed ?_ word
            rw [equal, Text.stops_cons_iff]
            simpa using plain

/-- The character behind the digits of a number decides how it goes on. -/
theorem readNumber_findsNumeral {c : Char} (digit : c.isDigit) (rest : Text)
    : (readNumber c rest).FindsNumeral (c :: rest) := by
  have whole := List.takeWhile_append_dropWhile (p := Char.isDigit) (l := rest)
  have grammar : Digits (c :: rest.takeWhile Char.isDigit) := by
    refine ⟨List.cons_ne_nil _ _, List.forall_mem_cons.mpr ⟨digit, ?_⟩⟩
    exact List.all_eq_true.mp List.all_takeWhile
  simp only [readNumber]
  split
  · next equal =>
    rw [equal] at whole
    have found := findsNumeral_integer (.integer grammar (.nil _) (by simp))
    rwa [List.cons_append, whole] at found
  · next after equal =>
    rw [equal] at whole
    have found := readFraction_findsNumeral grammar after
    rwa [List.cons_append, whole] at found
  · next d after point equal =>
    rw [equal] at whole
    split
    · next marks =>
      have found := withExponent_findsNumeral (.whole grammar) marks after
      rwa [List.cons_append, whole] at found
    · split
      · trivial
      · next other =>
        have stops : Text.Stops isWordChar (d :: after) := by
          rw [Text.stops_cons_iff]
          simpa using other
        have member : (d :: after).head? = some '.' → MemberAhead (d :: after) := by
          intro same
          cases same
          exact (point rfl).elim
        have found := findsNumeral_integer (.integer grammar stops member)
        rwa [List.cons_append, whole] at found

-----------------------------------------------------------------------------------------
-- A number of the grammar is found
-----------------------------------------------------------------------------------------

theorem Digits.first {text : Text} (digits : Digits text)
    : ∃ c rest, text = c :: rest ∧ c.isDigit ∧ ∀ d ∈ rest, d.isDigit := by
  obtain ⟨c, rest, rfl⟩ := List.exists_cons_of_ne_nil digits.nonempty
  obtain ⟨first, more⟩ := List.forall_mem_cons.mp digits.digit
  exact ⟨c, rest, rfl, first, more⟩

theorem Digits.stops_isWordStart {text : Text} (digits : Digits text) (after : Text)
    : Text.Stops isWordStart (text ++ after) := by
  obtain ⟨c, rest, rfl, digit, -⟩ := digits.first
  exact Text.stops_cons_iff.mpr (isWordStart_of_isDigit digit)

/-- A number starts with a digit, by the cases of the grammar. -/
theorem Numeral.first {kind raw after} (numeral : Numeral kind raw after)
    : ∃ c rest, raw = c :: rest ∧ c.isDigit := by
  have extend {text : Text} (digits : Digits text) (more : Text)
      : ∃ c rest, text ++ more = c :: rest ∧ c.isDigit := by
    obtain ⟨c, rest, rfl, digit, -⟩ := digits.first
    exact ⟨c, rest ++ more, rfl, digit⟩
  cases numeral with
  | integer digits stops member =>
      obtain ⟨c, rest, equal, digit, -⟩ := digits.first
      exact ⟨c, rest, equal, digit⟩
  | point digits stops => exact extend digits _
  | fraction digits fraction stops exponent => exact extend digits _
  | exponent mantissa marks signs digits stops =>
      cases mantissa with
      | whole digits => exact extend digits _
      | pointed digits fraction =>
          rw [List.append_assoc]
          exact extend digits _

theorem stops_isDigit {text : Text} (stops : Text.Stops isWordChar text)
    : Text.Stops Char.isDigit text :=
  stops.mono (fun _ => isWordChar_of_isDigit)

/-- A sign and digits behind a marker are read as an exponent, by the cases of the sign. -/
theorem withExponent_eq {sign power after : Text} (signs : Sign sign) (digits : Digits power)
    (stops : Text.Stops Char.isDigit after) (mantissa : Text) (marker : Char)
    : withExponent mantissa marker (sign ++ power ++ after)
      = double (mantissa ++ marker :: (sign ++ power)) := by
  obtain ⟨c, rest, rfl, digit, -⟩ := digits.first
  have run := stops.takeWhile_append digits.digit
  rw [List.cons_append] at run
  have plus : c ≠ '+' := by
    rintro rfl
    exact absurd digit (by decide)
  have minus : c ≠ '-' := by
    rintro rfl
    exact absurd digit (by decide)
  have unsigned : withExponent mantissa marker (c :: rest ++ after)
      = double (mantissa ++ marker :: (c :: rest)) := by
    unfold withExponent
    split
    next sign read equal =>
      split at equal
      · next same => cases same; exact absurd rfl plus
      · next same => cases same; exact absurd rfl minus
      · cases equal
        simp [run]
  rcases signs with rfl | rfl | rfl
  · exact unsigned
  · simp [withExponent, run]
  · simp [withExponent, run]

/-- How a number goes on behind the digits of its fraction. -/
def afterFraction (before : Text) : Text → Lexeme
  | [] => double before
  | m :: rest => if isExponentMarker m then withExponent before m rest else double before

/-- How a number goes on behind its first digits. -/
def afterDigits (whole : Text) : Text → Lexeme
  | [] => integer whole
  | '.' :: rest => readFraction whole rest
  | d :: rest =>
    if isExponentMarker d then withExponent whole d rest
    else if isWordChar d then
      .rejected (.invalidIdentifier (whole ++ (d :: rest).takeWhile isWordChar))
    else integer whole

theorem readFraction_eq {part after : Text} (digit : ∀ c ∈ part, c.isDigit)
    (stops : Text.Stops Char.isDigit after) (word : Text.Stops isWordStart (part ++ after))
    (whole : Text)
    : readFraction whole (part ++ after) = afterFraction (whole ++ '.' :: part) after := by
  have run := stops.takeWhile_append digit
  have rest := stops.dropWhile_append digit
  cases ahead : part ++ after with
  | nil =>
      obtain ⟨rfl, rfl⟩ := List.append_eq_nil_iff.mp ahead
      rfl
  | cons c more =>
      rw [ahead] at run rest word
      have other : ¬isWordStart c := by simp [Text.stops_cons_iff.mp word]
      simp only [readFraction, if_neg other, run, rest]
      cases after <;> rfl

theorem readNumber_eq {whole after : Text} (digits : Digits whole)
    (stops : Text.Stops Char.isDigit after) {c rest} (source : c :: rest = whole ++ after)
    : readNumber c rest = afterDigits whole after := by
  obtain ⟨d, tail, rfl, -, digit⟩ := digits.first
  rw [List.cons_append] at source
  obtain ⟨rfl, rfl⟩ := List.cons.inj source
  simp only [readNumber, stops.takeWhile_append digit, stops.dropWhile_append digit]
  unfold afterDigits
  rfl

theorem stops_marker {marker : Char} (marks : isExponentMarker marker) (rest : Text)
    : Text.Stops Char.isDigit (marker :: rest) := by
  rw [Text.stops_cons_iff, ← Bool.not_eq_true]
  intro digit
  have start := isWordStart_of_isExponentMarker marks
  rw [isWordStart_of_isDigit digit] at start
  cases start

theorem afterFraction_double {after : Text} (plain : Text.Stops isExponentMarker after)
    (before : Text)
    : afterFraction before after = double before := by
  cases after with
  | nil => rfl
  | cons m rest => simp [afterFraction, Text.stops_cons_iff.mp plain]

theorem afterDigits_marker {marker : Char} (marks : isExponentMarker marker) (whole rest : Text)
    : afterDigits whole (marker :: rest) = withExponent whole marker rest := by
  rw [afterDigits, if_pos marks]
  rintro rfl
  exact absurd marks (by decide)

/-- An integer ends before a member's point and before what belongs to no number. -/
theorem afterDigits_integer {after : Text} (stops : Text.Stops isWordChar after)
    (member : after.head? = some '.' → MemberAhead after) (whole : Text)
    : afterDigits whole after = integer whole := by
  cases after with
  | nil => rfl
  | cons d rest =>
      by_cases point : d = '.'
      · subst point
        cases rest with
        | nil => exact (member rfl).elim
        | cons m more =>
            have start : isWordStart m := member rfl
            simp [afterDigits, readFraction, start]
      · have plain := Text.stops_cons_iff.mp stops
        have other : ¬isExponentMarker d := by
          intro marks
          have word := isWordChar_of_isWordStart (isWordStart_of_isExponentMarker marks)
          rw [plain] at word
          cases word
        rw [afterDigits, if_neg other, if_neg (by simp [plain])]
        exact point

/-- Each number of the grammar is read where it stands, by the cases of the grammar. -/
theorem Numeral.read {kind raw after} (numeral : Numeral kind raw after) {c rest}
    (source : c :: rest = raw ++ after)
    : readNumber c rest = ofNumeral kind raw := by
  have point (text : Text) : Text.Stops Char.isDigit ('.' :: text) :=
    Text.stops_cons_iff.mpr (by decide)
  cases numeral with
  | integer digits stops member =>
      rw [readNumber_eq digits (stops_isDigit stops) source]
      exact afterDigits_integer stops member raw
  | @point whole _ digits stops =>
      rw [List.append_assoc, List.singleton_append] at source
      have word : Text.Stops isWordStart after :=
        stops.mono (fun _ => isWordChar_of_isWordStart)
      have plain : Text.Stops isExponentMarker after :=
        word.mono (fun _ => isWordStart_of_isExponentMarker)
      have nothing : ∀ c ∈ ([] : Text), c.isDigit := by simp
      rw [readNumber_eq digits (point after) source, afterDigits]
      calc
        readFraction whole after = afterFraction (whole ++ ['.']) after :=
          readFraction_eq nothing (stops_isDigit stops) word whole
        _ = double (whole ++ ['.']) := afterFraction_double plain _
  | @fraction whole part _ digits fraction stops exponent =>
      rw [List.append_assoc, List.cons_append] at source
      rw [readNumber_eq digits (point _) source, afterDigits,
        readFraction_eq fraction.digit stops (fraction.stops_isWordStart after),
        afterFraction_double exponent]
      rfl
  | @exponent before marker sign power _ mantissa marks signs digits stops =>
      rw [List.append_assoc, List.cons_append] at source
      have exponent := withExponent_eq signs digits stops before marker
      cases mantissa with
      | whole whole =>
          rw [readNumber_eq whole (stops_marker marks _) source, afterDigits_marker marks,
            exponent]
          rfl
      | @pointed whole part integral fraction =>
          rw [List.append_assoc, List.cons_append] at source
          rw [readNumber_eq integral (point _) source, afterDigits,
            readFraction_eq fraction.digit (stops_marker marks _) (fraction.stops_isWordStart _),
            afterFraction, if_pos marks, exponent]
          rfl

end KSharp.Lexeme
