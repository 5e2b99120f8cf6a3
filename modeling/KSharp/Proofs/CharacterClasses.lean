import KSharp.Character
import KSharp.Operator
import KSharp.Token

/-! The classes of characters exclude one another: blanks belong to no token, and the first
character of a text decides which lexeme is read there. A run of a class ends where the text
does not go on with a character of it.
-/

namespace KSharp

-----------------------------------------------------------------------------------------
-- Blanks
-----------------------------------------------------------------------------------------

/-- The code points of blanks, one by one. -/
def blankCodes : List Nat :=
  [
    9, 10, 11, 12, 13, 32, 133, 160, 5760, 8192, 8193, 8194, 8195, 8196, 8197, 8198, 8199, 8200,
    8201, 8202, 8232, 8233, 8239, 8287, 12288
  ]

theorem code_of_blank {c : Char} (blank : isBlank c) : c.toNat ∈ blankCodes := by
  simp only [isBlank, Unicode.isWhiteSpace] at blank
  generalize c.toNat = n at blank
  simp only [Unicode.holds, Unicode.whiteSpaceRanges, Bool.if_false_left, Bool.or_eq_true,
    Bool.and_eq_true, Bool.not_eq_true', Bool.false_eq_true, or_false, decide_eq_true_eq,
    decide_eq_false_iff_not] at blank
  simp only [blankCodes, List.mem_cons, List.not_mem_nil, or_false]
  omega

theorem ne_lineFeed_of_visible {c : Char} (visible : isBlank c = false) : c ≠ '\n' := by
  rintro rfl
  cases visible

theorem isLetter_of_blank {c : Char} (blank : isBlank c) : isLetter c = false := by
  have apart : ∀ n ∈ blankCodes, Unicode.holds Unicode.alphabeticRanges n = false := by
    decide +kernel
  exact apart c.toNat (code_of_blank blank)

theorem isDigit_iff {c : Char} : c.isDigit ↔ 48 ≤ c.toNat ∧ c.toNat ≤ 57 := by
  simp [Char.isDigit, UInt32.le_iff_toNat_le]

theorem isDigit_of_blank {c : Char} (blank : isBlank c) : c.isDigit = false := by
  have apart : ∀ n ∈ blankCodes, ¬(48 ≤ n ∧ n ≤ 57) := by decide
  rw [← Bool.not_eq_true, isDigit_iff]
  exact apart c.toNat (code_of_blank blank)

/-- No word holds a blank, by the code points of blanks. -/
theorem isWordChar_of_blank {c : Char} (blank : isBlank c) : isWordChar c = false := by
  have underscore : c ≠ '_' := by
    rintro rfl
    exact absurd blank (by decide)
  simp [isWordChar, isLetter_of_blank blank, isDigit_of_blank blank, underscore]

theorem isBlank_of_isWordChar {c : Char} (word : isWordChar c) : isBlank c = false := by
  rw [← Bool.not_eq_true]
  intro blank
  rw [isWordChar_of_blank blank] at word
  cases word

-----------------------------------------------------------------------------------------
-- Words and numbers
-----------------------------------------------------------------------------------------

theorem isWordChar_of_isLetter {c : Char} (letter : isLetter c) : isWordChar c := by
  simp [isWordChar, letter]

theorem isWordChar_of_isWordStart {c : Char} (start : isWordStart c) : isWordChar c := by
  simp only [isWordStart, Bool.or_eq_true] at start
  rcases start with letter | underscore
  · exact isWordChar_of_isLetter letter
  · simp [isWordChar, underscore]

/-- Each character of a word goes on with it. -/
theorem isWordChar_of_mem {word : Text} (whole : isWord word) {c : Char} (member : c ∈ word)
    : isWordChar c := by
  cases word with
  | nil => cases member
  | cons first rest =>
      rw [isWord, Bool.and_eq_true] at whole
      rcases List.mem_cons.mp member with rfl | later
      · exact isWordChar_of_isWordStart whole.1
      · exact List.all_eq_true.mp whole.2 c later

theorem isWordChar_of_isDigit {c : Char} (digit : c.isDigit) : isWordChar c := by
  simp [isWordChar, digit]

/-- No word starts with a digit, by the ten digits. -/
theorem isWordStart_of_isDigit {c : Char} (digit : c.isDigit) : isWordStart c = false := by
  have apart
      : ∀ n ∈ List.range' 48 10,
          Unicode.holds Unicode.alphabeticRanges n = false ∧ n ≠ '_'.toNat := by
    decide
  have member : c.toNat ∈ List.range' 48 10 := by
    rw [List.mem_range'_1]
    have := isDigit_iff.mp digit
    omega
  obtain ⟨letter, other⟩ := apart c.toNat member
  have underscore : c ≠ '_' := by
    rintro rfl
    exact other rfl
  simp only [isWordStart, isLetter, Unicode.isAlphabetic, letter, underscore, decide_false,
    Bool.or_false]

-----------------------------------------------------------------------------------------
-- Symbols
-----------------------------------------------------------------------------------------

/-- A character that neither belongs to a word nor is a blank, nor starts a string literal. -/
structure Symbolic (c : Char) : Prop where
  word : isWordStart c = false
  digit : c.isDigit = false
  blank : isBlank c = false
  verbatim : c ≠ '@'
  quote : c ≠ '"'

instance (c : Char) : Decidable (Symbolic c) :=
  decidable_of_iff
    (isWordStart c = false ∧ c.isDigit = false ∧ isBlank c = false ∧ c ≠ '@' ∧ c ≠ '"')
    ⟨fun ⟨word, digit, blank, verbatim, quote⟩ => ⟨word, digit, blank, verbatim, quote⟩,
      fun ⟨word, digit, blank, verbatim, quote⟩ => ⟨word, digit, blank, verbatim, quote⟩⟩

theorem Operator.symbolic_of_isChar {c : Char} (symbol : isChar c) : Symbolic c := by
  have each : chars.all (fun c => decide (Symbolic c)) := by decide
  exact of_decide_eq_true (List.all_eq_true.mp each c (of_decide_eq_true symbol))

/-- A character that is a token by itself starts no other one, by those characters. -/
theorem Kind.symbolic_of_punctuation? {c : Char} {kind} (alone : punctuation? c = some kind)
    : Symbolic c ∧ Operator.isChar c = false := by
  unfold punctuation? at alone
  split at alone <;> first | decide | cases alone

-----------------------------------------------------------------------------------------
-- Runs of characters
-----------------------------------------------------------------------------------------

namespace Text

/-- The text does not go on with a character of the class. -/
def Stops (p : Char → Bool) (text : Text) : Prop := ∀ c, text.head? = some c → p c = false

theorem Stops.nil (p : Char → Bool) : Stops p [] := by
  intro c first
  cases first

theorem stops_cons_iff {p : Char → Bool} {c rest} : Stops p (c :: rest) ↔ p c = false := by
  simp [Stops]

theorem Stops.mono {p q : Char → Bool} {text} (stops : Stops p text) (weaker : ∀ c, q c → p c)
    : Stops q text := by
  intro c first
  rw [← Bool.not_eq_true]
  intro holds
  exact absurd (weaker c holds) (by simp [stops c first])

theorem stops_dropWhile (p : Char → Bool) (text : Text) : Stops p (text.dropWhile p) := by
  intro c first
  have fails := List.head?_dropWhile_not p text
  rw [first] at fails
  simpa using fails

theorem stops_or_cons (p : Char → Bool) (text : Text)
    : Stops p text ∨ ∃ c rest, text = c :: rest ∧ p c := by
  cases text with
  | nil => exact Or.inl (.nil p)
  | cons c rest =>
      cases holds : p c with
      | false => exact Or.inl (stops_cons_iff.mpr holds)
      | true => exact Or.inr ⟨c, rest, rfl, holds⟩

theorem Stops.takeWhile {p : Char → Bool} {text : Text} (stops : Stops p text)
    : text.takeWhile p = [] := by
  cases text with
  | nil => rfl
  | cons c rest => exact List.takeWhile_cons_of_neg (by simpa using stops c rfl)

theorem Stops.takeWhile_append {p : Char → Bool} {run after : Text} (stops : Stops p after)
    (inside : ∀ c ∈ run, p c)
    : (run ++ after).takeWhile p = run := by
  rw [List.takeWhile_append_of_pos inside, stops.takeWhile, List.append_nil]

theorem Stops.dropWhile_append {p : Char → Bool} {run after : Text} (stops : Stops p after)
    (inside : ∀ c ∈ run, p c)
    : (run ++ after).dropWhile p = after := by
  have whole := List.takeWhile_append_dropWhile (p := p) (l := run ++ after)
  rw [stops.takeWhile_append inside] at whole
  exact List.append_cancel_left whole

end Text

end KSharp
