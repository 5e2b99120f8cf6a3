import KSharp.Proofs.LexemeGrammar
import KSharp.Proofs.OpenLiterals

/-! What the cause of an error says of the text in front of which nothing is found: it is what that
text starts with and why no lexeme starts there.
-/

namespace KSharp

-----------------------------------------------------------------------------------------
-- Causes
-----------------------------------------------------------------------------------------

/-- A character at which no lexeme starts, unless it is an at sign before a quote. -/
structure StartsNothing (c : Char) : Prop where
  letter : isLetter c = false
  underscore : c ≠ '_'
  digit : c.isDigit = false
  quote : c ≠ '"'
  operator : Operator.isChar c = false
  punctuation : Kind.punctuation? c = none

/-- The text starts with a digit, so it is not empty. -/
def Text.StartsWithDigit (text : Text) : Prop := ∃ c rest, text = c :: rest ∧ c.isDigit

/-- The longest run of a class in front of a text. -/
structure Text.LongestRun (p : Char → Bool) (text run : Text) : Prop where
  inside : ∀ c ∈ run, p c
  ends : ∃ after, text = run ++ after ∧ Text.Stops p after

/-- What a cause says of the text in front of which it is reported. -/
def LexError.Cause.Describes (text : Text) : LexError.Cause → Prop
  | .unexpectedCharacter c =>
      text.head? = some c ∧ StartsNothing c ∧ ¬['@', '"'] <+: text
  | .malformedNumber source => source <+: text ∧ source.StartsWithDigit
  | .invalidIdentifier source =>
      text.LongestRun isWordChar source
      ∧ source.StartsWithDigit
      ∧ ∃ c ∈ source, c.isDigit = false
  | .unterminatedString =>
      (∃ rest, text = '"' :: rest ∧ Lexeme.QuotedOpen rest)
      ∨ ∃ rest, text = '@' :: '"' :: rest ∧ Lexeme.VerbatimOpen rest

theorem Text.StartsWithDigit.append {text : Text} (first : text.StartsWithDigit) (more : Text)
    : (text ++ more).StartsWithDigit := by
  obtain ⟨c, rest, rfl, digit⟩ := first
  exact ⟨c, rest ++ more, rfl, digit⟩

namespace Lexeme

/-- A lexeme that is rejected in front of a text has a cause that describes the text. -/
def Explained (text : Text) : Lexeme → Prop
  | .found _ _ _ => True
  | .rejected cause => cause.Describes text

-----------------------------------------------------------------------------------------
-- Numbers
-----------------------------------------------------------------------------------------

theorem integer_explained {digits text : Text} (front : digits <+: text)
    (first : digits.StartsWithDigit)
    : (integer digits).Explained text := by
  simp only [integer]
  split
  · trivial
  · exact ⟨front, first⟩

/-- An exponent without digits is rejected with its mantissa, marker and sign, by the cases of the
sign.
-/
theorem withExponent_explained {mantissa : Text} (first : mantissa.StartsWithDigit)
    (marker : Char) (after : Text)
    : (withExponent mantissa marker after).Explained (mantissa ++ marker :: after) := by
  have signed (sign rest : Text)
      : (if rest.takeWhile Char.isDigit = [] then
            .rejected (.malformedNumber (mantissa ++ marker :: sign))
          else double (mantissa ++ marker :: sign ++ rest.takeWhile Char.isDigit)).Explained
          (mantissa ++ marker :: (sign ++ rest)) := by
    split
    · refine ⟨?_, first.append _⟩
      rw [List.prefix_append_right_inj, List.cons_prefix_cons]
      exact ⟨rfl, List.prefix_append sign rest⟩
    · trivial
  simp only [withExponent]
  split
  · exact signed ['+'] _
  · exact signed ['-'] _
  · exact signed [] _

theorem readFraction_explained {digits : Text} (first : digits.StartsWithDigit) (after : Text)
    : (readFraction digits after).Explained (digits ++ '.' :: after) := by
  have whole := List.takeWhile_append_dropWhile (p := Char.isDigit) (l := after)
  cases after with
  | nil => trivial
  | cons c more =>
      simp only [readFraction]
      split
      · exact integer_explained (List.prefix_append _ _) first
      split
      · trivial
      · next m rest equal =>
        split
        · rw [equal] at whole
          have mantissa := first.append ('.' :: (c :: more).takeWhile Char.isDigit)
          have exponent := withExponent_explained mantissa m rest
          rwa [List.append_assoc, List.cons_append, whole] at exponent
        · trivial

/-- The character behind the digits of a number decides why it is rejected. A word may not start
with the digits, so it is rejected as a whole.
-/
theorem readNumber_explained {c : Char} (digit : c.isDigit) (rest : Text)
    : (readNumber c rest).Explained (c :: rest) := by
  have whole := List.takeWhile_append_dropWhile (p := Char.isDigit) (l := rest)
  have stops := Text.stops_dropWhile Char.isDigit rest
  have first : Text.StartsWithDigit (c :: rest.takeWhile Char.isDigit) := ⟨c, _, rfl, digit⟩
  have front : c :: rest.takeWhile Char.isDigit <+: c :: rest :=
    List.cons_prefix_cons.mpr ⟨rfl, List.takeWhile_prefix _⟩
  have digits : ∀ e ∈ c :: rest.takeWhile Char.isDigit, e.isDigit :=
    List.forall_mem_cons.mpr ⟨digit, List.all_eq_true.mp List.all_takeWhile⟩
  simp only [readNumber]
  split
  · exact integer_explained front first
  · next after equal =>
    rw [equal] at whole
    have fraction := readFraction_explained first after
    rwa [List.cons_append, whole] at fraction
  · next d after _ equal =>
    rw [equal] at whole stops
    split
    · have exponent := withExponent_explained first d after
      rwa [List.cons_append, whole] at exponent
    split
    · next word =>
      refine ⟨⟨?_, ?_⟩, first.append _, d, by simp [word], Text.stops_cons_iff.mp stops⟩
      · intro e member
        rcases List.mem_append.mp member with inside | inside
        · exact isWordChar_of_isDigit (digits e inside)
        · exact List.all_eq_true.mp List.all_takeWhile e inside
      · refine ⟨(d :: after).dropWhile isWordChar, ?_, Text.stops_dropWhile _ _⟩
        rw [List.append_assoc, List.takeWhile_append_dropWhile, List.cons_append, whole]
    · exact integer_explained front first

-----------------------------------------------------------------------------------------
-- Every lexeme
-----------------------------------------------------------------------------------------

theorem readWord_explained (c : Char) (rest : Text) : (readWord c rest).Explained (c :: rest) := by
  simp only [readWord, classifyWord]
  repeat' split
  all_goals trivial

theorem readQuoted_explained (mode : Mode) (rest : Text)
    : (readQuoted mode rest).Explained ('"' :: rest) := by
  simp only [readQuoted]
  split
  · trivial
  · next nothing => exact Or.inl ⟨rest, rfl, quotedOpen_of_none nothing⟩
  · trivial

theorem readVerbatim_explained (rest : Text)
    : (readVerbatim rest).Explained ('@' :: '"' :: rest) := by
  simp only [readVerbatim]
  split
  · trivial
  · next nothing => exact Or.inr ⟨rest, rfl, verbatimOpen_of_none nothing⟩

/-- Whatever is rejected in front of a text is described by its cause, by the cases of the first
character.
-/
theorem read_explained (mode : Mode) (c : Char) (rest : Text)
    : (read mode c rest).Explained (c :: rest) := by
  simp only [read]
  split
  · exact readWord_explained c rest
  split
  · next digit => exact readNumber_explained digit rest
  split
  · next verbatim =>
    obtain ⟨rfl, quote⟩ := verbatim
    obtain ⟨more, rfl⟩ := List.head?_eq_some_iff.mp quote
    exact readVerbatim_explained more
  split
  · next quoted =>
    subst quoted
    exact readQuoted_explained mode rest
  split
  · simp only [readSymbol]
    split <;> trivial
  split
  · trivial
  · next word digit verbatim quote operator _ punctuation =>
    simp only [isWordStart, Bool.or_eq_true, decide_eq_true_eq, not_or, Bool.not_eq_true] at word
    rw [Bool.not_eq_true] at digit operator
    refine ⟨rfl, ⟨word.1, word.2, digit, quote, operator, punctuation⟩, ?_⟩
    intro front
    obtain ⟨rfl, later⟩ := List.cons_prefix_cons.mp front
    obtain ⟨more, rfl⟩ := later
    exact verbatim ⟨rfl, rfl⟩

theorem describes_of_rejected {mode c rest cause} (rejected : read mode c rest = .rejected cause)
    : cause.Describes (c :: rest) := by
  have explained := read_explained mode c rest
  rwa [rejected] at explained

end Lexeme

end KSharp
