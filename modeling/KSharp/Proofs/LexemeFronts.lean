import KSharp.Lexeme
import KSharp.Proofs.LiteralBodies

/-! What is read in front of a text is a front of it, character for character. -/

namespace KSharp

-----------------------------------------------------------------------------------------
-- The pieces that lexemes are cut along
-----------------------------------------------------------------------------------------

theorem Parameter.source_front {text name} (h : name? text = some name)
    : source name <+: text := by
  unfold name? at h
  split at h
  · next rest =>
    dsimp only at h
    split at h
    · next closes =>
      obtain ⟨more, equal⟩ := List.head?_eq_some_iff.mp closes.2
      have whole := List.takeWhile_append_dropWhile (p := isLetter) (l := rest)
      cases h
      rw [equal] at whole
      refine ⟨more, ?_⟩
      simpa [source] using whole
    · cases h
  · cases h

theorem Operator.grow_front (current text : Text) : grow current text <+: current ++ text := by
  induction text generalizing current with
  | nil => simp [grow]
  | cons c rest ih =>
      simp only [grow]
      split
      · simpa using ih (current ++ [c])
      · exact List.prefix_append current (c :: rest)

namespace Lexeme

/-- The body of a quoted literal stands before its closing quote in the text. -/
theorem quotedBody?_front {text body} (h : quotedBody? text = some body)
    : body ++ ['"'] <+: text := by
  obtain ⟨_, after, rfl⟩ := quotedBody?_sound h
  exact ⟨after, by simp⟩

/-- The body of a verbatim literal stands before its closing quote in the text. -/
theorem verbatimBody?_front {text body} (h : verbatimBody? text = some body)
    : body ++ ['"'] <+: text := by
  obtain ⟨_, after, rfl, _⟩ := verbatimBody?_sound h
  exact ⟨after, by simp⟩

-----------------------------------------------------------------------------------------
-- A lexeme is a front of its text
-----------------------------------------------------------------------------------------

/-- A lexeme that is found has the front of the text as its source text. -/
def FrontOf (text : Text) : Lexeme → Prop
  | .found _ raw _ => raw <+: text
  | .rejected _ => True

theorem takeWhile_front (p : Char → Bool) (before rest : Text)
    : before ++ rest.takeWhile p <+: before ++ rest :=
  (List.prefix_append_right_inj before).mpr (List.takeWhile_prefix p)

theorem integer_frontOf {digits text} (front : digits <+: text)
    : (integer digits).FrontOf text := by
  simp only [integer]
  split
  · exact front
  · trivial

/-- A number with an exponent takes the marker, a sign and digits, by the cases of the sign. -/
theorem withExponent_frontOf (mantissa : Text) (marker : Char) (after : Text)
    : (withExponent mantissa marker after).FrontOf (mantissa ++ marker :: after) := by
  have signed (sign rest : Text)
      : (if rest.takeWhile Char.isDigit = [] then
            .rejected (.malformedNumber (mantissa ++ marker :: sign))
          else double (mantissa ++ marker :: sign ++ rest.takeWhile Char.isDigit)).FrontOf
          (mantissa ++ marker :: (sign ++ rest)) := by
    split
    · trivial
    · simpa [double, FrontOf]
        using takeWhile_front Char.isDigit (mantissa ++ marker :: sign) rest
  simp only [withExponent]
  split
  · exact signed ['+'] _
  · exact signed ['-'] _
  · exact signed [] _

/-- A number with a point takes no more than the digits and the exponent behind the point. A
member behind it leaves the point itself to the next lexeme.
-/
theorem readFraction_frontOf (digits after : Text)
    : (readFraction digits after).FrontOf (digits ++ '.' :: after) := by
  have whole := List.takeWhile_append_dropWhile (p := Char.isDigit) (l := after)
  have pointed : digits ++ '.' :: after.takeWhile Char.isDigit <+: digits ++ '.' :: after := by
    simpa using takeWhile_front Char.isDigit (digits ++ ['.']) after
  cases after with
  | nil => exact List.prefix_refl _
  | cons c more =>
      simp only [readFraction]
      split
      · exact integer_frontOf (List.prefix_append _ _)
      split
      · exact pointed
      · next m rest equal =>
        split
        · rw [equal] at whole
          have exponent :=
            withExponent_frontOf (digits ++ '.' :: (c :: more).takeWhile Char.isDigit) m rest
          rwa [List.append_assoc, List.cons_append, whole] at exponent
        · exact pointed

/-- A number takes its digits and then goes on by the character behind them. -/
theorem readNumber_frontOf (c : Char) (rest : Text)
    : (readNumber c rest).FrontOf (c :: rest) := by
  have whole := List.takeWhile_append_dropWhile (p := Char.isDigit) (l := rest)
  have digits : c :: rest.takeWhile Char.isDigit <+: c :: rest :=
    takeWhile_front Char.isDigit [c] rest
  simp only [readNumber]
  split
  · exact integer_frontOf digits
  · next after equal =>
    rw [equal] at whole
    have fraction := readFraction_frontOf (c :: rest.takeWhile Char.isDigit) after
    rwa [List.cons_append, whole] at fraction
  · next d after _ equal =>
    rw [equal] at whole
    split
    · have exponent := withExponent_frontOf (c :: rest.takeWhile Char.isDigit) d after
      rwa [List.cons_append, whole] at exponent
    · split
      · trivial
      · exact integer_frontOf digits

theorem readWord_frontOf (c : Char) (rest : Text) : (readWord c rest).FrontOf (c :: rest) := by
  have word : c :: rest.takeWhile isWordChar <+: c :: rest :=
    takeWhile_front isWordChar [c] rest
  simp only [readWord, classifyWord]
  repeat' split
  all_goals exact word

theorem readQuoted_frontOf (mode : Mode) (rest : Text)
    : (readQuoted mode rest).FrontOf ('"' :: rest) := by
  simp only [readQuoted]
  split
  · next body read => exact List.cons_prefix_cons.mpr ⟨rfl, quotedBody?_front read⟩
  · trivial
  · exact List.prefix_refl _

theorem readVerbatim_frontOf (rest : Text)
    : (readVerbatim rest).FrontOf ('@' :: '"' :: rest) := by
  simp only [readVerbatim]
  split
  · next body read =>
    have quoted : '"' :: body ++ ['"'] <+: '"' :: rest :=
      List.cons_prefix_cons.mpr ⟨rfl, verbatimBody?_front read⟩
    exact List.cons_prefix_cons.mpr ⟨rfl, quoted⟩
  · trivial

theorem readSymbol_frontOf (c : Char) (rest : Text)
    : (readSymbol c rest).FrontOf (c :: rest) := by
  simp only [readSymbol]
  split
  · next name named => exact Parameter.source_front named
  · exact Operator.grow_front [c] rest

/-- Whatever is found stands at the front, by the cases of the first character. -/
theorem read_frontOf (mode : Mode) (c : Char) (rest : Text)
    : (read mode c rest).FrontOf (c :: rest) := by
  simp only [read]
  split
  · exact readWord_frontOf c rest
  split
  · exact readNumber_frontOf c rest
  split
  · next verbatim =>
    obtain ⟨rfl, quote⟩ := verbatim
    obtain ⟨more, rfl⟩ := List.head?_eq_some_iff.mp quote
    exact readVerbatim_frontOf more
  split
  · next quoted =>
    subst quoted
    exact readQuoted_frontOf mode rest
  split
  · exact readSymbol_frontOf c rest
  split
  · exact List.prefix_append [c] rest
  · trivial

end Lexeme

end KSharp
