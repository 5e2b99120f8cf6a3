import KSharp.Lexeme

/-! Every lexeme that is found has source text, so reading one moves on. -/

namespace KSharp

namespace Lexeme

/-- A lexeme that is found has source text. -/
def HasText : Lexeme → Prop
  | .found _ raw _ => raw ≠ []
  | .rejected _ => True

theorem integer_hasText {digits} (h : digits ≠ []) : (integer digits).HasText := by
  unfold integer
  split <;> simp [HasText, h]

theorem withExponent_hasText (mantissa : Text) (marker : Char) (after : Text)
    : (withExponent mantissa marker after).HasText := by
  unfold withExponent
  split
  split <;> simp [HasText, double]

theorem readNumber_hasText (c : Char) (rest : Text) : (readNumber c rest).HasText := by
  unfold readNumber readFraction
  repeat' split
  all_goals
    first
    | exact integer_hasText (List.cons_ne_nil _ _)
    | exact withExponent_hasText _ _ _
    | simp [HasText, double]

theorem readWord_hasText (c : Char) (rest : Text) : (readWord c rest).HasText := by
  unfold readWord classifyWord
  repeat' split
  all_goals simp [HasText, symbol]

theorem readQuoted_hasText (mode : Mode) (rest : Text) : (readQuoted mode rest).HasText := by
  unfold readQuoted
  split <;> simp [HasText]

theorem readVerbatim_hasText (rest : Text) : (readVerbatim rest).HasText := by
  unfold readVerbatim
  split <;> simp [HasText]

/-- Growth keeps what is there, by induction on the text ahead. -/
theorem grow_ne_nil {current : Text} (h : current ≠ []) (text : Text)
    : Operator.grow current text ≠ [] := by
  induction text generalizing current with
  | nil => exact h
  | cons c rest ih =>
    unfold Operator.grow
    split
    · exact ih (by simp)
    · exact h

theorem readSymbol_hasText (c : Char) (rest : Text) : (readSymbol c rest).HasText := by
  unfold readSymbol
  split
  · simp [HasText, Parameter.source]
  · exact grow_ne_nil (List.cons_ne_nil _ _) rest

/-- Whatever is found in front of a text has source text, by the cases of its first
character.
-/
theorem read_hasText (mode : Mode) (c : Char) (rest : Text) : (read mode c rest).HasText := by
  unfold read
  repeat' split
  · exact readWord_hasText c rest
  · exact readNumber_hasText c rest
  · exact readVerbatim_hasText rest.tail
  · exact readQuoted_hasText mode rest
  · exact readSymbol_hasText c rest
  · simp [HasText, symbol]
  · trivial

end Lexeme

end KSharp
