import KSharp.Lexeme

/-! The kinds of lexeme that each reader finds. Only the reader of symbols finds parameters,
and no reader finds a parameter value.
-/

namespace KSharp.Lexeme

/-- A lexeme that is found has one of the kinds. -/
def OfKinds (kinds : List Kind) : Lexeme → Prop
  | .found kind _ _ => kind ∈ kinds
  | .rejected _ => True

theorem classifyWord_ofKinds (word : Text)
    : (classifyWord word).OfKinds [.operator, .boolean, .identifier] := by
  simp only [classifyWord]
  repeat' split
  all_goals simp [OfKinds, symbol]

theorem integer_ofKinds (digits : Text) : (integer digits).OfKinds [.integer, .double] := by
  simp only [integer]
  split <;> simp [OfKinds]

theorem withExponent_ofKinds (mantissa : Text) (marker : Char) (after : Text)
    : (withExponent mantissa marker after).OfKinds [.integer, .double] := by
  simp only [withExponent]
  repeat' split
  all_goals simp [OfKinds, double]

/-- A number is an integer or a double, by the character behind its digits. -/
theorem readNumber_ofKinds (c : Char) (rest : Text)
    : (readNumber c rest).OfKinds [.integer, .double] := by
  simp only [readNumber, readFraction]
  repeat' split
  all_goals
    first
    | exact integer_ofKinds _
    | exact withExponent_ofKinds _ _ _
    | simp [OfKinds, double]

theorem readQuoted_ofKinds (mode : Mode) (rest : Text)
    : (readQuoted mode rest).OfKinds [.string] := by
  simp only [readQuoted]
  split <;> simp [OfKinds]

theorem readVerbatim_ofKinds (rest : Text) : (readVerbatim rest).OfKinds [.string] := by
  simp only [readVerbatim]
  split <;> simp [OfKinds]

theorem punctuation?_kind {c kind} (h : Kind.punctuation? c = some kind)
    : kind
      ∈ [.leftBracket, .rightBracket, .leftIndexer, .rightIndexer, .blockStart, .blockEnd,
          .dot, .comma] := by
  unfold Kind.punctuation? at h
  split at h <;> cases h <;> simp

/-- Nothing that is found is a parameter value, and a parameter is found only where its name
stands at the front, with its own source text.
-/
def NamesParameter (text : Text) : Lexeme → Prop
  | .found kind raw _ =>
      kind ≠ .parameterValue
      ∧ (kind = .parameter
        → ∃ name, Parameter.name? text = some name ∧ raw = Parameter.source name)
  | .rejected _ => True

theorem OfKinds.namesParameter {kinds lexeme} (of : OfKinds kinds lexeme) (text : Text)
    (ordinary : ∀ kind ∈ kinds, kind ≠ .parameter ∧ kind ≠ .parameterValue)
    : lexeme.NamesParameter text := by
  cases lexeme with
  | rejected cause => trivial
  | found kind raw value =>
      obtain ⟨parameter, parameterValue⟩ := ordinary kind of
      exact ⟨parameterValue, fun same => absurd same parameter⟩

/-- A symbol that is no operator is the parameter whose name stands at the front. -/
theorem readSymbol_namesParameter (c : Char) (rest : Text)
    : (readSymbol c rest).NamesParameter (c :: rest) := by
  simp only [readSymbol]
  split
  · next name named => exact ⟨by simp, fun _ => ⟨name, named, rfl⟩⟩
  · split <;> simp [NamesParameter, symbol]

/-- Whatever is found names a parameter or is of another kind, by the cases of the first
character.
-/
theorem read_namesParameter (mode : Mode) (c : Char) (rest : Text)
    : (read mode c rest).NamesParameter (c :: rest) := by
  simp only [read]
  split
  · exact (classifyWord_ofKinds _).namesParameter _ (by decide)
  split
  · exact (readNumber_ofKinds c rest).namesParameter _ (by decide)
  split
  · exact (readVerbatim_ofKinds rest.tail).namesParameter _ (by decide)
  split
  · exact (readQuoted_ofKinds mode rest).namesParameter _ (by decide)
  split
  · exact readSymbol_namesParameter c rest
  split
  · next kind alone =>
    have of : (symbol kind [c]).OfKinds _ := punctuation?_kind alone
    exact of.namesParameter _ (by decide)
  · trivial

end KSharp.Lexeme
