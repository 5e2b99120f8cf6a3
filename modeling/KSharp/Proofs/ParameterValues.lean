import KSharp.Scan

/-! Parameter values in front of a text: which pipes delimit a value, which belong to it, and that
a step reads exactly such a value.
-/

namespace KSharp

-----------------------------------------------------------------------------------------
-- The source text of a value
-----------------------------------------------------------------------------------------

namespace Parameter

theorem splitValue_append (text : Text) : (splitValue text).1 ++ (splitValue text).2 = text := by
  fun_induction splitValue text <;> simp_all

theorem splitValue_cons {c : Char} {rest : Text} (pipe : c ≠ '|')
    (escape : c = '\\' → rest.head? ≠ some '|')
    : splitValue (c :: rest) = (c :: (splitValue rest).1, (splitValue rest).2) := by
  rw [splitValue, if_neg pipe]
  rintro more rfl rfl
  exact escape rfl rfl

/-- What follows a value starts with a pipe, by induction along the cut. -/
theorem splitValue_after (text : Text)
    : (splitValue text).2 = [] ∨ ∃ rest, (splitValue text).2 = '|' :: rest := by
  fun_induction splitValue text with
  | case1 => exact Or.inl rfl
  | case2 rest raw after cut ih => simpa [cut] using ih
  | case3 rest => exact Or.inr ⟨rest, rfl⟩
  | case4 c rest _ _ raw after cut ih => simpa [cut] using ih

/-- The cut passes over a value again where the text ends behind it, and where a pipe stands
there if one did before. By induction along the first cut, since a pipe in the value is behind a
backslash and the pipe after it is not.
-/
theorem splitValue_again (text : Text)
    : splitValue (splitValue text).1 = ((splitValue text).1, [])
      ∧ ((splitValue text).2 ≠ []
        → ∀ later,
            splitValue ((splitValue text).1 ++ '|' :: later)
              = ((splitValue text).1, '|' :: later)) := by
  fun_induction splitValue text with
  | case1 => simp [splitValue]
  | case2 rest raw after cut ih =>
      simp only [cut] at ih
      refine ⟨by simp [splitValue, ih.1], ?_⟩
      intro more later
      simp [splitValue, ih.2 more later]
  | case3 rest => simp [splitValue]
  | case4 c rest escape pipe raw after cut ih =>
      simp only [cut] at ih
      have whole := splitValue_append rest
      have behind := splitValue_after rest
      simp only [cut] at whole behind
      have kept : c = '\\' → rest.head? ≠ some '|' := by
        rintro rfl first
        obtain ⟨more, rfl⟩ := List.head?_eq_some_iff.mp first
        exact escape more rfl rfl
      refine ⟨?_, ?_⟩
      · have same : c = '\\' → raw.head? ≠ some '|' := by
          intro backslash first
          obtain ⟨more, rfl⟩ := List.head?_eq_some_iff.mp first
          exact kept backslash (by rw [← whole]; rfl)
        rw [splitValue_cons pipe same, ih.1]
      · intro more later
        have same : c = '\\' → (raw ++ '|' :: later).head? ≠ some '|' := by
          intro backslash first
          refine kept backslash ?_
          rw [← whole]
          cases raw with
          | nil =>
              obtain ⟨rest, rfl⟩ := behind.resolve_left more
              rfl
          | cons d raw => exact first
        rw [List.cons_append, splitValue_cons pipe same, ih.2 more later]

/-- A value does not start with a pipe, by the first characters of the text. -/
theorem splitValue_head? (text : Text) : (splitValue text).1.head? ≠ some '|' := by
  fun_cases splitValue text <;> simp_all

end Parameter

namespace Scan

-----------------------------------------------------------------------------------------
-- Delimiters
-----------------------------------------------------------------------------------------

/-- What delimits in front of a text is a pipe that starts no parameter, if one stands there. -/
def Delimits (pipe after : Text) : Prop :=
  pipe = if startsWithDelimiter (pipe ++ after) then ['|'] else []

theorem delimits_nil_iff {after : Text}
    : Delimits [] after ↔ (after.head? = some '|' → Parameter.name? after ≠ none) := by
  simp [Delimits, startsWithDelimiter, Parameter.starts]

theorem delimits_pipe_iff {after : Text}
    : Delimits ['|'] after ↔ Parameter.name? ('|' :: after) = none := by
  simp [Delimits, startsWithDelimiter, Parameter.starts]

theorem Delimits.length {pipe after : Text} (delimits : Delimits pipe after)
    : (if startsWithDelimiter (pipe ++ after) then 1 else 0) = pipe.length := by
  unfold Delimits at delimits
  split
  · next starts =>
    rw [if_pos starts] at delimits
    rw [delimits]
    rfl
  · next starts =>
    rw [if_neg starts] at delimits
    rw [delimits]
    rfl

/-- Each text has its delimiter in front, by its first character. -/
theorem delimits_exists (text : Text)
    : ∃ pipe after, text = pipe ++ after ∧ Delimits pipe after := by
  by_cases starts : startsWithDelimiter text
  · have head : text.head? = some '|' := by
      simp only [startsWithDelimiter, Bool.and_eq_true, decide_eq_true_eq] at starts
      exact starts.1
    obtain ⟨rest, rfl⟩ := List.head?_eq_some_iff.mp head
    exact ⟨['|'], rest, rfl, by simp [Delimits, starts]⟩
  · exact ⟨[], text, rfl, by simp [Delimits, starts]⟩

-----------------------------------------------------------------------------------------
-- Steps to values
-----------------------------------------------------------------------------------------

/-- A value as it stands in front of a text, between its separator and the pipe that closes it. A
value that nothing follows is found only if it has source text itself.
-/
structure ValueReads (separator raw closing after : Text) : Prop where
  separates : Delimits separator (raw ++ (closing ++ after))
  nonempty : raw ++ (closing ++ after) ≠ []
  split : Parameter.splitValue (raw ++ (closing ++ after)) = (raw, closing ++ after)
  closes : Delimits closing after

/-- The token of a value between its delimiters at a position. An empty value that no pipe closes
is placed on its separator, or on the character before it.
-/
def valueToken (pos : Nat) (separator raw closing : Text) : Token :=
  ⟨.parameterValue, raw, .text (Escape.unescapePipes raw),
    if raw = [] ∧ closing = [] then pos - (1 - separator.length) else pos + separator.length⟩

theorem ValueReads.step {separator raw closing after : Text}
    (reads : ValueReads separator raw closing after) (pos : Nat)
    : valueAhead pos (separator ++ (raw ++ closing) ++ after)
      = .token (valueToken pos separator raw closing)
          (pos + (separator ++ (raw ++ closing)).length) := by
  rw [List.append_assoc, List.append_assoc]
  obtain ⟨c, rest, ahead⟩ := List.exists_cons_of_ne_nil reads.nonempty
  have split := reads.split
  have empty : pos + separator.length + raw.length + closing.length = pos + separator.length
      ↔ raw = [] ∧ closing = [] := by
    rw [← List.length_eq_zero_iff, ← List.length_eq_zero_iff]
    omega
  simp only [valueAhead, reads.separates.length, List.drop_left]
  rw [ahead] at split ⊢
  simp only [split, reads.closes.length, empty]
  simp only [valueToken, List.length_append, Nat.add_assoc]

/-- Behind each separator stands a value, unless nothing does, by the cut at the next delimiter. -/
theorem valueReads_exists {separator rest : Text} (separates : Delimits separator rest)
    (nonempty : rest ≠ [])
    : ∃ raw closing after,
        rest = raw ++ (closing ++ after) ∧ ValueReads separator raw closing after := by
  obtain ⟨closing, after, equal, closes⟩ := delimits_exists (Parameter.splitValue rest).2
  have whole := Parameter.splitValue_append rest
  have split : Parameter.splitValue rest = ((Parameter.splitValue rest).1, closing ++ after) := by
    rw [← equal]
  generalize (Parameter.splitValue rest).1 = raw at whole split
  rw [equal] at whole
  subst whole
  exact ⟨raw, closing, after, rfl, separates, nonempty, split, closes⟩

theorem valueAhead_nil {separator : Text} (separates : Delimits separator []) (pos : Nat)
    : valueAhead pos (separator ++ []) = .endOfInput := by
  simp only [valueAhead, separates.length, List.drop_left]

/-- Every step to a value reads one in this way, by the cut at each delimiter. -/
theorem valueAhead_reads {pos text token next} (h : valueAhead pos text = .token token next)
    : ∃ separator raw closing,
        ValueReads separator raw closing (text.drop (next - pos))
        ∧ text = separator ++ (raw ++ closing) ++ text.drop (next - pos)
        ∧ token = valueToken pos separator raw closing
        ∧ next = pos + (separator ++ (raw ++ closing)).length := by
  obtain ⟨separator, rest, rfl, separates⟩ := delimits_exists text
  by_cases nothing : rest = []
  · subst nothing
    rw [valueAhead_nil separates] at h
    cases h
  · obtain ⟨raw, closing, after, rfl, reads⟩ := valueReads_exists separates nothing
    have parts : separator ++ (raw ++ (closing ++ after))
        = separator ++ (raw ++ closing) ++ after := by
      simp only [List.append_assoc]
    rw [parts, reads.step pos] at h
    cases h
    rw [parts, Nat.add_sub_cancel_left, List.drop_left]
    exact ⟨separator, raw, closing, reads, rfl, rfl, rfl⟩

end Scan

end KSharp
