import KSharp.Escape
import KSharp.Proofs.TextReplacement

/-! Escaping as an encoding from left to right. The replacements that escape a text, and those
that undo it, are shown unit by unit: a backslash, a literal of the table, or a character that
stands for itself.
-/

namespace KSharp.Escape

-----------------------------------------------------------------------------------------
-- The encoding
-----------------------------------------------------------------------------------------

/-- Whether the character is written as a backslash, being one or standing for one. -/
def isBackslash (c : Char) : Bool := c = '\\' || c = placeholder

/-- What a character becomes by itself, where a backslash is written as `mark`. -/
def encodeChar (mark : Text) (c : Char) : Text :=
  if isBackslash c then mark
  else
    match table.find? (fun s => s.literal = [c]) with
    | some s => s.escaped
    | none => [c]

/-- The text with each literal of the table escaped and each backslash written as `mark`, in one
pass from the left.
-/
def encode (mark : Text) : Text → Text
  | [] => []
  | '%' :: '}' :: rest => '\\' :: '%' :: '}' :: encode mark rest
  | c :: rest => encodeChar mark c ++ encode mark rest

/-- A character that stands for itself in front of a text: no backslash, and no literal of the
table starts there.
-/
structure Plain (c : Char) (rest : Text) : Prop where
  ordinary : isBackslash c = false
  starts : ∀ s ∈ table, ¬s.literal <+: c :: rest

/-- No literal starts at a plain character in front of another text either, unless that text brings
up a brace behind a percent sign. By the literals of the table, one of which is not a single
character.
-/
theorem Plain.absent {c : Char} {rest later : Text} (plain : Plain c rest)
    (brace : c = '%' → later.head? = some '}' → rest.head? = some '}') {s : Sequence}
    (member : s ∈ table)
    : ¬s.literal <+: c :: later := by
  intro starts
  have shapes : ∀ s ∈ table, s.literal = ['%', '}'] ∨ s.literal.length = 1 := by decide
  apply plain.starts s member
  obtain ⟨after, equal⟩ := starts
  rcases shapes s member with markup | single
  · rw [markup] at equal ⊢
    obtain ⟨rfl, rfl⟩ := List.cons.inj equal
    obtain ⟨more, rfl⟩ := List.head?_eq_some_iff.mp (brace rfl rfl)
    exact List.prefix_append ['%', '}'] more
  · obtain ⟨d, literal⟩ := List.length_eq_one_iff.mp single
    rw [literal] at equal ⊢
    obtain ⟨rfl, -⟩ := List.cons.inj equal
    exact List.prefix_append [d] rest

/-- A text is built to the left by the units of the encoding. -/
@[elab_as_elim]
theorem encode_induction {motive : Text → Prop} (text : Text)
    (nil : motive [])
    (backslash : ∀ c rest, isBackslash c → motive rest → motive (c :: rest))
    (known : ∀ s ∈ table, ∀ rest, motive rest → motive (s.literal ++ rest))
    (plain : ∀ c rest, Plain c rest → motive rest → motive (c :: rest))
    : motive text := by
  cases text with
  | nil => exact nil
  | cons c rest =>
      by_cases stands : isBackslash c
      · exact backslash c rest stands (encode_induction rest nil backslash known plain)
      by_cases literal : ∃ s ∈ table, s.literal <+: c :: rest
      · obtain ⟨s, member, after, equal⟩ := literal
        rw [← equal]
        exact known s member after (encode_induction after nil backslash known plain)
      · refine plain c rest ⟨by simpa using stands, ?_⟩
          (encode_induction rest nil backslash known plain)
        intro s member front
        exact literal ⟨s, member, front⟩
termination_by text.length
decreasing_by
  · simp
  · have positive : ∀ s ∈ table, 0 < s.literal.length := by decide
    have length := congrArg List.length equal
    have := positive s member
    simp only [List.length_append, List.length_cons] at length ⊢
    omega
  · simp

theorem encode_backslash {c : Char} (stands : isBackslash c) (mark rest : Text)
    : encode mark (c :: rest) = mark ++ encode mark rest := by
  rw [encode]
  · rw [encodeChar, if_pos stands]
  · rintro more rfl
    exact absurd stands (by decide)

/-- A literal of the table is encoded as its escape sequence, by the entries of the table. -/
theorem encode_known {s : Sequence} (member : s ∈ table) (mark rest : Text)
    : encode mark (s.literal ++ rest) = s.escaped ++ encode mark rest := by
  simp only [table, List.mem_cons, List.not_mem_nil, or_false] at member
  rcases member with rfl | rfl | rfl | rfl | rfl | rfl | rfl | rfl | rfl | rfl | rfl <;> rfl

theorem encode_plain {c : Char} {rest : Text} (plain : Plain c rest) (mark : Text)
    : encode mark (c :: rest) = c :: encode mark rest := by
  rw [encode]
  · have none : table.find? (fun s => s.literal = [c]) = none := by
      refine List.find?_eq_none.mpr ?_
      intro s member same
      refine plain.starts s member ?_
      rw [of_decide_eq_true same]
      exact List.prefix_append [c] rest
    rw [encodeChar, plain.ordinary, none]
    rfl
  · rintro more rfl rfl
    exact plain.starts ⟨['\\', '%', '}'], ['%', '}']⟩ (by decide) (List.prefix_append _ more)

/-- Replacing the mark changes the encoding to that with another mark, by the units of the text,
if the mark starts neither in an escape sequence nor at a character that is kept.
-/
theorem replaceAll_encode {mark : Text} (nonempty : mark ≠ [])
    (known : ∀ s ∈ table, Text.misses mark s.escaped)
    (kept : ∀ c, isBackslash c = false → mark.head? ≠ some c) (mark' text : Text)
    : Text.replaceAll mark mark' (encode mark text) = encode mark' text := by
  induction text using encode_induction with
  | nil => rfl
  | backslash c rest stands ih =>
      rw [encode_backslash stands, encode_backslash stands, Text.replaceAll_append nonempty, ih]
  | known s member rest ih =>
      rw [encode_known member, encode_known member,
        Text.replaceAll_of_misses (known s member), ih]
  | plain c rest plain ih =>
      have missed : Text.misses mark [c] :=
        (Text.misses_singleton nonempty).mpr (kept c plain.ordinary)
      have passed := Text.replaceAll_of_misses missed mark' (encode mark rest)
      rw [encode_plain plain, encode_plain plain, ← ih]
      exact passed

-----------------------------------------------------------------------------------------
-- Escaping is the encoding
-----------------------------------------------------------------------------------------

/-- The text with its backslashes hidden behind the placeholder. -/
def hide (text : Text) : Text := text.map (fun c => if c = '\\' then placeholder else c)

/-- The replacements that encode the literals of the table, in its order. -/
def encodings : List (Text × Text) := table.map (fun s => (s.literal, s.escaped))

theorem encodings_independent : Text.Independent encodings := by decide

theorem hide_backslash {c : Char} (stands : isBackslash c) (rest : Text)
    : hide (c :: rest) = placeholder :: hide rest := by
  simp only [isBackslash, Bool.or_eq_true, decide_eq_true_eq] at stands
  rcases stands with rfl | rfl <;> rfl

theorem hide_plain {c : Char} (ordinary : isBackslash c = false) (rest : Text)
    : hide (c :: rest) = c :: hide rest := by
  simp only [isBackslash, Bool.or_eq_false_iff, decide_eq_false_iff_not] at ordinary
  simp [hide, ordinary.1]

theorem hide_known {s : Sequence} (member : s ∈ table) (rest : Text)
    : hide (s.literal ++ rest) = s.literal ++ hide rest := by
  have same : ∀ s ∈ table, hide s.literal = s.literal := by decide
  rw [hide, List.map_append]
  exact congrArg (· ++ hide rest) (same s member)

/-- A plain character stays one for each replacement: a percent sign is no literal by itself, and
no brace comes up behind it.
-/
theorem replaceEach_plain {c : Char} {rest : Text} (plain : Plain c rest)
    : Text.replaceEach encodings (c :: hide rest)
      = c :: Text.replaceEach encodings (hide rest) := by
  by_cases percent : c = '%'
  · subst percent
    have starts : ∀ pair ∈ encodings,
        Text.misses pair.1 ['%'] ∨ ['%'] ++ ['}'] <+: pair.1 ∧ Text.misses pair.1 [] := by
      decide
    have behind : (hide rest).head? ≠ some '}' := by
      intro brace
      cases rest with
      | nil => cases brace
      | cons d more =>
          have first : (if d = '\\' then placeholder else d) = '}' := Option.some.inj brace
          split at first
          · exact absurd first (by decide)
          · subst first
            exact plain.starts ⟨['\\', '%', '}'], ['%', '}']⟩ (by decide)
              (List.prefix_append ['%', '}'] more)
    exact Text.replaceEach_unit starts (by decide) behind
  · have nonempty : ∀ s ∈ table, s.literal ≠ [] := by decide
    have missed : ∀ pair ∈ encodings, Text.misses pair.1 [c] := by
      intro pair member
      obtain ⟨s, held, rfl⟩ := List.mem_map.mp member
      apply (Text.misses_singleton (nonempty s held)).mpr
      intro first
      obtain ⟨more, literal⟩ := List.head?_eq_some_iff.mp first
      have absent : ¬s.literal <+: c :: more :=
        plain.absent (fun same => absurd same percent) held
      exact absent (literal ▸ List.prefix_refl s.literal)
    exact Text.replaceEach_of_misses missed (hide rest)

/-- The replacements of literals encode the text whose backslashes are hidden, by its units. -/
theorem replaceEach_encodings (text : Text)
    : Text.replaceEach encodings (hide text) = encode [placeholder] text := by
  induction text using encode_induction with
  | nil => exact Text.replaceEach_nil encodings
  | backslash c rest stands ih =>
      have missed : ∀ pair ∈ encodings, Text.misses pair.1 [placeholder] := by decide
      rw [hide_backslash stands, encode_backslash stands, ← ih]
      exact Text.replaceEach_of_misses missed (hide rest)
  | known s member rest ih =>
      have pair : (s.literal, s.escaped) ∈ encodings := List.mem_map_of_mem member
      have nonempty : ∀ s ∈ table, s.literal ≠ [] := by decide
      rw [hide_known member, encode_known member, ← ih]
      exact Text.replaceEach_append encodings_independent pair (nonempty s member) (hide rest)
  | plain c rest plain ih =>
      rw [hide_plain plain.ordinary, encode_plain plain, ← ih]
      exact replaceEach_plain plain

/-- A placeholder starts in no escape sequence and at no character that is kept. -/
theorem replaceAll_placeholder (mark text : Text)
    : Text.replaceAll [placeholder] mark (encode [placeholder] text) = encode mark text := by
  refine replaceAll_encode (by simp) (by decide) ?_ mark text
  intro c ordinary same
  cases same
  exact absurd ordinary (by decide)

/-- The successive replacements of escaping make up the encoding in which each backslash is
doubled.
-/
theorem escape_eq_encode (text : Text) : escape text = encode ['\\', '\\'] text := by
  have hidden : Text.replaceAll ['\\'] [placeholder] text = hide text :=
    Text.replaceAll_singleton '\\' placeholder text
  have encoded : table.foldl (fun t s => Text.replaceAll s.literal s.escaped t) (hide text)
      = Text.replaceEach encodings (hide text) := by
    rw [Text.replaceEach, encodings, List.foldl_map]
  rw [escape, hidden, encoded, replaceEach_encodings, replaceAll_placeholder]

end KSharp.Escape
