import KSharp.Proofs.EscapeEncoding

/-! Decoding an escaped text gives the text back, but for the placeholder, which comes out as a
backslash.
-/

namespace KSharp.Escape

/-- The text with every placeholder turned into a backslash. -/
def restore (text : Text) : Text := text.map (fun c => if c = placeholder then '\\' else c)

theorem restore_eq_self_iff {text : Text} : restore text = text ↔ placeholder ∉ text := by
  induction text with
  | nil => simp [restore]
  | cons c rest ih =>
      by_cases stands : c = placeholder
      · subst stands
        simp [restore, placeholder]
      · simpa [restore, stands, eq_comm] using ih

/-- Hidden backslashes come back, and placeholders of the text with them, by its characters. -/
theorem restore_hide (text : Text) : restore (hide text) = restore text := by
  refine List.map_map.trans (List.map_congr_left ?_)
  intro c _
  by_cases backslash : c = '\\'
  · subst backslash
    decide
  · simp [backslash]

/-- A text and the text restored from it hide the same backslashes, by its characters. -/
theorem hide_restore (text : Text) : hide (restore text) = hide text := by
  refine List.map_map.trans (List.map_congr_left ?_)
  intro c _
  by_cases stands : c = placeholder
  · subst stands
    decide
  · simp [stands]

-----------------------------------------------------------------------------------------
-- The replacements of decoding
-----------------------------------------------------------------------------------------

/-- The replacements that decode the escape sequences of the table, in its order. -/
def decodings : List (Text × Text) := table.map (fun s => (s.escaped, s.literal))

theorem decodings_independent : Text.Independent decodings := by decide

/-- No replacement of decoding starts at another character than a backslash. -/
theorem decodings_miss {c : Char} (other : c ≠ '\\')
    : ∀ pair ∈ decodings, Text.misses pair.1 [c] := by
  have heads : ∀ pair ∈ decodings, pair.1 ≠ [] ∧ pair.1.head? = some '\\' := by decide
  intro pair member
  obtain ⟨nonempty, head⟩ := heads pair member
  refine (Text.misses_singleton nonempty).mpr ?_
  intro first
  cases head.symm.trans first
  exact other rfl

/-- The text with each pair of backslashes hidden behind one placeholder. -/
def hidePairs (text : Text) : Text := Text.replaceAll ['\\', '\\'] [placeholder] text

/-- With a backslash in the text, decoding hides pairs of them, replaces the sequences and restores
the hidden backslashes.
-/
theorem unescape_eq (text : Text)
    : unescape text
      = if '\\' ∈ text then restore (Text.replaceEach decodings (hidePairs text)) else text := by
  have decoded (hidden : Text)
      : table.foldl (fun t s => Text.replaceAll s.escaped s.literal t) hidden
        = Text.replaceEach decodings hidden := by
    rw [Text.replaceEach, decodings, List.foldl_map]
  have restored (hidden : Text) : Text.replaceAll [placeholder] ['\\'] hidden = restore hidden :=
    Text.replaceAll_singleton placeholder '\\' hidden
  simp only [unescape, decoded, restored, hidePairs]

/-- A doubled backslash starts in no escape sequence and at no character that is kept, so the
pairs that decoding finds are those that the encoding wrote.
-/
theorem replaceAll_doubled (mark text : Text)
    : Text.replaceAll ['\\', '\\'] mark (encode ['\\', '\\'] text) = encode mark text := by
  refine replaceAll_encode (by simp) (by decide) ?_ mark text
  intro c ordinary same
  cases same
  exact absurd ordinary (by decide)

/-- The replacements of escape sequences undo the encoding of literals, by the units of the
text. Each sequence starts with a backslash, which is not kept as a plain character.
-/
theorem replaceEach_decodings (text : Text)
    : Text.replaceEach decodings (encode [placeholder] text) = hide text := by
  induction text using encode_induction with
  | nil => exact Text.replaceEach_nil decodings
  | backslash c rest stands ih =>
      have missed : ∀ pair ∈ decodings, Text.misses pair.1 [placeholder] := by decide
      rw [encode_backslash stands, hide_backslash stands, ← ih]
      exact Text.replaceEach_of_misses missed (encode [placeholder] rest)
  | known s member rest ih =>
      have pair : (s.escaped, s.literal) ∈ decodings := List.mem_map_of_mem member
      have nonempty : ∀ s ∈ table, s.escaped ≠ [] := by decide
      rw [hide_known member, encode_known member, ← ih]
      exact Text.replaceEach_append decodings_independent pair (nonempty s member)
        (encode [placeholder] rest)
  | plain c rest plain ih =>
      have other : c ≠ '\\' := by
        rintro rfl
        exact absurd plain.ordinary (by decide)
      rw [hide_plain plain.ordinary, encode_plain plain, ← ih]
      exact Text.replaceEach_of_misses (decodings_miss other) (encode [placeholder] rest)

/-- A text that is encoded without a backslash had nothing to escape, by its units. -/
theorem encode_of_notMem {text : Text} (none : '\\' ∉ encode ['\\', '\\'] text)
    : encode ['\\', '\\'] text = restore text := by
  induction text using encode_induction with
  | nil => rfl
  | backslash c rest stands ih =>
      rw [encode_backslash stands] at none
      exact absurd List.mem_cons_self none
  | known s member rest ih =>
      have holds : ∀ s ∈ table, '\\' ∈ s.escaped := by decide
      rw [encode_known member] at none
      exact absurd (List.mem_append_left _ (holds s member)) none
  | plain c rest plain ih =>
      rw [encode_plain plain] at none ⊢
      have kept : c ≠ placeholder := by
        rintro rfl
        exact absurd plain.ordinary (by decide)
      rw [ih (fun later => none (List.mem_cons_of_mem c later))]
      simp [restore, kept]

-----------------------------------------------------------------------------------------
-- The round trip
-----------------------------------------------------------------------------------------

/-- Decoding an escaped text restores the text. Without a backslash decoding does nothing, and
then there was nothing to escape.
-/
theorem unescape_escape (text : Text) : unescape (escape text) = restore text := by
  rw [escape_eq_encode, unescape_eq]
  split
  · rw [hidePairs, replaceAll_doubled, replaceEach_decodings, restore_hide]
  · next none => exact encode_of_notMem none

/-- Escaping does not tell a placeholder from a backslash. -/
theorem escape_restore (text : Text) : escape (restore text) = escape text := by
  have hidden (text : Text) : Text.replaceAll ['\\'] [placeholder] text = hide text :=
    Text.replaceAll_singleton '\\' placeholder text
  simp only [escape, hidden, hide_restore]

/-- Decoding an escaped text gives the text with every placeholder turned into a backslash, hence
the text itself exactly if it holds no placeholder; on such texts escaping is injective. Escaping
what was decoded gives the escaped text again.
-/
theorem escape_round_trip
    : (∀ text, unescape (escape text) = restore text)
      ∧ (∀ text, unescape (escape text) = text ↔ placeholder ∉ text)
      ∧ (∀ text text',
          placeholder ∉ text
          → placeholder ∉ text'
          → escape text = escape text'
          → text = text')
      ∧ ∀ text, escape (unescape (escape text)) = escape text := by
  refine ⟨unescape_escape, ?_, ?_, ?_⟩
  · intro text
    rw [unescape_escape, restore_eq_self_iff]
  · intro text text' free free' same
    calc
      text = restore text := (restore_eq_self_iff.mpr free).symm
      _ = restore text' := by rw [← unescape_escape, same, unescape_escape]
      _ = text' := restore_eq_self_iff.mpr free'
  · intro text
    rw [unescape_escape, escape_restore]

/-- Backslashes beside literals of the table, a percent sign that starts none and one that starts
one survive; a placeholder does not.
-/
theorem escape_round_trip_mixed
    : unescape (escape "\\\\n\n%%\x7d\"\\".toList) = "\\\\n\n%%\x7d\"\\".toList
      ∧ unescape (escape ['\\', placeholder]) ≠ ['\\', placeholder] := by
  refine ⟨(escape_round_trip.2.1 _).mpr (by decide), ?_⟩
  intro same
  exact (escape_round_trip.2.1 _).mp same (by decide)

end KSharp.Escape
