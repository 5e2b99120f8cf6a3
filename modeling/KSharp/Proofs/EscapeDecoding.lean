import KSharp.Proofs.EscapeRoundTrip

/-! Decoding as one pass from left to right, which takes each backslash together with what it
escapes. The successive replacements of decoding make up this pass, and it keeps the quotes of a
text.
-/

namespace KSharp.Escape

-----------------------------------------------------------------------------------------
-- The pass
-----------------------------------------------------------------------------------------

/-- What a backslash and the character behind it become by themselves. -/
def decodePair (c : Char) : Text :=
  match table.find? (fun s => s.escaped = ['\\', c]) with
  | some s => s.literal
  | none => ['\\', c]

/-- The text with its escape sequences decoded in one pass from the left. Two backslashes are one; a
backslash that starts no sequence is kept with the character behind it.
-/
def decode : Text → Text
  | [] => []
  | '\\' :: '\\' :: rest => '\\' :: decode rest
  | '\\' :: '%' :: '}' :: rest => '%' :: '}' :: decode rest
  | '\\' :: c :: rest => decodePair c ++ decode rest
  | c :: rest => c :: decode rest

/-- The backslash in front of a character and a text starts no escape sequence. -/
structure Unknown (c : Char) (rest : Text) : Prop where
  single : c ≠ '\\'
  starts : ∀ s ∈ table, ¬s.escaped <+: '\\' :: c :: rest

/-- A text and what it is decoded to, unit by unit. -/
inductive Decodes : Text → Text → Prop where
  | nil : Decodes [] []
  | pair {rest result} (more : Decodes rest result) : Decodes ('\\' :: '\\' :: rest) ('\\' :: result)
  | known {s rest result} (member : s ∈ table) (more : Decodes rest result)
    : Decodes (s.escaped ++ rest) (s.literal ++ result)
  | kept {c rest result} (unknown : Unknown c rest) (more : Decodes rest result)
    : Decodes ('\\' :: c :: rest) ('\\' :: c :: result)
  | last : Decodes ['\\'] ['\\']
  | plain {c rest result} (other : c ≠ '\\') (more : Decodes rest result)
    : Decodes (c :: rest) (c :: result)

/-- Each escape sequence is a pair, but for that of a mark of markup. -/
theorem escaped_shape
    : ∀ s ∈ table, s.escaped = ['\\', '%', '}'] ∨ s.escaped.length = 2 := by
  decide

/-- The pass decodes each text, by induction along its recursion. -/
theorem decodes_decode (text : Text) : Decodes text (decode text) := by
  fun_induction decode text with
  | case1 => exact .nil
  | case2 rest ih => exact .pair ih
  | case3 rest ih => exact .known (s := ⟨['\\', '%', '}'], ['%', '}']⟩) (by decide) ih
  | case4 c rest single brace ih =>
      unfold decodePair
      split
      · next s found =>
        have escaped : s.escaped = ['\\', c] := by simpa using List.find?_some found
        have known := Decodes.known (List.mem_of_find?_eq_some found) ih
        rwa [escaped] at known
      · next none =>
        refine .kept ⟨single, ?_⟩ ih
        intro s member front
        rcases escaped_shape s member with three | two
        · rw [three] at front
          obtain ⟨more, equal⟩ := front
          cases equal
          exact brace more rfl rfl
        · have escaped : s.escaped = ['\\', c] := by
            have pair := List.prefix_iff_eq_take.mp front
            rwa [two] at pair
          exact List.find?_eq_none.mp none s member (decide_eq_true escaped)
  | case5 c rest _ _ escape ih =>
      by_cases backslash : c = '\\'
      · subst backslash
        -- Behind a backslash that something follows, one of the cases before applies.
        cases rest with
        | nil => exact .last
        | cons d more => exact absurd rfl (escape d more rfl)
      · exact .plain backslash ih

-----------------------------------------------------------------------------------------
-- The replacements make up the pass
-----------------------------------------------------------------------------------------

/-- A unit in which no pair of backslashes starts stays when pairs are hidden. -/
theorem hidePairs_of_misses {unit : Text} (missed : Text.misses ['\\', '\\'] unit) (rest : Text)
    : hidePairs (unit ++ rest) = unit ++ hidePairs rest :=
  Text.replaceAll_of_misses missed [placeholder] rest

theorem misses_doubled {c : Char} (other : c ≠ '\\') : Text.misses ['\\', '\\'] [c] := by
  refine (Text.misses_singleton (by simp)).mpr ?_
  intro first
  exact other (Option.some.inj first).symm

/-- A backslash that starts no sequence is kept with the character behind it: none comes up there,
not even behind a percent sign, since no replacement writes a brace first.
-/
theorem replaceEach_unknown {c : Char} {rest : Text} (unknown : Unknown c rest)
    : Text.replaceEach decodings (['\\', c] ++ hidePairs rest)
      = ['\\', c] ++ Text.replaceEach decodings (hidePairs rest) := by
  have front : ['\\', c] <+: '\\' :: c :: rest := List.prefix_append ['\\', c] rest
  by_cases percent : c = '%'
  · subst percent
    have starts : ∀ pair ∈ decodings,
        Text.misses pair.1 ['\\', '%']
        ∨ ['\\', '%'] ++ ['}'] <+: pair.1 ∧ Text.misses pair.1 ['%'] := by
      decide
    have brace : rest.head? ≠ some '}' := by
      intro first
      obtain ⟨more, rfl⟩ := List.head?_eq_some_iff.mp first
      exact unknown.starts ⟨['\\', '%', '}'], ['%', '}']⟩ (by decide)
        (List.prefix_append ['\\', '%', '}'] more)
    have behind : (hidePairs rest).head? ≠ some '}' :=
      Text.head?_replaceAll_ne (by simp) (by decide) brace
    exact Text.replaceEach_unit starts (by decide) behind
  · apply Text.replaceEach_of_misses
    intro pair member
    have later := decodings_miss unknown.single pair member
    obtain ⟨s, held, rfl⟩ := List.mem_map.mp member
    refine Text.misses_cons.mpr ⟨⟨?_, ?_⟩, later⟩
    · intro shorter
      exact unknown.starts s held (shorter.trans front)
    · intro longer
      rcases escaped_shape s held with three | two
      · rw [three] at longer
        obtain ⟨more, equal⟩ := longer
        cases equal
        exact percent rfl
      · have same : ['\\', c] = s.escaped := longer.eq_of_length two.symm
        exact unknown.starts s held (same ▸ front)

/-- Hiding the pairs of backslashes, replacing the sequences and restoring the backslashes decodes a
text, by its units.
-/
theorem Decodes.replaced {text result} (decodes : Decodes text result)
    : restore (Text.replaceEach decodings (hidePairs text)) = restore result := by
  induction decodes with
  | nil => rfl
  | @pair rest result more ih =>
      have hidden : hidePairs ('\\' :: '\\' :: rest) = [placeholder] ++ hidePairs rest :=
        Text.replaceAll_append (by simp) [placeholder] rest
      have missed : ∀ pair ∈ decodings, Text.misses pair.1 [placeholder] := by decide
      rw [hidden, Text.replaceEach_of_misses missed]
      simpa [restore] using ih
  | @known s rest result member more ih =>
      have missed : ∀ s ∈ table, Text.misses ['\\', '\\'] s.escaped := by decide
      have nonempty : ∀ s ∈ table, s.escaped ≠ [] := by decide
      have pair : (s.escaped, s.literal) ∈ decodings := List.mem_map_of_mem member
      have replaced := Text.replaceEach_append decodings_independent pair (nonempty s member)
        (hidePairs rest)
      rw [hidePairs_of_misses (missed s member), replaced]
      simpa [restore] using ih
  | @kept c rest result unknown more ih =>
      have missed : Text.misses ['\\', '\\'] ['\\', c] := by
        refine Text.misses_cons.mpr ⟨?_, misses_doubled unknown.single⟩
        simp [unknown.single, unknown.single.symm]
      have hidden : hidePairs ('\\' :: c :: rest) = ['\\', c] ++ hidePairs rest :=
        hidePairs_of_misses missed rest
      rw [hidden, replaceEach_unknown unknown]
      simpa [restore] using ih
  | last => decide
  | @plain c rest result other more ih =>
      have hidden : hidePairs (c :: rest) = [c] ++ hidePairs rest :=
        hidePairs_of_misses (misses_doubled other) rest
      rw [hidden, Text.replaceEach_of_misses (decodings_miss other)]
      simpa [restore] using ih

theorem Decodes.count {text result} (decodes : Decodes text result)
    : result.count '"' = text.count '"' := by
  induction decodes with
  | nil => rfl
  | pair more ih => simpa using ih
  | known member more ih =>
      have same : ∀ s ∈ table, s.literal.count '"' = s.escaped.count '"' := by decide
      rw [List.count_append, List.count_append, same _ member, ih]
  | kept unknown more ih => simpa [List.count_cons] using ih
  | last => rfl
  | plain other more ih => simp [List.count_cons, ih]

/-- The text that the body of a quoted literal stands for: the pass has decoded it and placeholders
are restored, unless there is no backslash in it.
-/
def meaning (text : Text) : Text := if '\\' ∈ text then restore (decode text) else text

/-- The successive replacements of decoding make up the pass, whose result is restored. -/
theorem unescape_eq_meaning (text : Text) : unescape text = meaning text := by
  rw [meaning, ← (decodes_decode text).replaced, unescape_eq]

/-- Two backslashes keep the letter behind them, and one that starts no sequence is kept itself. -/
example : unescape "\\\\n\\q\\".toList = "\\n\\q\\".toList := by decide

/-- Restoring brings up no quote, by the characters of the text. -/
theorem count_restore (text : Text) : (restore text).count '"' = text.count '"' := by
  induction text with
  | nil => rfl
  | cons c rest ih =>
      by_cases stands : c = placeholder
      · subst stands
        simpa [restore, placeholder] using ih
      · simpa [restore, stands, List.count_cons] using ih

/-- Decoding keeps the number of quotes, since each sequence stands for as many as it holds. -/
theorem count_unescape (text : Text) : (unescape text).count '"' = text.count '"' := by
  rw [unescape_eq_meaning, meaning]
  split
  · rw [count_restore, (decodes_decode text).count]
  · rfl

end KSharp.Escape
