import KSharp.LexError

/-! Byte ranges of texts in UTF-8: the bytes behind those of a front are the bytes of what stands
behind that front, and a line feed is found among the bytes as it is among the characters.
-/

namespace KSharp

namespace Text

theorem utf8Length_append (front back : Text)
    : utf8Length (front ++ back) = utf8Length front + utf8Length back := by
  induction front with
  | nil => simp [utf8Length]
  | cons c rest ih => rw [List.cons_append, utf8Length, utf8Length, ih, Nat.add_assoc]

/-- The length counts the bytes that encode the text, character by character. -/
theorem size_utf8Encode (text : Text) : text.utf8Encode.size = utf8Length text := by
  induction text with
  | nil => rfl
  | cons c rest ih =>
      rw [List.utf8Encode_cons, ByteArray.size_append, ih, List.utf8Encode_singleton, utf8Length]
      simp

/-- The bytes of a part of a text stand behind those of the front before it. -/
theorem extract_utf8Encode (front part back : Text)
    : (front ++ (part ++ back)).utf8Encode.extract (utf8Length front)
          (utf8Length front + utf8Length part)
        = part.utf8Encode := by
  rw [← List.append_assoc, List.utf8Encode_append, List.utf8Encode_append,
    ← size_utf8Encode front, ← size_utf8Encode part, ByteArray.extract_append,
    ByteArray.extract_append_eq_right rfl rfl]
  simp

/-- Only a line feed has its byte in its UTF-8 form: the bytes of longer forms all carry their
highest bit.
-/
theorem eq_lineFeed_of_mem {c : Char} (member : 0x0A ∈ String.utf8EncodeChar c) : c = '\n' := by
  have code {n : Nat} (small : n < 256) (same : 0x0A = UInt8.ofNat n) : n = 10 := by
    have numbers := congrArg UInt8.toNat same
    rw [UInt8.toNat_ofNat_of_lt' small] at numbers
    exact numbers.symm
  have high {n : Nat} (least : 128 ≤ n) (small : n < 256) : 0x0A ≠ UInt8.ofNat n := by
    intro same
    have := code small same
    omega
  simp only [String.utf8EncodeChar] at member
  split at member
  · have same := code (by omega) (List.mem_singleton.mp member)
    exact Char.ext (UInt32.toNat.inj same)
  exfalso
  split at member
  · simp only [List.mem_cons, List.not_mem_nil, or_false] at member
    rcases member with h | h <;> exact high (by omega) (by omega) h
  split at member
  · simp only [List.mem_cons, List.not_mem_nil, or_false] at member
    rcases member with h | h | h <;> exact high (by omega) (by omega) h
  · simp only [List.mem_cons, List.not_mem_nil, or_false] at member
    rcases member with h | h | h | h <;> exact high (by omega) (by omega) h

/-- So the line feeds of a text are those bytes of its UTF-8 form. -/
theorem count_utf8Encode (text : Text) : text.utf8Encode.data.count 0x0A = text.count '\n' := by
  rw [← Array.count_toList, List.utf8Encode, List.toList_data_toByteArray]
  induction text with
  | nil => rfl
  | cons c rest ih =>
      rw [List.flatMap_cons, List.count_append, ih]
      by_cases feed : c = '\n'
      · subst feed
        rw [List.count_cons_self, Nat.add_comm]
        rfl
      · rw [List.count_cons_of_ne feed, List.count_eq_zero.mpr, Nat.zero_add]
        intro member
        exact feed (eq_lineFeed_of_mem member)

end Text

namespace LexError

/-- The error is about a character, the one at its offset, and names a byte range that is not empty
and is that character's.
-/
structure Locates (error : LexError) (c : Char) : Prop where
  at_offset : error.expression[error.offset]? = some c
  span
    : error.byteSpan
      = (Text.utf8Length (error.expression.take error.offset),
          Text.utf8Length (error.expression.take (error.offset + 1)))
  nonempty : error.byteSpan.1 < error.byteSpan.2
  bytes
    : error.expression.utf8Encode.extract error.byteSpan.1 error.byteSpan.2 = [c].utf8Encode

theorem byteSpan_eq {error : LexError} {front : Text} {c : Char} {rest : Text}
    (expression : error.expression = front ++ c :: rest) (offset : error.offset = front.length)
    : error.byteSpan = (Text.utf8Length front, Text.utf8Length front + c.utf8Size) := by
  simp only [byteSpan, expression, offset, List.take_left, List.drop_left]

/-- An error locates the character that follows as many others as its offset says. -/
theorem locates_of_append {error : LexError} {front : Text} {c : Char} {rest : Text}
    (expression : error.expression = front ++ c :: rest) (offset : error.offset = front.length)
    : error.Locates c := by
  have span := byteSpan_eq expression offset
  have next : (front ++ c :: rest).take (front.length + 1) = front ++ [c] := by
    rw [List.take_length_add_append]
    rfl
  refine ⟨?_, ?_, ?_, ?_⟩
  · simp [expression, offset]
  · rw [span, expression, offset, List.take_left, next, Text.utf8Length_append]
    rfl
  · rw [span]
    have positive := c.utf8Size_pos
    omega
  · rw [span, expression]
    exact Text.extract_utf8Encode front [c] rest

/-- The character that an error locates follows as many others as its offset says. -/
theorem Locates.split {error : LexError} {c : Char} (locates : error.Locates c)
    : ∃ front rest, error.expression = front ++ c :: rest ∧ error.offset = front.length := by
  obtain ⟨inside, at_offset⟩ := List.getElem?_eq_some_iff.mp locates.at_offset
  refine ⟨error.expression.take error.offset, error.expression.drop (error.offset + 1), ?_, ?_⟩
  · rw [← at_offset, ← List.drop_eq_getElem_cons inside, List.take_append_drop]
  · exact (List.length_take_of_le (Nat.le_of_lt inside)).symm

/-- The bytes that an error names are those of its character, whatever follows the expression. -/
theorem Locates.byteSpan_append {error : LexError} {c : Char} (locates : error.Locates c)
    (text : Text)
    : { error with expression := error.expression ++ text }.byteSpan = error.byteSpan := by
  obtain ⟨front, rest, source, offset⟩ := locates.split
  have longer : error.expression ++ text = front ++ c :: (rest ++ text) := by
    rw [source, List.append_assoc, List.cons_append]
  rw [byteSpan_eq source offset]
  exact byteSpan_eq longer offset

end LexError

end KSharp
