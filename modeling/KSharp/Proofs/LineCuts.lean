import KSharp.Text

/-! The cut of a text into lines: the pieces of a text are its lines with their line feeds, a text
that is joined at a line feed has the pieces of its parts, and trimming takes off the ends of lines.
-/

namespace KSharp.Text

/-- The pieces of a text cut after each of its line feeds and nowhere else; the last one may lack
its line feed.
-/
inductive CutIntoLines : Text → List Text → Prop where
  | nil : CutIntoLines [] []
  | last {line} (visible : line ≠ []) (inside : '\n' ∉ line) : CutIntoLines line [line]
  | line {line rest more} (inside : '\n' ∉ line) (later : CutIntoLines rest more)
    : CutIntoLines (line ++ '\n' :: rest) ((line ++ ['\n']) :: more)

/-- A character that is no line feed belongs to the first piece. -/
theorem CutIntoLines.cons {c rest piece more} (cut : CutIntoLines rest (piece :: more))
    (other : c ≠ '\n')
    : CutIntoLines (c :: rest) ((c :: piece) :: more) := by
  cases cut with
  | last visible inside =>
      exact .last (List.cons_ne_nil _ _) (List.not_mem_cons_of_ne_of_not_mem other.symm inside)
  | line inside later =>
      have longer := List.not_mem_cons_of_ne_of_not_mem other.symm inside
      simpa using CutIntoLines.line longer later

theorem CutIntoLines.flatten {text lines} (cut : CutIntoLines text lines)
    : lines.flatten = text := by
  induction cut with
  | nil => rfl
  | last visible inside => exact List.flatten_singleton
  | line inside later ih => simp [ih]

/-- A text is cut into its pieces, by induction along the cut. -/
theorem cutIntoLines_pieces (text : Text) : CutIntoLines text (pieces text) := by
  fun_induction pieces text with
  | case1 => exact .nil
  | case2 rest ih => exact CutIntoLines.line List.not_mem_nil ih
  | case3 c rest other none ih =>
      rw [none] at ih
      cases ih
      exact .last (List.cons_ne_nil _ _) (by simpa using Ne.symm other)
  | case4 c rest other piece more cut ih =>
      rw [cut] at ih
      exact ih.cons other

/-- A line that is ended by a line feed is the first piece, by induction on the line. -/
theorem pieces_line {line : Text} (inside : '\n' ∉ line) (rest : Text)
    : pieces (line ++ '\n' :: rest) = (line ++ ['\n']) :: pieces rest := by
  induction line with
  | nil => simp [pieces]
  | cons c more ih =>
      obtain ⟨other, inside⟩ : '\n' ≠ c ∧ '\n' ∉ more := by simpa using inside
      simp [pieces, other.symm, ih inside]

/-- Where a text is empty or ends with a line feed, no piece reaches over its end. By induction on
its lines.
-/
theorem pieces_append {first : Text} (ends : first = [] ∨ first.getLast? = some '\n')
    (second : Text)
    : pieces (first ++ second) = pieces first ++ pieces second := by
  have cut := cutIntoLines_pieces first
  generalize pieces first = lines at cut
  induction cut with
  | nil => rfl
  | last visible inside =>
      have last := ends.resolve_left visible
      exact absurd (List.mem_of_getLast? last) inside
  | @line line rest more inside later ih =>
      have ends : rest = [] ∨ rest.getLast? = some '\n' := by
        cases rest with
        | nil => exact Or.inl rfl
        | cons c rest => simpa using ends
      rw [List.append_assoc, List.cons_append, pieces_line inside, ih ends]
      rfl

/-- Each of the lines is ended by its only line feed. -/
def Ended (lines : List Text) : Prop :=
  ∀ line ∈ lines, ∃ inside, line = inside ++ ['\n'] ∧ '\n' ∉ inside

theorem Ended.count_flatten {lines} (ended : Ended lines)
    : lines.flatten.count '\n' = lines.length := by
  induction lines with
  | nil => rfl
  | cons line rest ih =>
      obtain ⟨here, later⟩ := List.forall_mem_cons.mp ended
      obtain ⟨inside, rfl, other⟩ := here
      rw [List.flatten_cons, List.count_append, ih later, List.count_append,
        List.count_eq_zero.mpr other, List.length_cons]
      simp [Nat.add_comm]

theorem Ended.getLast?_flatten {lines} (ended : Ended lines)
    : lines.flatten = [] ∨ lines.flatten.getLast? = some '\n' := by
  rcases List.eq_nil_or_concat lines with rfl | ⟨front, line, rfl⟩
  · exact Or.inl rfl
  · obtain ⟨inside, rfl, -⟩ := ended line (by simp)
    exact Or.inr (by simp)

/-- Lines that are ended are the pieces of any text that starts with them. -/
theorem Ended.pieces_append {lines} (ended : Ended lines) (text : Text)
    : pieces (lines.flatten ++ text) = lines ++ pieces text := by
  induction lines with
  | nil => rfl
  | cons line rest ih =>
      obtain ⟨here, later⟩ := List.forall_mem_cons.mp ended
      obtain ⟨inside, rfl, other⟩ := here
      rw [List.flatten_cons, List.append_assoc, List.append_assoc, List.singleton_append,
        pieces_line other, ih later, List.cons_append]

/-- A text that is ended by a line feed has a piece for each of its line feeds, by induction on the
text.
-/
theorem length_pieces_concat (text : Text)
    : (pieces (text ++ ['\n'])).length = text.count '\n' + 1 := by
  induction text with
  | nil => rfl
  | cons c rest ih =>
      rw [List.cons_append, pieces]
      split
      · next lineFeed => rw [List.length_cons, ih, lineFeed, List.count_cons_self]
      · next other =>
        rw [List.count_cons_of_ne other]
        split
        · next none => rw [none] at ih; cases ih
        · next piece more cut => rw [← ih, cut]; rfl

/-- Lines that are joined by line feeds, with one behind the last, are each ended by a line feed. -/
theorem intercalate_concat {lines : List Text} (nonempty : lines ≠ [])
    : List.intercalate ['\n'] lines ++ ['\n'] = (lines.map (· ++ ['\n'])).flatten := by
  induction lines with
  | nil => contradiction
  | cons line rest ih =>
      cases rest with
      | nil => simp
      | cons next more =>
          have later := ih (List.cons_ne_nil next more)
          rw [List.map_cons, List.flatten_cons, ← later, List.intercalate_cons_cons,
            List.append_assoc]

/-- Where further pieces follow, those before them are ended, and the further ones are the cut of
what they hold. By induction on the pieces before them.
-/
theorem CutIntoLines.split {text before piece after}
    (cut : CutIntoLines text (before ++ piece :: after))
    : Ended before ∧ CutIntoLines (piece :: after).flatten (piece :: after) := by
  induction before generalizing text with
  | nil =>
      rw [List.nil_append] at cut
      have whole := cut.flatten
      exact ⟨by simp [Ended], whole.symm ▸ cut⟩
  | cons line rest ih =>
      rw [List.cons_append] at cut
      generalize tail : rest ++ piece :: after = lines at cut
      cases cut with
      | last visible inside => simp at tail
      | line inside later =>
          subst tail
          obtain ⟨ended, behind⟩ := ih later
          exact ⟨List.forall_mem_cons.mpr ⟨⟨_, rfl, inside⟩, ended⟩, behind⟩

/-- A piece has a line feed at most at its end. -/
theorem CutIntoLines.not_mem_of_append {text piece after front c rest}
    (cut : CutIntoLines text (piece :: after)) (split : piece = front ++ c :: rest)
    : '\n' ∉ front := by
  cases cut with
  | last visible inside =>
      subst split
      intro member
      exact inside (List.mem_append_left _ member)
  | line inside later =>
      have shorter := congrArg List.dropLast split
      rw [List.dropLast_concat, List.dropLast_append_of_ne_nil (List.cons_ne_nil _ _)] at shorter
      subst shorter
      intro member
      exact inside (List.mem_append_left _ member)

/-- Nothing but characters of the class is taken off the end of a text, and all of those. -/
theorem trimEnd_append (drop : Char → Bool) (text : Text)
    : ∃ ends,
        text = trimEnd drop text ++ ends
        ∧ (∀ c ∈ ends, drop c)
        ∧ ∀ c, (trimEnd drop text).getLast? = some c → drop c = false := by
  refine ⟨(text.reverse.takeWhile drop).reverse, ?_, ?_, ?_⟩
  · rw [trimEnd, ← List.reverse_append, List.takeWhile_append_dropWhile, List.reverse_reverse]
  · intro c member
    exact List.all_eq_true.mp List.all_takeWhile c (List.mem_reverse.mp member)
  · intro c last
    rw [trimEnd, List.getLast?_reverse] at last
    have kept := List.head?_dropWhile_not drop text.reverse
    simpa [last] using kept

end KSharp.Text
