import KSharp.Text

/-! Replacement in texts: what it does to an occurrence in front of a text, which units it
passes over, and what successive replacements do that stay out of each other's way.
-/

namespace KSharp.Text

-----------------------------------------------------------------------------------------
-- One replacement
-----------------------------------------------------------------------------------------

theorem replaceFrom_skip (old new skipped rest : Text)
    : replaceFrom old new skipped.length (skipped ++ rest) = replaceAll old new rest := by
  induction skipped with
  | nil => rfl
  | cons c more ih => exact ih

/-- An occurrence in front of a text is replaced, and the search goes on behind it. -/
theorem replaceAll_append {old : Text} (nonempty : old ≠ []) (new rest : Text)
    : replaceAll old new (old ++ rest) = new ++ replaceAll old new rest := by
  cases old with
  | nil => contradiction
  | cons c more =>
      have occurs : (c :: more).isPrefixOf (c :: (more ++ rest)) :=
        List.isPrefixOf_iff_prefix.mpr (List.prefix_append (c :: more) rest)
      rw [List.cons_append, replaceAll, replaceFrom, if_pos occurs]
      exact congrArg (new ++ ·) (replaceFrom_skip (c :: more) new more rest)

theorem replaceAll_cons {old : Text} {c rest} (absent : ¬old <+: c :: rest) (new : Text)
    : replaceAll old new (c :: rest) = c :: replaceAll old new rest := by
  rw [replaceAll, replaceFrom, if_neg]
  · rfl
  · rwa [List.isPrefixOf_iff_prefix]

/-- A text and what it becomes when a text in it is replaced: an occurrence in front is replaced and
the search goes on behind it, and a character at which none starts is kept.
-/
inductive Replaced (old new : Text) : Text → Text → Prop where
  | nil : Replaced old new [] []
  | found {rest text} (more : Replaced old new rest text)
    : Replaced old new (old ++ rest) (new ++ text)
  | kept {c rest text} (absent : ¬old <+: c :: rest) (more : Replaced old new rest text)
    : Replaced old new (c :: rest) (c :: text)

/-- A scan replaces what is behind the characters that it still passes over. By induction along its
recursion.
-/
theorem replaced_replaceFrom {old : Text} (nonempty : old ≠ []) (new : Text) (skip : Nat)
    (text : Text)
    : Replaced old new (text.drop skip) (replaceFrom old new skip text) := by
  fun_induction replaceFrom old new skip text with
  | case1 skip =>
      rw [List.drop_nil]
      exact .nil
  | case2 skip c rest ih => exact ih
  | case3 c rest occurs ih =>
      obtain ⟨d, more, rfl⟩ := List.exists_cons_of_ne_nil nonempty
      obtain ⟨behind, split⟩ := List.isPrefixOf_iff_prefix.mp occurs
      rw [List.cons_append] at split
      cases split
      have later : (more ++ behind).drop ((c :: more).length - 1) = behind := List.drop_left
      rw [later] at ih
      exact .found ih
  | case4 c rest absent ih =>
      refine .kept ?_ ih
      rwa [List.isPrefixOf_iff_prefix] at absent

theorem replaced_replaceAll {old : Text} (nonempty : old ≠ []) (new text : Text)
    : Replaced old new text (replaceAll old new text) :=
  replaced_replaceFrom nonempty new 0 text

/-- The replacement of a text that is not empty has one outcome, which is the computed one. -/
theorem replaced_iff {old : Text} (nonempty : old ≠ []) {new text result : Text}
    : Replaced old new text result ↔ result = replaceAll old new text := by
  constructor
  · intro replaced
    induction replaced with
    | nil => rfl
    | found more ih => rw [replaceAll_append nonempty, ih]
    | kept absent more ih => rw [replaceAll_cons absent, ih]
  · rintro rfl
    exact replaced_replaceAll nonempty new text

/-- The replacement of one character by a text goes character by character. -/
theorem replaceAll_char_cons (c : Char) (new : Text) (d : Char) (rest : Text)
    : replaceAll [c] new (d :: rest)
      = (if d = c then new else [d]) ++ replaceAll [c] new rest := by
  by_cases same : d = c
  · subst same
    rw [if_pos rfl]
    exact replaceAll_append (List.cons_ne_nil d []) new rest
  · rw [if_neg same]
    exact replaceAll_cons (by simpa [eq_comm] using same) new

/-- The replacement of one character by another is a map over the characters. -/
theorem replaceAll_singleton (c d : Char) (text : Text)
    : replaceAll [c] [d] text = text.map (fun e => if e = c then d else e) := by
  induction text with
  | nil => rfl
  | cons e rest ih =>
      rw [replaceAll_char_cons, ih]
      by_cases same : e = c <;> simp [same]

/-- With a mark before each occurrence of another character, none of them is the first character. -/
theorem head?_marked_ne {mark c : Char} (other : mark ≠ c) (text : Text)
    : (replaceAll [c] [mark, c] text).head? ≠ some c := by
  cases text with
  | nil => simp [replaceAll, replaceFrom]
  | cons d rest =>
      rw [replaceAll_char_cons]
      split
      · simpa using other
      · next different => simpa using different

/-- Putting a mark before each occurrence of a character can be undone, by induction on the text. A
character that is the mark itself stays, since what was put in starts with the mark.
-/
theorem replaceAll_marked (mark c : Char) (text : Text)
    : replaceAll [mark, c] [c] (replaceAll [c] [mark, c] text) = text := by
  induction text with
  | nil => rfl
  | cons d rest ih =>
      rw [replaceAll_char_cons]
      split
      · next same =>
        rw [replaceAll_append (by simp), ih, same]
        rfl
      · next other =>
        have absent : ¬[mark, c] <+: d :: replaceAll [c] [mark, c] rest := by
          intro occurs
          obtain ⟨same, later⟩ := List.cons_prefix_cons.mp occurs
          obtain ⟨more, equal⟩ := later
          subst same
          apply head?_marked_ne other rest
          rw [← equal]
          rfl
        rw [List.singleton_append, replaceAll_cons absent, ih]

/-- The first character is kept or is the first one put in, so neither brings up another. -/
theorem head?_replaceAll_ne {old new text : Text} {d : Char} (nonempty : new ≠ [])
    (writes : new.head? ≠ some d) (front : text.head? ≠ some d)
    : (replaceAll old new text).head? ≠ some d := by
  cases text with
  | nil => exact front
  | cons c rest =>
      rw [replaceAll, replaceFrom]
      split
      · obtain ⟨e, more, rfl⟩ := List.exists_cons_of_ne_nil nonempty
        exact writes
      · exact front

/-- Whether no occurrence of `old` can start in a unit, whatever follows the unit. -/
def misses (old : Text) : Text → Bool
  | [] => true
  | c :: rest =>
    !old.isPrefixOf (c :: rest) && !(c :: rest).isPrefixOf old && misses old rest

theorem misses_cons {old : Text} {c rest}
    : misses old (c :: rest) ↔ (¬old <+: c :: rest ∧ ¬c :: rest <+: old) ∧ misses old rest := by
  simp [misses, ← List.isPrefixOf_iff_prefix]

theorem misses_singleton {old : Text} {c : Char} (nonempty : old ≠ [])
    : misses old [c] ↔ old.head? ≠ some c := by
  cases old with
  | nil => contradiction
  | cons d more =>
      rw [misses_cons]
      simp only [misses, List.cons_prefix_cons, List.prefix_nil, List.nil_prefix, List.head?_cons,
        Option.some.injEq, ne_eq, and_true]
      constructor
      · rintro ⟨_, other⟩ same
        exact other same.symm
      · intro other
        exact ⟨fun both => other both.1, fun same => other same.symm⟩

/-- A unit in which no occurrence starts is kept, by induction on it: an occurrence in front of
a longer text would be a front of the unit or have the unit as its front.
-/
theorem replaceAll_of_misses {old unit : Text} (missed : misses old unit) (new rest : Text)
    : replaceAll old new (unit ++ rest) = unit ++ replaceAll old new rest := by
  induction unit with
  | nil => rfl
  | cons c more ih =>
      obtain ⟨⟨shorter, longer⟩, later⟩ := misses_cons.mp missed
      have absent : ¬old <+: c :: (more ++ rest) := by
        intro occurs
        have front : c :: more <+: c :: (more ++ rest) := List.prefix_append (c :: more) rest
        rcases List.prefix_or_prefix_of_prefix occurs front with held | holds
        · exact shorter held
        · exact longer holds
      rw [List.cons_append, replaceAll_cons absent, ih later, List.cons_append]

-----------------------------------------------------------------------------------------
-- Successive replacements
-----------------------------------------------------------------------------------------

/-- The text after each pair's first text has been replaced by its second one, in order. -/
def replaceEach (pairs : List (Text × Text)) (text : Text) : Text :=
  pairs.foldl (fun text pair => replaceAll pair.1 pair.2 text) text

theorem replaceEach_nil (pairs : List (Text × Text)) : replaceEach pairs [] = [] := by
  induction pairs with
  | nil => rfl
  | cons pair more ih => exact ih

/-- Replacements stay out of each other's way if an earlier one finds nothing in what a later
one looks for, and a later one nothing in what an earlier one writes.
-/
def Independent (pairs : List (Text × Text)) : Prop :=
  pairs.Pairwise (fun earlier later => misses earlier.1 later.1 ∧ misses later.1 earlier.2)

instance (pairs : List (Text × Text)) : Decidable (Independent pairs) :=
  inferInstanceAs (Decidable (List.Pairwise _ pairs))

theorem replaceEach_of_misses {pairs : List (Text × Text)} {unit : Text}
    (missed : ∀ pair ∈ pairs, misses pair.1 unit) (rest : Text)
    : replaceEach pairs (unit ++ rest) = unit ++ replaceEach pairs rest := by
  induction pairs generalizing rest with
  | nil => rfl
  | cons pair more ih =>
      obtain ⟨first, later⟩ := List.forall_mem_cons.mp missed
      calc
        replaceEach (pair :: more) (unit ++ rest)
          = replaceEach more (replaceAll pair.1 pair.2 (unit ++ rest)) := rfl
        _ = replaceEach more (unit ++ replaceAll pair.1 pair.2 rest) := by
          rw [replaceAll_of_misses first]
        _ = unit ++ replaceEach (pair :: more) rest := ih later _

/-- Independent replacements turn one pair's text in front into that pair's other text, by
induction on them: those before pass over the one, those behind over the other.
-/
theorem replaceEach_append {pairs : List (Text × Text)} (independent : Independent pairs)
    {pair : Text × Text} (member : pair ∈ pairs) (nonempty : pair.1 ≠ []) (rest : Text)
    : replaceEach pairs (pair.1 ++ rest) = pair.2 ++ replaceEach pairs rest := by
  induction pairs generalizing rest with
  | nil => cases member
  | cons first more ih =>
      obtain ⟨separate, later⟩ := List.pairwise_cons.mp independent
      rcases List.mem_cons.mp member with rfl | member
      · calc
          replaceEach (pair :: more) (pair.1 ++ rest)
            = replaceEach more (replaceAll pair.1 pair.2 (pair.1 ++ rest)) := rfl
          _ = replaceEach more (pair.2 ++ replaceAll pair.1 pair.2 rest) := by
            rw [replaceAll_append nonempty]
          _ = pair.2 ++ replaceEach (pair :: more) rest :=
            replaceEach_of_misses (fun other held => (separate other held).2) _
      · calc
          replaceEach (first :: more) (pair.1 ++ rest)
            = replaceEach more (replaceAll first.1 first.2 (pair.1 ++ rest)) := rfl
          _ = replaceEach more (pair.1 ++ replaceAll first.1 first.2 rest) := by
            rw [replaceAll_of_misses (separate pair member).1]
          _ = pair.2 ++ replaceEach (first :: more) rest := ih later member _

/-- A unit that occurrences start with only together with `d` is kept where another character
follows it, since no replacement brings up a `d` there.
-/
theorem replaceEach_unit {pairs : List (Text × Text)} {unit : Text} {d : Char} {rest : Text}
    (starts : ∀ pair ∈ pairs,
      misses pair.1 unit ∨ unit ++ [d] <+: pair.1 ∧ misses pair.1 unit.tail)
    (writes : ∀ pair ∈ pairs, pair.2 ≠ [] ∧ pair.2.head? ≠ some d)
    (behind : rest.head? ≠ some d)
    : replaceEach pairs (unit ++ rest) = unit ++ replaceEach pairs rest := by
  induction pairs generalizing rest with
  | nil => rfl
  | cons pair more ih =>
      obtain ⟨start, starts⟩ := List.forall_mem_cons.mp starts
      obtain ⟨⟨nonempty, write⟩, writes⟩ := List.forall_mem_cons.mp writes
      have kept : replaceAll pair.1 pair.2 (unit ++ rest)
          = unit ++ replaceAll pair.1 pair.2 rest := by
        rcases start with missed | ⟨longer, later⟩
        · exact replaceAll_of_misses missed pair.2 rest
        cases unit with
        | nil => rfl
        | cons c tail =>
            have absent : ¬pair.1 <+: c :: (tail ++ rest) := by
              intro occurs
              have next := longer.trans occurs
              rw [← List.cons_append, List.prefix_append_right_inj] at next
              obtain ⟨after, rfl⟩ := next
              exact behind rfl
            rw [List.cons_append, replaceAll_cons absent, List.cons_append]
            exact congrArg (c :: ·) (replaceAll_of_misses later pair.2 rest)
      calc
        replaceEach (pair :: more) (unit ++ rest)
          = replaceEach more (replaceAll pair.1 pair.2 (unit ++ rest)) := rfl
        _ = replaceEach more (unit ++ replaceAll pair.1 pair.2 rest) := by rw [kept]
        _ = unit ++ replaceEach (pair :: more) rest :=
          ih starts writes (head?_replaceAll_ne nonempty write behind)

end KSharp.Text
