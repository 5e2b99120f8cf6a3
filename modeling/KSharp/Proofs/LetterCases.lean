import Mathlib
import KSharp.Operator

/-! Lowercase forms of Unicode beside those of ASCII. A name of small ASCII letters is the lowercase
form of the same texts under both, unless it holds a k, which the Kelvin sign becomes as well.
-/

namespace KSharp.Unicode

-----------------------------------------------------------------------------------------
-- Characters
-----------------------------------------------------------------------------------------

/-- A code point keeps its place or moves with a run that holds it, by induction on the runs. -/
theorem lowercaseShift_cases (runs : List CaseRun) (n : Nat)
    : lowercaseShift runs n = 0
      ∨ ∃ run ∈ runs, run.first ≤ n ∧ n ≤ run.last ∧ lowercaseShift runs n = run.shift := by
  induction runs with
  | nil => exact Or.inl rfl
  | cons run more ih =>
      unfold lowercaseShift
      split
      · exact Or.inl rfl
      · next above =>
        split
        · next below =>
          split
          · exact Or.inr ⟨run, List.mem_cons_self, Nat.le_of_not_lt above, below, rfl⟩
          · exact Or.inl rfl
        · rcases ih with kept | ⟨later, member, held⟩
          · exact Or.inl kept
          · exact Or.inr ⟨later, List.mem_cons_of_mem run member, held⟩

/-- Beyond ASCII only the Kelvin sign moves to an ASCII character, by the table of runs. -/
theorem ascii_or_kelvin
    : ∀ run ∈ lowercaseRuns,
        run.last < 128
        ∨ 128 ≤ run.first + run.shift
        ∨ run.first = run.last ∧ run.first + run.shift = 'k'.toNat := by
  decide +kernel

/-- The lowercase forms of ASCII characters are those of ASCII, one by one. -/
theorem lowercaseChar_ascii {c : Char} (ascii : c.toNat < 128) : lowercaseChar c = [c.toLower] := by
  have each : ∀ n ∈ List.range 128, lowercaseChar (Char.ofNat n) = [(Char.ofNat n).toLower] := by
    decide +kernel
  have here := each c.toNat (List.mem_range.mpr ascii)
  rwa [Char.ofNat_toNat] at here

theorem toLower_of_ge {c : Char} (beyond : 128 ≤ c.toNat) : c.toLower = c := by
  apply Char.toLower_eq_of_not_isUpper
  simp only [Char.isUpper, UInt32.le_iff_toNat_le, Char.toNat_val, Char.reduceVal,
    UInt32.reduceToNat, decide_eq_true_eq]
  omega

theorem isLower_iff {d : Char} : d.isLower ↔ 97 ≤ d.toNat ∧ d.toNat ≤ 122 := by
  simp [Char.isLower, UInt32.le_iff_toNat_le]

/-- A small letter of ASCII other than k is the lowercase form of no character beyond ASCII, since
each of those keeps its place or moves to one beyond ASCII again.
-/
theorem lowercaseChar_ne {c d : Char} (beyond : 128 ≤ c.toNat) (small : d.isLower) (kelvin : d ≠ 'k')
    : lowercaseChar c ≠ [d] := by
  have bounds := isLower_iff.mp small
  unfold lowercaseChar
  split
  · simp
  · intro same
    have place := congrArg Char.toNat (List.cons.inj same).1
    rw [Char.toNat_ofNat] at place
    have other : d.toNat ≠ 'k'.toNat := fun equal => kelvin (Char.toNat_inj.mp equal)
    have moved : (c.toNat + lowercaseShift lowercaseRuns c.toNat).toNat = d.toNat := by
      split at place
      · exact place
      · omega
    rcases lowercaseShift_cases lowercaseRuns c.toNat with kept | ⟨run, member, above, below, shift⟩
    · omega
    · have k := ascii_or_kelvin run member
      omega

theorem lowercaseChar_eq_iff {c d : Char} (small : d.isLower) (kelvin : d ≠ 'k')
    : lowercaseChar c = [d] ↔ c.toLower = d := by
  by_cases ascii : c.toNat < 128
  · rw [lowercaseChar_ascii ascii, List.singleton_inj]
  · have beyond := Nat.le_of_not_lt ascii
    have bounds := isLower_iff.mp small
    rw [toLower_of_ge beyond]
    constructor
    · intro same
      exact absurd same (lowercaseChar_ne beyond small kelvin)
    · rintro rfl
      omega

-----------------------------------------------------------------------------------------
-- Names
-----------------------------------------------------------------------------------------

/-- A text has a name of small letters without a k as its lowercase form exactly if it spells the
name in some letter case of ASCII. By induction on the text: each character has a lowercase form of
its own, and that of the dotted capital I ends in a mark.
-/
theorem lowercase_eq_iff {name word : Text} (letters : ∀ d ∈ name, d.isLower ∧ d ≠ 'k')
    : lowercase word = name ↔ word.map Char.toLower = name := by
  induction word generalizing name with
  | nil => rfl
  | cons c rest ih =>
      rw [lowercase, List.flatMap_cons, List.map_cons]
      by_cases dotted : c = '\u0130'
      · subst dotted
        constructor
        · rintro rfl
          exact absurd (letters '\u0307' (by simp [lowercaseChar])).1 (by decide)
        · rintro rfl
          exact absurd (letters _ List.mem_cons_self).1 (by decide)
      · obtain ⟨e, single⟩ : ∃ e, lowercaseChar c = [e] := by
          rw [lowercaseChar, if_neg dotted]
          exact ⟨_, rfl⟩
        cases name with
        | nil => simp [single]
        | cons d more =>
            obtain ⟨first, others⟩ := List.forall_mem_cons.mp letters
            have here := lowercaseChar_eq_iff (c := c) first.1 first.2
            have later := ih others
            rw [single, List.singleton_inj] at here
            rw [single, List.singleton_append, List.cons.injEq, List.cons.injEq]
            exact and_congr here later

end KSharp.Unicode
