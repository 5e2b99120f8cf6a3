import KSharp.Proofs.LiteralBodies

/-! String literals that are never closed, by the quotes behind the opening one: in a quoted literal
a backslash of an odd run before a quote takes it along, in a verbatim one quotes pair up.
-/

namespace KSharp

-----------------------------------------------------------------------------------------
-- Runs at the end of a text
-----------------------------------------------------------------------------------------

namespace Text

/-- The number of characters of a class at the end of the text, counted back from there. -/
def countEnd (p : Char → Bool) (text : Text) : Nat := (text.reverse.takeWhile p).length

theorem countEnd_le (p : Char → Bool) (text : Text) : countEnd p text ≤ text.length := by
  have shorter := (List.takeWhile_prefix (l := text.reverse) p).length_le
  rwa [List.length_reverse] at shorter

/-- A character in front of a text joins the run at its end only if the run is the whole text. -/
theorem countEnd_cons (p : Char → Bool) (c : Char) (text : Text)
    : countEnd p (c :: text)
      = if countEnd p text = text.length ∧ p c then text.length + 1 else countEnd p text := by
  simp only [countEnd, List.reverse_cons, List.takeWhile_append, List.length_reverse]
  by_cases whole : (text.reverse.takeWhile p).length = text.length
  · cases holds : p c <;> simp [whole, holds]
  · simp [whole]

/-- Two characters in front of a text, the first one of the class, keep the parity of the run at its
end: they join it together or not at all.
-/
theorem countEnd_pair {p : Char → Bool} {c : Char} (holds : p c) (d : Char) (text : Text)
    : countEnd p (c :: d :: text) % 2 = countEnd p text % 2 := by
  have bound := countEnd_le p text
  simp only [countEnd_cons, holds, and_true, List.length_cons]
  split
  · split at * <;> omega
  · split at * <;> omega

end Text

namespace Lexeme

-----------------------------------------------------------------------------------------
-- Quoted literals
-----------------------------------------------------------------------------------------

/-- No quote closes the text behind an opening quote: before each one stands an odd run of
backslashes.
-/
def QuotedOpen (text : Text) : Prop :=
  ∀ front after,
    text = front ++ '"' :: after → Text.countEnd (fun c => c = '\\') front % 2 = 1

/-- Where no body of a quoted literal is read none is closed, by induction along the reader's
recursion: a backslash and the character that it takes along keep the parity of a run.
-/
theorem quotedOpen_of_none {text} (h : quotedBody? text = none) : QuotedOpen text := by
  fun_induction quotedBody? text with
  | case1 =>
      intro front after equal
      simp at equal
  | case2 c rest ih =>
      intro front after equal
      have later := ih (Option.map_eq_none_iff.mp h)
      cases front with
      | nil => cases equal
      | cons d front =>
          cases front with
          | nil =>
              cases equal
              rfl
          | cons e front =>
              cases equal
              rw [Text.countEnd_pair rfl]
              exact later front after rfl
  | case3 rest => cases h
  | case4 c rest alone quote ih =>
      intro front after equal
      have later := ih (Option.map_eq_none_iff.mp h)
      cases front with
      | nil =>
          cases equal
          exact absurd rfl quote
      | cons d front =>
          cases equal
          have other : c ≠ '\\' := by
            intro backslash
            cases front with
            | nil => exact alone _ _ backslash rfl
            | cons e front => exact alone _ _ backslash rfl
          rw [Text.countEnd_cons, if_neg (by simp [other])]
          exact later front after rfl

/-- The run of backslashes at the end of a body is even, by induction on the grammar. -/
theorem QuotedBody.even {body} (grammar : QuotedBody body)
    : Text.countEnd (fun c => c = '\\') body % 2 = 0 := by
  induction grammar with
  | nil => rfl
  | escaped more ih =>
      rw [Text.countEnd_pair rfl]
      exact ih
  | kept quote backslash more ih =>
      rw [Text.countEnd_cons, if_neg (by simp [backslash])]
      exact ih

/-- In an open literal no body is read, since an even run would stand before its closing quote. -/
theorem QuotedOpen.quotedBody? {text} (literal : QuotedOpen text) : quotedBody? text = none := by
  cases read : Lexeme.quotedBody? text with
  | none => rfl
  | some body =>
      obtain ⟨grammar, after, whole⟩ := quotedBody?_sound read
      have odd := literal body after whole
      have even := grammar.even
      omega

-----------------------------------------------------------------------------------------
-- Verbatim literals
-----------------------------------------------------------------------------------------

/-- No quote closes the text behind an at sign and an opening quote: each longest run of quotes in
it is even.
-/
def VerbatimOpen (text : Text) : Prop :=
  ∀ front n after,
    text = front ++ (List.replicate n '"' ++ after)
    → front.getLast? ≠ some '"'
    → after.head? ≠ some '"'
    → n % 2 = 0

/-- Where no body of a verbatim literal is read none is closed, by induction along the reader's
recursion: two quotes keep the parity of a run.
-/
theorem verbatimOpen_of_none {text} (h : verbatimBody? text = none) : VerbatimOpen text := by
  fun_induction verbatimBody? text with
  | case1 =>
      intro front n after equal _ _
      simp only [List.nil_eq, List.append_eq_nil_iff, List.replicate_eq_nil_iff] at equal
      rw [equal.2.1]
  | case2 rest ih =>
      intro front n after equal before behind
      have later := ih (Option.map_eq_none_iff.mp h)
      cases front with
      | nil =>
          -- The run starts the text, so it takes both quotes.
          rcases n with _ | _ | n
          · rfl
          · cases equal
            exact absurd rfl behind
          · simp only [List.nil_append, List.replicate_succ, List.cons_append, List.cons.injEq,
              true_and] at equal
            have even := later [] n after equal (by simp) behind
            omega
      | cons c front =>
          cases front with
          | nil =>
              obtain ⟨rfl, -⟩ := List.cons.inj equal
              exact absurd rfl before
          | cons d front =>
              cases equal
              refine later front n after rfl ?_ behind
              intro last
              apply before
              simp [List.getLast?_cons, last]
  | case3 rest single => cases h
  | case4 c rest _ quote ih =>
      intro front n after equal before behind
      have later := ih (Option.map_eq_none_iff.mp h)
      cases front with
      | nil =>
          cases n with
          | zero => rfl
          | succ n =>
              cases equal
              exact absurd rfl quote
      | cons d front =>
          cases equal
          refine later front n after rfl ?_ behind
          intro last
          apply before
          simp [List.getLast?_cons, last]

end Lexeme

end KSharp
