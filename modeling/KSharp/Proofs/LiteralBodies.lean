import KSharp.Lexeme.StringLiteral

/-! The bodies of string literals as grammars, and that the readers find exactly these bodies in
front of a closing quote.
-/

namespace KSharp.Lexeme

/-- The body of a quoted literal: each backslash takes the next character along, and no other
quote stands in it.
-/
inductive QuotedBody : Text → Prop where
  | nil : QuotedBody []
  | escaped {c body} (more : QuotedBody body) : QuotedBody ('\\' :: c :: body)
  | kept {c body} (quote : c ≠ '"') (backslash : c ≠ '\\') (more : QuotedBody body)
    : QuotedBody (c :: body)

/-- The body of a verbatim literal: quotes stand in it as pairs only. -/
inductive VerbatimBody : Text → Prop where
  | nil : VerbatimBody []
  | quotes {body} (more : VerbatimBody body) : VerbatimBody ('"' :: '"' :: body)
  | kept {c body} (quote : c ≠ '"') (more : VerbatimBody body) : VerbatimBody (c :: body)

-----------------------------------------------------------------------------------------
-- Quoted bodies
-----------------------------------------------------------------------------------------

theorem quotedBody?_cons {c : Char} {rest : Text} (quote : c ≠ '"') (backslash : c ≠ '\\')
    : quotedBody? (c :: rest) = (quotedBody? rest).map (c :: ·) := by
  rw [quotedBody?, if_neg quote]
  rintro d more rfl
  exact absurd rfl backslash

/-- A body is read up to the quote behind it, whatever follows, by induction on the grammar. -/
theorem QuotedBody.read {body} (grammar : QuotedBody body) (after : Text)
    : quotedBody? (body ++ '"' :: after) = some body := by
  induction grammar with
  | nil => simp [quotedBody?]
  | escaped more ih => simp [quotedBody?, ih]
  | kept quote backslash more ih =>
      rw [List.cons_append, quotedBody?_cons quote backslash, ih, Option.map_some]

/-- Whatever is read is a body with a quote behind it, by induction along the reader's
recursion. A backslash at the very end of the text escapes nothing and closes nothing.
-/
theorem quotedBody?_sound {text body} (h : quotedBody? text = some body)
    : QuotedBody body ∧ ∃ after, text = body ++ '"' :: after := by
  fun_induction quotedBody? text generalizing body with
  | case1 => cases h
  | case2 c rest ih =>
      obtain ⟨more, read, rfl⟩ := Option.map_eq_some_iff.mp h
      obtain ⟨grammar, after, rfl⟩ := ih read
      exact ⟨.escaped grammar, after, rfl⟩
  | case3 rest =>
      cases h
      exact ⟨.nil, rest, rfl⟩
  | case4 c rest alone quote ih =>
      obtain ⟨more, read, rfl⟩ := Option.map_eq_some_iff.mp h
      obtain ⟨grammar, after, rfl⟩ := ih read
      refine ⟨.kept quote ?_ grammar, after, rfl⟩
      rintro rfl
      cases more with
      | nil => exact alone '"' after rfl rfl
      | cons d more => exact alone d (more ++ '"' :: after) rfl rfl

-----------------------------------------------------------------------------------------
-- Verbatim bodies
-----------------------------------------------------------------------------------------

/-- A body is read up to the quote behind it, unless that quote is the first of two, by induction
on the grammar.
-/
theorem VerbatimBody.read {body} (grammar : VerbatimBody body) {after : Text}
    (closes : after.head? ≠ some '"')
    : verbatimBody? (body ++ '"' :: after) = some body := by
  induction grammar with
  | nil =>
      rw [List.nil_append, verbatimBody?, if_pos rfl]
      rintro more _ rfl
      exact closes rfl
  | quotes more ih => simp [verbatimBody?, ih]
  | kept quote more ih =>
      rw [List.cons_append, verbatimBody?, if_neg quote, ih, Option.map_some]
      rintro rest rfl _
      exact quote rfl

/-- Whatever is read is a body with a single quote behind it, by induction along the reader's
recursion.
-/
theorem verbatimBody?_sound {text body} (h : verbatimBody? text = some body)
    : VerbatimBody body ∧ ∃ after, text = body ++ '"' :: after ∧ after.head? ≠ some '"' := by
  fun_induction verbatimBody? text generalizing body with
  | case1 => cases h
  | case2 rest ih =>
      obtain ⟨more, read, rfl⟩ := Option.map_eq_some_iff.mp h
      obtain ⟨grammar, after, rfl, closes⟩ := ih read
      exact ⟨.quotes grammar, after, rfl, closes⟩
  | case3 rest single =>
      cases h
      refine ⟨.nil, rest, rfl, ?_⟩
      intro pair
      obtain ⟨more, rfl⟩ := List.head?_eq_some_iff.mp pair
      exact single more rfl rfl
  | case4 c rest _ quote ih =>
      obtain ⟨more, read, rfl⟩ := Option.map_eq_some_iff.mp h
      obtain ⟨grammar, after, rfl, closes⟩ := ih read
      exact ⟨.kept quote grammar, after, rfl, closes⟩

end KSharp.Lexeme
