import KSharp.Proofs.EscapeEncoding
import KSharp.Proofs.OpenLiterals

/-! Escaped text is inert: it holds none of the control characters that the table escapes, and an
odd run of backslashes stands before each quote and each closing mark of markup in it.
-/

namespace KSharp

namespace Escape

/-- The control characters that are literals of the table. -/
def controls : Text := (table.flatMap Sequence.literal).filter (fun c => c.toNat < 32)

/-- The marks that could close a literal or markup around a text. -/
def closers : List Text := [['\''], ['"'], ['%', '}']]

/-- Before each place in the text where the mark stands the run of backslashes is odd. -/
def Guarded (mark text : Text) : Prop :=
  ∀ front after,
    text = front ++ (mark ++ after) → Text.countEnd (fun c => c = '\\') front % 2 = 1

-----------------------------------------------------------------------------------------
-- Guarded marks
-----------------------------------------------------------------------------------------

theorem Guarded.nil {mark : Text} (nonempty : mark ≠ []) : Guarded mark [] := by
  intro front after equal
  obtain ⟨-, nothing⟩ := List.append_eq_nil_iff.mp equal.symm
  exact absurd (List.append_eq_nil_iff.mp nothing).1 nonempty

/-- Marks stay guarded behind a character that is no backslash, if none starts there. -/
theorem Guarded.cons {mark text : Text} (guarded : Guarded mark text) {c : Char}
    (other : c ≠ '\\') (absent : ¬mark <+: c :: text)
    : Guarded mark (c :: text) := by
  intro front after equal
  cases front with
  | nil => exact absurd ⟨after, equal.symm⟩ absent
  | cons d front =>
      obtain ⟨rfl, later⟩ := List.cons.inj equal
      rw [Text.countEnd_cons, if_neg (by simp [other])]
      exact guarded front after later

/-- Marks stay guarded behind a backslash and the character that it takes along: a mark that starts
with that character has this backslash before it, and later runs keep their parity.
-/
theorem Guarded.pair {mark text : Text} (guarded : Guarded mark text)
    (first : ∃ d more, mark = d :: more ∧ d ≠ '\\') (c : Char)
    : Guarded mark ('\\' :: c :: text) := by
  intro front after equal
  obtain ⟨d, more, rfl, other⟩ := first
  cases front with
  | nil => exact absurd (List.cons.inj equal).1.symm other
  | cons e front =>
      cases front with
      | nil =>
          obtain ⟨rfl, -⟩ := List.cons.inj equal
          rfl
      | cons f front =>
          cases equal
          rw [Text.countEnd_pair rfl]
          exact guarded front after rfl

/-- A closing mark is a literal of the table, and no backslash is in front of it. -/
theorem literal_of_closer {mark : Text} (closer : mark ∈ closers)
    : (∃ s ∈ table, s.literal = mark) ∧ ∃ d more, mark = d :: more ∧ d ≠ '\\' := by
  have literals : ∀ mark ∈ closers, ∃ s ∈ table, s.literal = mark := by decide
  have heads : ∀ mark ∈ closers, mark ≠ [] ∧ mark.head? ≠ some '\\' := by decide
  obtain ⟨nonempty, head⟩ := heads mark closer
  obtain ⟨d, more, rfl⟩ := List.exists_cons_of_ne_nil nonempty
  refine ⟨literals _ closer, d, more, rfl, ?_⟩
  intro backslash
  exact head (congrArg some backslash)

-----------------------------------------------------------------------------------------
-- The encoding guards what it escapes
-----------------------------------------------------------------------------------------

/-- Each escape sequence is a backslash and a character, and for markup a brace behind them. -/
theorem escaped_pair {s : Sequence} (member : s ∈ table)
    : ∃ c more, s.escaped = '\\' :: c :: more ∧ (more = [] ∨ more = ['}']) := by
  have shapes : ∀ s ∈ table,
      s.escaped.length ≠ 1 ∧ s.escaped.head? = some '\\'
      ∧ (s.escaped.drop 2 = [] ∨ s.escaped.drop 2 = ['}']) := by
    decide
  obtain ⟨length, head, behind⟩ := shapes s member
  obtain ⟨tail, equal⟩ := List.head?_eq_some_iff.mp head
  cases tail with
  | nil => exact absurd (congrArg List.length equal) length
  | cons c more => exact ⟨c, more, equal, by simpa [equal] using behind⟩

/-- What the encoding starts with is the start of the text or a backslash. -/
theorem head?_encode (text : Text)
    : (encode ['\\', '\\'] text).head? = text.head?
      ∨ (encode ['\\', '\\'] text).head? = some '\\' := by
  induction text using encode_induction with
  | nil => exact Or.inl rfl
  | backslash c rest stands ih =>
      rw [encode_backslash stands]
      exact Or.inr rfl
  | known s member rest ih =>
      obtain ⟨c, more, escaped, -⟩ := escaped_pair member
      rw [encode_known member, escaped]
      exact Or.inr rfl
  | plain c rest plain ih =>
      rw [encode_plain plain]
      exact Or.inl rfl

/-- The encoding guards the closing marks, by the units of the text: what it escapes stands behind a
backslash of its own.
-/
theorem guarded_encode {mark : Text} (closer : mark ∈ closers) (text : Text)
    : Guarded mark (encode ['\\', '\\'] text) := by
  obtain ⟨⟨literal, known, rfl⟩, first⟩ := literal_of_closer closer
  induction text using encode_induction with
  | nil =>
      obtain ⟨d, more, equal, -⟩ := first
      exact Guarded.nil (by simp [equal])
  | backslash c rest stands ih =>
      rw [encode_backslash stands]
      exact ih.pair first '\\'
  | known s member rest ih =>
      obtain ⟨c, more, escaped, shape⟩ := escaped_pair member
      rw [encode_known member, escaped]
      rcases shape with rfl | rfl
      · exact ih.pair first c
      · have brace : ∀ mark ∈ closers, mark.head? ≠ some '}' := by decide
        have absent : ¬literal.literal <+: '}' :: encode ['\\', '\\'] rest := by
          intro starts
          obtain ⟨after, equal⟩ := starts
          obtain ⟨d, more, shape, -⟩ := first
          apply brace literal.literal closer
          rw [shape] at equal ⊢
          exact congrArg some (List.cons.inj equal).1
        exact (ih.cons (by decide) absent).pair first c
  | plain c rest plain ih =>
      have other : c ≠ '\\' := by
        intro backslash
        subst backslash
        exact absurd plain.ordinary (by decide)
      have brace (first : (encode ['\\', '\\'] rest).head? = some '}')
          : rest.head? = some '}' := by
        rcases head?_encode rest with same | backslash
        · exact same.symm.trans first
        · cases backslash.symm.trans first
      rw [encode_plain plain]
      exact ih.cons other (plain.absent (fun _ => brace) known)

/-- The encoding holds no control character of the table, by the units of the text. -/
theorem control_notMem_encode {c : Char} (control : c ∈ controls) (text : Text)
    : c ∉ encode ['\\', '\\'] text := by
  have facts : controls.all
      (fun c => c ≠ '\\' ∧ (∀ s ∈ table, c ∉ s.escaped) ∧ ∃ s ∈ table, s.literal = [c]) := by
    decide
  obtain ⟨other, absent, literal, known, single⟩ :=
    of_decide_eq_true (List.all_eq_true.mp facts c control)
  induction text using encode_induction with
  | nil => exact List.not_mem_nil
  | backslash d rest stands ih =>
      rw [encode_backslash stands]
      simp [other, ih]
  | known s member rest ih =>
      rw [encode_known member]
      simp [absent s member, ih]
  | plain d rest plain ih =>
      have kept : c ≠ d := by
        intro same
        subst same
        apply plain.starts literal known
        rw [single]
        exact List.prefix_append [c] rest
      rw [encode_plain plain]
      simp [kept, ih]

end Escape

-----------------------------------------------------------------------------------------
-- Quotes that close
-----------------------------------------------------------------------------------------

namespace Lexeme

/-- A text whose quotes are guarded closes no literal: the quote that closes one stands behind an
even run of backslashes.
-/
theorem quotedBody?_of_guarded {text} (guarded : Escape.Guarded ['"'] text)
    : quotedBody? text = none := by
  cases read : quotedBody? text with
  | none => rfl
  | some body =>
      obtain ⟨grammar, after, equal⟩ := quotedBody?_sound read
      have odd := guarded body after equal
      have even := grammar.even
      omega

end Lexeme

namespace Escape

/-- Escaping is the encoding from left to right that writes backslashes and placeholders as two
backslashes and escapes the literals of the table. Its result holds no control character of the
table and guards the marks that close literals and markup, so no quote of it closes a literal.
Witness: the units of the text.
-/
theorem escape_inert (text : Text)
    : escape text = encode ['\\', '\\'] text
      ∧ (∀ c ∈ controls, c ∉ escape text)
      ∧ (∀ mark ∈ closers, Guarded mark (escape text))
      ∧ Lexeme.quotedBody? (escape text) = none := by
  rw [escape_eq_encode]
  refine ⟨rfl, ?_, ?_, ?_⟩
  · intro c control
    exact control_notMem_encode control text
  · intro mark closer
    exact guarded_encode closer text
  · exact Lexeme.quotedBody?_of_guarded (guarded_encode (by decide) text)

/-- A mark of markup behind a line feed and a backslash is guarded by three backslashes. -/
theorem escape_inert_markup
    : let front := "\\n\\\\\\".toList
      escape "\n\\%\x7d".toList = front ++ (['%', '}'] ++ [])
        ∧ '\n' ∈ controls
        ∧ '\n' ∉ escape "\n\\%\x7d".toList
        ∧ ['%', '}'] ∈ closers
        ∧ Text.countEnd (fun c => c = '\\') front % 2 = 1 := by
  intro front
  have escaped : escape "\n\\%\x7d".toList = front ++ (['%', '}'] ++ []) := by decide
  have control : '\n' ∈ controls := by decide
  have closer : ['%', '}'] ∈ closers := by decide
  obtain ⟨-, absent, guarded, -⟩ := escape_inert "\n\\%\x7d".toList
  exact ⟨escaped, control, absent '\n' control, closer, guarded _ closer front [] escaped⟩

end Escape

end KSharp
