import KSharp.Proofs.EscapeDecoding
import KSharp.Proofs.TokenLaws

/-! The quotes in quoted literals: those of the body are the quotes of the value, so the backslashes
pair up for the decoding as they do for the reader of literals.
-/

namespace KSharp.Escape

/-- The source text of a quoted literal with the body: closed, or without a quote that closes it. -/
def QuotedAround (raw body : Text) : Prop :=
  raw = '"' :: body ++ ['"'] ∧ Lexeme.QuotedBody body
  ∨ raw = '"' :: body ∧ Lexeme.QuotedOpen body

/-- A lawful literal that starts with a quote has a body whose decoding is its value. -/
theorem quotedAround_of_lawful {mode length} {token : Token} (lawful : token.Lawful mode length)
    (string : token.kind = .string) (quote : token.raw.head? = some '"')
    : ∃ body, QuotedAround token.raw body ∧ token.value = .text (unescape body) := by
  obtain ⟨kind, raw, value, offset⟩ := token
  obtain rfl : kind = .string := string
  rcases lawful with law | ⟨-, -, -, body, source, grammar, value⟩
  · have literal : Lexeme.ClosedLiteral raw value := law
    cases literal with
    | @quoted body grammar =>
        refine ⟨body, Or.inl ⟨rfl, grammar⟩, ?_⟩
        rw [unescape_eq_meaning]
    | verbatim pairs single => cases quote
  · rw [← unescape_eq_meaning] at value
    exact ⟨body, Or.inr ⟨source, grammar⟩, value⟩

/-- Decoding does nothing without a backslash, and otherwise it is one pass from the left whose
result is restored. In the literals of a stream it keeps the number of quotes, so it pairs up
backslashes as the reader does. Witness: the units of the text, in which no replacement finds more.
-/
theorem unescape_single_pass
    : (∀ text, unescape text = if '\\' ∈ text then restore (decode text) else text)
      ∧ ∀ mode expression,
          ∀ token ∈ (Lexer.start mode expression).tokens,
            token.kind = .string
            → token.raw.head? = some '"'
            → ∃ body value,
                QuotedAround token.raw body
                ∧ token.value = .text value
                ∧ value.count '"' = body.count '"' := by
  refine ⟨unescape_eq_meaning, ?_⟩
  intro mode expression token member string quote
  obtain ⟨tokens, ending, run, read⟩ := Lexer.exists_run_of_mem member
  have lawful := run.lawful (.start expression) token read
  obtain ⟨body, around, value⟩ := quotedAround_of_lawful lawful string quote
  exact ⟨body, unescape body, around, value, count_unescape body⟩

/-- Of the quotes of a literal that stays open only the first one opens it, the others are kept. -/
theorem unescape_single_pass_open
    : let token : Token := ⟨.string, "\"a\\\"\\\\\\\"".toList, .text "a\"\\\"".toList, 2⟩
      token ∈ (Lexer.start .lenient "x \"a\\\"\\\\\\\"".toList).tokens
      ∧ token.kind = .string
      ∧ token.raw.head? = some '"'
      ∧ ∃ body value,
          QuotedAround token.raw body
          ∧ token.value = .text value
          ∧ value.count '"' = body.count '"' := by
  have tokens : (Lexer.start .lenient "x \"a\\\"\\\\\\\"".toList).tokens
      = [⟨.identifier, ['x'], .text ['x'], 0⟩,
          ⟨.string, "\"a\\\"\\\\\\\"".toList, .text "a\"\\\"".toList, 2⟩] := by
    cbv
  have member : (⟨.string, "\"a\\\"\\\\\\\"".toList, .text "a\"\\\"".toList, 2⟩ : Token)
      ∈ (Lexer.start .lenient "x \"a\\\"\\\\\\\"".toList).tokens := by
    rw [tokens]
    simp
  exact ⟨member, rfl, rfl, unescape_single_pass.2 .lenient _ _ member rfl rfl⟩

end KSharp.Escape
