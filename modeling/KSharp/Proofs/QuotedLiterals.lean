import KSharp.Proofs.EscapeRoundTrip
import KSharp.Proofs.LexemeSteps

/-! Escaped text between quotes is one string literal, whatever stands around it. -/

namespace KSharp

namespace Lexeme

theorem QuotedBody.append {body more} (front : QuotedBody body) (back : QuotedBody more)
    : QuotedBody (body ++ more) := by
  induction front with
  | nil => exact back
  | escaped _ ih => exact .escaped ih
  | kept quote backslash _ ih => exact .kept quote backslash ih

/-- Each escape sequence can stand between quotes, which the reader of bodies confirms. -/
theorem quotedBody_escaped {s : Escape.Sequence} (member : s ∈ Escape.table)
    : QuotedBody s.escaped := by
  have each : ∀ s ∈ Escape.table, quotedBody? (s.escaped ++ ['"']) = some s.escaped := by
    decide
  exact (quotedBody?_sound (each s member)).1

/-- Escaped text can stand between quotes, by the units of the encoding: each backslash in it
takes along the character that was escaped, and a quote is never kept as it is.
-/
theorem quotedBody_encode (text : Text) : QuotedBody (Escape.encode ['\\', '\\'] text) := by
  induction text using Escape.encode_induction with
  | nil => exact .nil
  | backslash c rest stands ih =>
      rw [Escape.encode_backslash stands]
      exact .escaped ih
  | known s member rest ih =>
      rw [Escape.encode_known member]
      exact (quotedBody_escaped member).append ih
  | plain c rest plain ih =>
      have quote : c ≠ '"' := by
        rintro rfl
        exact plain.starts ⟨['\\', '"'], ['"']⟩ (by decide) (List.prefix_append ['"'] rest)
      have backslash : c ≠ '\\' := by
        rintro rfl
        exact absurd plain.ordinary (by decide)
      rw [Escape.encode_plain plain]
      exact .kept quote backslash ih

end Lexeme

namespace Scan

/-- In either mode, where a text stands escaped between quotes, a step reads just that literal and
moves behind its closing quote. Its value is the text with every placeholder turned into a
backslash, so the text itself if it holds none. Witness: the grammar of quoted bodies.
-/
theorem tokenAt_escaped (mode : Mode) (before text after : Text)
    : let literal := '"' :: Escape.escape text ++ ['"']
      tokenAt mode (before ++ (literal ++ after)) before.length
          = .token ⟨.string, literal, .text (Escape.restore text), before.length⟩
              (before.length + literal.length)
        ∧ (Escape.placeholder ∉ text → Escape.restore text = text) := by
  intro literal
  refine ⟨?_, Escape.restore_eq_self_iff.mpr⟩
  have grammar : Lexeme.QuotedBody (Escape.escape text) := by
    rw [Escape.escape_eq_encode]
    exact Lexeme.quotedBody_encode text
  have reads : Lexeme.Reads .string literal (.text (Escape.restore text)) after := by
    rw [← Escape.unescape_escape]
    exact .quoted grammar
  have absent : Trivia.Absent (literal ++ after) :=
    Trivia.absent_cons (by decide) (by decide) _
  have step := ahead_of_reads .nil absent reads mode before.length
  rw [tokenAt, List.drop_left]
  simpa using step

/-- A text of quotes, backslashes and a closing mark of markup is safe before another quote. -/
theorem tokenAt_escaped_quotes
    : let text := "\\\"%\x7d\\".toList
      let literal := "\"\\\\\\\"\\%\x7d\\\\\"".toList
      tokenAt .lenient (['x'] ++ (literal ++ ['"'])) 1
          = .token ⟨.string, literal, .text text, 1⟩ 12
        ∧ Escape.placeholder ∉ text := by
  have free : Escape.placeholder ∉ "\\\"%\x7d\\".toList := by decide
  have read := tokenAt_escaped .lenient ['x'] "\\\"%\x7d\\".toList ['"']
  have escaped : '"' :: Escape.escape "\\\"%\x7d\\".toList ++ ['"']
      = "\"\\\\\\\"\\%\x7d\\\\\"".toList := by
    decide
  have length : (['x'].length + "\"\\\\\\\"\\%\x7d\\\\\"".toList.length) = 12 := by decide
  simp only [escaped, read.2 free, length] at read
  exact ⟨read.1, free⟩

end Scan

end KSharp
