import Mathlib
import KSharp.Proofs.LexerRuns

/-! No character of an expression is lost: its text is that of its tokens in their order, with
trivia before each token and at most a pipe on either side of a parameter value.
-/

namespace KSharp

/-- A text that consists of tokens and what may stand around them. Trivia before a token is
closed, while the trivia at the end may leave a comment open.
-/
inductive Covers : List Token → Text → Prop where
  | trailing {trivia} (final : Trivia.Final trivia) : Covers [] trivia
  | token {trivia token tokens rest} (ordinary : token.kind ≠ .parameterValue)
    (closed : Trivia.Closed trivia) (more : Covers tokens rest)
    : Covers (token :: tokens) (trivia ++ token.raw ++ rest)
  | value {separator token closing tokens rest} (value : token.kind = .parameterValue)
    (separates : Scan.PipeOrNothing separator) (closes : Scan.PipeOrNothing closing)
    (more : Covers tokens rest)
    : Covers (token :: tokens) (separator ++ token.raw ++ closing ++ rest)

theorem Covers.nil : Covers [] [] := .trailing Trivia.Closed.nil.final

namespace Lexer

/-- The tokens of a run to the end of the text cover the text, by induction on the run. -/
theorem Run.covers {mode phase pos text tokens ending}
    (run : Run mode phase pos text tokens ending) (complete : ending = .complete)
    : Covers tokens text := by
  induction run with
  | token step more ih =>
      obtain ⟨trivia, parts⟩ := Scan.ahead_token step
      rw [parts.source]
      exact .token parts.ordinary parts.closed (ih complete)
  | value step more ih =>
      obtain ⟨separator, closing, parts⟩ := Scan.valueAhead_token step
      rw [parts.source]
      exact .value parts.kind parts.separates parts.closes (ih complete)
  | @ended pos text step =>
      obtain ⟨source, final, _⟩ := Trivia.split_between text
      rw [Scan.ahead_eq_endOfInput_iff.mp step, List.append_nil] at source
      rw [source]
      exact .trailing final
  | failed step => cases complete
  | @supplied pos text step =>
      have pipe := Scan.valueAhead_endOfInput step
      -- The rest of the text is the separator of the value that is supplied behind it.
      let value : Token := .emptyParameterValue (pos + text.length - 1)
      have covers : Covers [value] (text ++ [] ++ [] ++ []) :=
        .value rfl pipe (Or.inl rfl) .nil
      simpa using covers

/-- The tokens of an expression that the strict mode accepts cover it. Witness: the run that
acceptance stands for, which ends with the text.
-/
theorem tokenize_covers {expression tokens} (h : tokenize .strict expression = .ok tokens)
    : Covers tokens expression :=
  (tokenize_strict_eq_ok_iff.mp h).covers rfl

/-- Comments, both pipes around a value and a comment that is cut off are covered. -/
theorem tokenize_covers_commented
    : let expression := "x/*c*/|(a)|v| // end".toList
      let tokens : List Token :=
        [
          ⟨.identifier, ['x'], .text ['x'], 0⟩,
          ⟨.parameter, "|(a)".toList, .text ['a'], 6⟩,
          ⟨.parameterValue, ['v'], .text ['v'], 11⟩
        ]
      tokenize .strict expression = .ok tokens ∧ Covers tokens expression := by
  have accepted : tokenize .strict "x/*c*/|(a)|v| // end".toList
      = .ok
        [
          ⟨.identifier, ['x'], .text ['x'], 0⟩,
          ⟨.parameter, "|(a)".toList, .text ['a'], 6⟩,
          ⟨.parameterValue, ['v'], .text ['v'], 11⟩
        ] := by
    cbv
  exact ⟨accepted, tokenize_covers accepted⟩

end Lexer

end KSharp
