import KSharp.Lexeme.Progress
import KSharp.Trivia

/-! One step of reading at a position: a token, the value of a parameter, the end of the input
or an error. A step that yields something moves on, which is why reading a text ends.
-/

namespace KSharp

/-- The outcome of one step. A token comes with the position behind what was read. -/
inductive Scan where
  | token (token : Token) (next : Nat)
  | endOfInput
  | error (cause : LexError.Cause) (offset : Nat)
deriving DecidableEq

/-- The outcome of a lexeme that stands at an offset. -/
def Lexeme.placed (offset : Nat) : Lexeme → Scan
  | .found kind raw value => .token ⟨kind, raw, value, offset⟩ (offset + raw.length)
  | .rejected cause => .error cause offset

namespace Scan

/-- The step on a text whose first character has a position: trivia is skipped, then one
lexeme is read.
-/
def ahead (mode : Mode) (pos : Nat) (text : Text) : Scan :=
  let (trivia, after) := Trivia.split .between text
  match after with
  | [] => .endOfInput
  | c :: rest => (Lexeme.read mode c rest).placed (pos + trivia.length)

/-- The step at a position of an expression, which may lie behind its end. -/
def tokenAt (mode : Mode) (expression : Text) (pos : Nat) : Scan :=
  ahead mode pos (expression.drop pos)

/-- Whether a pipe that belongs to the value, and starts no parameter, is in front. -/
def startsWithDelimiter (text : Text) : Bool := text.head? = some '|' && !Parameter.starts text

/-- The parameter value in front of a text whose first character has a position. One pipe
before the value separates it, one behind it closes it, and neither may start a parameter.
An empty value directly in front of a parameter is placed on its separator, or else on the
character before it, so that it shares no offset with that parameter.
-/
def valueAhead (pos : Nat) (text : Text) : Scan :=
  let separator := if startsWithDelimiter text then 1 else 0
  let start := pos + separator
  match text.drop separator with
  | [] => .endOfInput
  | c :: rest =>
    let (raw, after) := Parameter.splitValue (c :: rest)
    let closing := if startsWithDelimiter after then 1 else 0
    let next := start + raw.length + closing
    let offset := if next = start then pos - (1 - separator) else start
    .token ⟨.parameterValue, raw, .text (Escape.unescapePipes raw), offset⟩ next

/-- The parameter value at a position of an expression, which may lie behind its end. -/
def valueAt (expression : Text) (pos : Nat) : Scan := valueAhead pos (expression.drop pos)

-----------------------------------------------------------------------------------------
-- Progress
-----------------------------------------------------------------------------------------

/-- A token or an error is read only where trivia leaves a character of the text. -/
theorem ahead_ne_endOfInput {mode pos text}
    (h : ahead mode pos text ≠ .endOfInput)
    : text ≠ [] := by
  rintro rfl
  exact h rfl

/-- A step to a token moves past its first character. -/
theorem lt_of_ahead {mode pos text token next}
    (h : ahead mode pos text = .token token next)
    : pos < next := by
  unfold ahead at h
  split at h
  split at h
  · cases h
  · next trivia _ _ c rest _ =>
    have hasText := Lexeme.read_hasText mode c rest
    revert h hasText
    cases Lexeme.read mode c rest with
    | rejected cause => intro h; cases h
    | found kind raw value =>
      intro h hasText
      simp only [Lexeme.placed, Scan.token.injEq] at h
      have : 0 < raw.length := List.length_pos_iff.2 hasText
      omega

/-- A token or an error is read only at a position inside the expression. -/
theorem inside_of_tokenAt {mode expression pos scan}
    (h : tokenAt mode expression pos = scan) (more : scan ≠ .endOfInput)
    : pos < expression.length := by
  have := ahead_ne_endOfInput (h ▸ more)
  simpa using this

/-- A value step yields a parameter value and never goes back. -/
theorem kind_of_valueAhead {pos text token next}
    (h : valueAhead pos text = .token token next)
    : token.kind = .parameterValue ∧ pos ≤ next := by
  simp only [valueAhead] at h
  split at h
  · cases h
  · simp only [Scan.token.injEq] at h
    obtain ⟨rfl, rfl⟩ := h
    exact ⟨rfl, by omega⟩

/-- A value step is no error. -/
theorem valueAhead_ne_error {pos text cause offset}
    : valueAhead pos text ≠ .error cause offset := by
  simp only [valueAhead]
  split <;> exact Scan.noConfusion

end Scan

end KSharp
