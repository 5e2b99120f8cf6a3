import KSharp.Proofs.LexemeFronts
import KSharp.Proofs.LexemeKinds
import KSharp.Proofs.ParameterValues
import KSharp.Proofs.TriviaGrammar

/-! What one step reads: which characters of the text ahead go into trivia, into the token and
into the pipes around a parameter value, and where the token is placed.
-/

namespace KSharp

-----------------------------------------------------------------------------------------
-- Steps to tokens of the expression
-----------------------------------------------------------------------------------------

theorem Lexeme.placed_eq_token_iff {offset lexeme token next}
    : placed offset lexeme = .token token next
      ↔ lexeme = .found token.kind token.raw token.value
        ∧ token.offset = offset
        ∧ next = token.stop := by
  obtain ⟨kind, raw, value, place⟩ := token
  cases lexeme with
  | rejected cause => simp [placed]
  | found kind' raw' value' =>
      simp only [placed, Scan.token.injEq, Token.mk.injEq, Lexeme.found.injEq, Token.stop]
      constructor
      · rintro ⟨⟨rfl, rfl, rfl, rfl⟩, rfl⟩
        exact ⟨⟨rfl, rfl, rfl⟩, rfl, rfl⟩
      · rintro ⟨⟨rfl, rfl, rfl⟩, rfl, rfl⟩
        exact ⟨⟨rfl, rfl, rfl, rfl⟩, rfl⟩

theorem Lexeme.placed_eq_error_iff {place lexeme cause offset}
    : placed place lexeme = .error cause offset
      ↔ lexeme = .rejected cause ∧ offset = place := by
  cases lexeme <;> simp [placed, eq_comm]

theorem Lexeme.placed_inj {offset : Nat} {lexeme other : Lexeme}
    : placed offset lexeme = placed offset other ↔ lexeme = other := by
  cases lexeme <;> cases other <;> simp +contextual [placed]

namespace Scan

/-- A step yields a token exactly if a lexeme is found behind the trivia; the token stands
where the trivia ends, and reading goes on where the token ends.
-/
theorem ahead_eq_token_iff {mode pos text token next}
    : ahead mode pos text = .token token next
      ↔ ∃ trivia c rest,
          Trivia.split .between text = (trivia, c :: rest)
          ∧ Lexeme.read mode c rest = .found token.kind token.raw token.value
          ∧ token.offset = pos + trivia.length
          ∧ next = token.stop := by
  rcases cut : Trivia.split .between text with ⟨trivia, _ | ⟨c, rest⟩⟩
  · simp [ahead, cut]
  · simp [ahead, cut, Lexeme.placed_eq_token_iff, and_assoc]

theorem ahead_eq_error_iff {mode pos text cause offset}
    : ahead mode pos text = .error cause offset
      ↔ ∃ trivia c rest,
          Trivia.split .between text = (trivia, c :: rest)
          ∧ Lexeme.read mode c rest = .rejected cause
          ∧ offset = pos + trivia.length := by
  rcases cut : Trivia.split .between text with ⟨trivia, _ | ⟨c, rest⟩⟩
  · simp [ahead, cut]
  · simp [ahead, cut, Lexeme.placed_eq_error_iff, and_assoc]

theorem ahead_eq_endOfInput_iff {mode pos text}
    : ahead mode pos text = .endOfInput
      ↔ (Trivia.split .between text).2 = [] := by
  rcases cut : Trivia.split .between text with ⟨trivia, _ | ⟨c, rest⟩⟩
  · simp [ahead, cut]
  · cases read : Lexeme.read mode c rest <;> simp [ahead, cut, read, Lexeme.placed]

/-- What a step to a token reads: closed trivia and the token behind it, which together are
what the step moves past. The token is no parameter value, and a parameter has a name between
its marks.
-/
structure TokenStep (pos : Nat) (text : Text) (token : Token) (next : Nat) (trivia : Text)
    : Prop where
  closed : Trivia.Closed trivia
  source : text = trivia ++ token.raw ++ text.drop (next - pos)
  moves : next = pos + (trivia ++ token.raw).length
  nonempty : token.raw ≠ []
  offset : token.offset = pos + trivia.length
  ordinary : token.kind ≠ .parameterValue
  named : token.kind = .parameter → ∃ name, token.raw = Parameter.source name

/-- Every step to a token reads one in this way, by the cut behind the trivia and the lexeme
that is found there.
-/
theorem ahead_token {mode pos text token next} (h : ahead mode pos text = .token token next)
    : ∃ trivia, TokenStep pos text token next trivia := by
  obtain ⟨trivia, c, rest, cut, read, offset, rfl⟩ := ahead_eq_token_iff.mp h
  obtain ⟨source, _, closed⟩ := Trivia.split_between text
  have front := Lexeme.read_frontOf mode c rest
  have nonempty := Lexeme.read_hasText mode c rest
  have names := Lexeme.read_namesParameter mode c rest
  simp only [cut] at source closed
  rw [read] at front nonempty names
  obtain ⟨after, same⟩ := front
  have moved : token.stop = pos + (trivia ++ token.raw).length := by
    simp only [Token.stop, List.length_append]
    omega
  refine ⟨trivia, closed (by simp), ?_, moved, nonempty, offset, names.1, ?_⟩
  · rw [moved, Nat.add_sub_cancel_left, source, ← same, ← List.append_assoc, List.drop_left]
  · intro parameter
    obtain ⟨name, _, named⟩ := names.2 parameter
    exact ⟨name, named⟩

theorem ahead_moves {mode pos text token next} (h : ahead mode pos text = .token token next)
    : pos < next ∧ next ≤ pos + text.length := by
  obtain ⟨trivia, step⟩ := ahead_token h
  have length := congrArg List.length step.source
  rw [List.length_append] at length
  have moves := step.moves
  exact ⟨lt_of_ahead h, by omega⟩

-----------------------------------------------------------------------------------------
-- Steps to parameter values
-----------------------------------------------------------------------------------------

/-- One of the two places around a parameter value, where a pipe may stand. -/
def PipeOrNothing (text : Text) : Prop := text = [] ∨ text = ['|']

theorem Delimits.pipeOrNothing {pipe after : Text} (delimits : Delimits pipe after)
    : PipeOrNothing pipe := by
  unfold Delimits at delimits
  split at delimits
  · exact Or.inr delimits
  · exact Or.inl delimits

/-- What a step to a parameter value reads: a separator, the value and a closing pipe, which
together are what the step moves past. The value stands behind the separator, except that an
empty one which no pipe closes is placed on the separator, or on the character before it if
there is none.
-/
structure ValueStep (pos : Nat) (text : Text) (token : Token) (next : Nat)
    (separator closing : Text)
    : Prop where
  kind : token.kind = .parameterValue
  separates : PipeOrNothing separator
  closes : PipeOrNothing closing
  source : text = separator ++ token.raw ++ closing ++ text.drop (next - pos)
  moves : next = pos + (separator ++ token.raw ++ closing).length
  inside : separator.length < text.length
  offset
    : token.offset
      = if token.raw = [] ∧ closing = [] then pos - (1 - separator.length)
        else pos + separator.length

/-- Every step to a parameter value reads one in this way. -/
theorem valueAhead_token {pos text token next} (h : valueAhead pos text = .token token next)
    : ∃ separator closing, ValueStep pos text token next separator closing := by
  obtain ⟨separator, raw, closing, reads, source, rfl, moves⟩ := valueAhead_reads h
  refine ⟨separator, closing, rfl, reads.separates.pipeOrNothing, reads.closes.pipeOrNothing,
    ?_, ?_, ?_, rfl⟩
  · simpa [valueToken] using source
  · simpa [valueToken] using moves
  · have more : 0 < (raw ++ (closing ++ text.drop (next - pos))).length :=
      List.length_pos_iff.mpr reads.nonempty
    rw [source, List.append_assoc, List.append_assoc, List.length_append]
    omega

theorem valueAhead_moves {pos text token next} (h : valueAhead pos text = .token token next)
    : pos ≤ next ∧ next ≤ pos + text.length := by
  obtain ⟨separator, closing, step⟩ := valueAhead_token h
  have length := congrArg List.length step.source
  rw [List.length_append] at length
  have moves := step.moves
  omega

/-- A step that finds no value leaves at most a separator, which was the rest of the text. -/
theorem valueAhead_endOfInput {pos text} (h : valueAhead pos text = .endOfInput)
    : PipeOrNothing text := by
  obtain ⟨separator, rest, rfl, separates⟩ := delimits_exists text
  by_cases nothing : rest = []
  · rw [nothing, List.append_nil]
    exact separates.pipeOrNothing
  · obtain ⟨raw, closing, after, rfl, reads⟩ := valueReads_exists separates nothing
    have step := reads.step pos
    rw [List.append_assoc, List.append_assoc, h] at step
    cases step

end Scan

end KSharp
