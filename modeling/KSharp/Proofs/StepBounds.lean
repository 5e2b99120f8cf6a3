import KSharp.Proofs.CursorRuns
import KSharp.Proofs.ParameterBoundaries
import KSharp.Proofs.TokenPlacement

/-! One step from any position, also far behind the end of the expression: what it takes of the
expression lies inside it, and so does what it reads, at the position or behind it.
-/

namespace KSharp.Scan

variable {mode : Mode} {expression : Text} {pos : Nat}

-----------------------------------------------------------------------------------------
-- Steps to tokens
-----------------------------------------------------------------------------------------

theorem tokenAt_eq_endOfInput_iff
    : tokenAt mode expression pos = .endOfInput ↔ Trivia.Final (expression.drop pos) := by
  rw [tokenAt, ahead_eq_endOfInput_iff]
  constructor
  · intro nothing
    obtain ⟨source, final, -⟩ := Trivia.split_between (expression.drop pos)
    rwa [source, nothing, List.append_nil]
  · intro final
    exact final.split

theorem tokenAt_beyond (beyond : expression.length ≤ pos)
    : tokenAt mode expression pos = .endOfInput := by
  apply tokenAt_eq_endOfInput_iff.mpr
  rw [List.drop_eq_nil_of_le beyond]
  exact Trivia.Closed.nil.final

/-- Where a step reads something there is text ahead. -/
theorem ahead_of_tokenAt {scan : Scan} (step : tokenAt mode expression pos = scan)
    (more : scan ≠ .endOfInput)
    : Lexer.Ahead expression pos (expression.drop pos) :=
  ⟨rfl, (inside_of_tokenAt step more).le⟩

theorem tokenAt_token_placed {token : Token} {next : Nat}
    (step : tokenAt mode expression pos = .token token next)
    : pos ≤ token.offset
      ∧ token.offset < next
      ∧ next ≤ expression.length
      ∧ next = token.stop
      ∧ token.raw = expression.extract token.offset next := by
  have ahead := ahead_of_tokenAt step (by simp)
  obtain ⟨trivia, parts⟩ := ahead_token step
  have stop : next = token.stop := by
    rw [parts.moves, Token.stop, parts.offset, List.length_append, Nat.add_assoc]
  have nonempty := List.length_pos_iff.mpr parts.nonempty
  have length := congrArg List.length parts.source
  simp only [List.length_append] at length
  have within : token.Within expression :=
    ahead.within parts.source parts.offset (by omega)
  have behind : token.stop = token.offset + token.raw.length := rfl
  have offset := parts.offset
  subst stop
  exact ⟨by omega, by omega, within.stop_le, rfl, within.raw_eq⟩

theorem tokenAt_error_placed {cause : LexError.Cause} {offset : Nat}
    (step : tokenAt mode expression pos = .error cause offset)
    : pos ≤ offset ∧ offset < expression.length := by
  have ahead := ahead_of_tokenAt step (by simp)
  obtain ⟨trivia, c, rest, cut, -, place⟩ := ahead_eq_error_iff.mp step
  have source := (Trivia.split_between (expression.drop pos)).1
  have parts := congrArg List.length source
  have length := ahead.length
  simp only [cut, List.length_append, List.length_cons] at parts
  omega

-----------------------------------------------------------------------------------------
-- Steps to parameter values
-----------------------------------------------------------------------------------------

/-- A value that reading does not move past is empty, and the pipe that ends it starts a parameter.
-/
theorem valueAt_stays {token : Token} (step : valueAt expression pos = .token token pos)
    (mode : Mode)
    : token.raw = [] ∧ token.value = .text [] ∧ readsParameter mode expression pos := by
  obtain ⟨separator, raw, closing, reads, source, found, moves⟩ := valueAhead_reads step
  obtain ⟨rfl, rfl, rfl⟩ : separator = [] ∧ raw = [] ∧ closing = [] := by
    simp only [List.length_append] at moves
    simp only [← List.length_eq_zero_iff]
    omega
  rw [Nat.sub_self, List.drop_zero] at reads
  have split := reads.split
  simp only [List.nil_append] at split
  have pipe : (expression.drop pos).head? = some '|' := by
    rcases Parameter.splitValue_after (expression.drop pos) with ended | ⟨rest, equal⟩
    · rw [split] at ended
      exact absurd ended reads.nonempty
    · rw [split] at equal
      exact List.head?_eq_some_iff.mpr ⟨rest, equal⟩
  have parameter := delimits_nil_iff.mp reads.separates pipe
  refine ⟨congrArg Token.raw found, congrArg Token.value found, ?_⟩
  rw [← starts_drop]
  exact Option.isSome_iff_ne_none.mpr parameter

theorem valueAt_token_placed {token : Token} {next : Nat}
    (step : valueAt expression pos = .token token next)
    : pos ≤ next ∧ next ≤ expression.length := by
  obtain ⟨separator, closing, parts⟩ := valueAhead_token step
  have inside := parts.inside
  have moves := valueAhead_moves step
  rw [List.length_drop] at inside moves
  omega

/-- A step has an outcome with all its indices and slices checked against the expression, from any
position in both modes. It is the end of the input exactly where only trivia is ahead, of which the
last comment may be cut off. A token stands at the position or behind it, in the expression, and
reading goes on at its end; an error is placed at a character there. Reading a parameter value never
goes back and never fails, and it stays at the position only with an empty value in front of a
parameter. Witness: the machine that moves a cursor, whose moves all follow the step.
-/
theorem steps_within (mode : Mode) (expression : Text) (pos : Nat)
    : Cursor.tokenAt? mode expression pos = some (tokenAt mode expression pos)
      ∧ Cursor.valueAt? expression pos = some (valueAt expression pos)
      ∧ (tokenAt mode expression pos = .endOfInput ↔ Trivia.Final (expression.drop pos))
      ∧ (expression.length ≤ pos → tokenAt mode expression pos = .endOfInput)
      ∧ (∀ token next,
          tokenAt mode expression pos = .token token next
          → pos ≤ token.offset
            ∧ token.offset < next
            ∧ next ≤ expression.length
            ∧ next = token.stop
            ∧ token.raw = expression.extract token.offset next)
      ∧ (∀ cause offset,
          tokenAt mode expression pos = .error cause offset
          → pos ≤ offset ∧ offset < expression.length)
      ∧ (valueAt expression pos = .endOfInput
        ∨ ∃ token next,
            valueAt expression pos = .token token next
            ∧ pos ≤ next
            ∧ next ≤ expression.length
            ∧ (next = pos
              → token.raw = [] ∧ token.value = .text [] ∧ readsParameter mode expression pos)) := by
  refine ⟨Cursor.tokenAt?_eq mode expression pos, Cursor.valueAt?_eq expression pos,
    tokenAt_eq_endOfInput_iff, tokenAt_beyond, fun _ _ => tokenAt_token_placed,
    fun _ _ => tokenAt_error_placed, ?_⟩
  cases step : valueAt expression pos with
  | endOfInput => exact Or.inl rfl
  | error cause offset => exact absurd step valueAhead_ne_error
  | token token next =>
      obtain ⟨forward, inside⟩ := valueAt_token_placed step
      refine Or.inr ⟨token, next, rfl, forward, inside, ?_⟩
      intro stays
      subst stays
      exact valueAt_stays step mode

/-- The value of the first directive is empty, and reading stays in front of the second one. Behind
that a comment is passed over up to an error, and beyond the end nothing is left.
-/
theorem steps_within_directives
    : let expression := "|(a)|(b)//x\n#".toList
      let directive : Token := ⟨.parameter, "|(b)".toList, .text "b".toList, 4⟩
      let empty : Token := ⟨.parameterValue, [], .text [], 3⟩
      Cursor.tokenAt? .strict expression 4 = some (.token directive 8)
        ∧ Cursor.valueAt? expression 4 = some (.token empty 4)
        ∧ readsParameter .strict expression 4
        ∧ directive.stop = 8
        ∧ expression.extract 4 8 = directive.raw
        ∧ Cursor.tokenAt? .strict expression 8 = some (.error (.unexpectedCharacter '#') 12)
        ∧ 12 < expression.length
        ∧ Cursor.tokenAt? .strict expression 20 = some .endOfInput
        ∧ Trivia.Final (expression.drop 20) := by
  have read : tokenAt .strict "|(a)|(b)//x\n#".toList 4
      = .token ⟨.parameter, "|(b)".toList, .text "b".toList, 4⟩ 8 := by
    decide +kernel
  have value : valueAt "|(a)|(b)//x\n#".toList 4
      = .token ⟨.parameterValue, [], .text [], 3⟩ 4 := by
    decide +kernel
  have failed : tokenAt .strict "|(a)|(b)//x\n#".toList 8
      = .error (.unexpectedCharacter '#') 12 := by
    decide +kernel
  obtain ⟨checked, checkedValue, -, -, placed, -, values⟩ :=
    steps_within .strict "|(a)|(b)//x\n#".toList 4
  obtain ⟨checkedError, -, -, -, -, errors, -⟩ := steps_within .strict "|(a)|(b)//x\n#".toList 8
  obtain ⟨checkedEnd, -, final, beyond, -, -, -⟩ := steps_within .strict "|(a)|(b)//x\n#".toList 20
  obtain ⟨-, -, -, stop, raw⟩ := placed _ _ read
  have ended := beyond (by decide)
  have stays : readsParameter .strict "|(a)|(b)//x\n#".toList 4 := by
    rcases values with none | ⟨token, next, step, -, -, stays⟩
    · rw [value] at none
      cases none
    · rw [value] at step
      cases step
      exact (stays rfl).2.2
  rw [read] at checked
  rw [value] at checkedValue
  rw [failed] at checkedError
  rw [ended] at checkedEnd
  exact ⟨checked, checkedValue, stays, stop.symm, raw.symm, checkedError, (errors _ _ failed).2,
    checkedEnd, final.mp ended⟩

end KSharp.Scan
