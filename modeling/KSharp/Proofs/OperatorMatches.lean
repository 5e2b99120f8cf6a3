import KSharp.Proofs.LexemeSteps

/-! Operators are read by longest match: growth by one character at a time, which each symbol of the
table allows at each of its fronts, ends with the longest symbol in front of the text. Reading an
operator never fails.
-/

namespace KSharp

-----------------------------------------------------------------------------------------
-- Growth
-----------------------------------------------------------------------------------------

namespace Operator

/-- The longest symbol of the table that a text starts with. -/
structure Longest (raw text : Text) : Prop where
  symbol : raw ∈ symbols
  front : raw <+: text
  longest : ∀ longer ∈ symbols, longer <+: text → longer.length ≤ raw.length

/-- Growth passes over what continues the current text to a front of a symbol, by induction on that
continuation.
-/
theorem prefix_grow {current more symbol : Text} (member : symbol ∈ symbols)
    (front : current ++ more <+: symbol) (after : Text)
    : current ++ more <+: grow current (more ++ after) := by
  induction more generalizing current with
  | nil =>
      rw [List.append_nil]
      exact front_grow current ([] ++ after)
  | cons c more ih =>
      have next : current ++ [c] ++ more <+: symbol := by simpa using front
      have starts : current ++ [c] <+: symbol := (List.prefix_append _ more).trans next
      have grows : canGrow current c :=
        List.any_eq_true.mpr ⟨symbol, member, List.isPrefixOf_iff_prefix.mpr starts⟩
      have grown := ih next
      rw [List.append_assoc, List.singleton_append] at grown
      rw [List.cons_append, grow, if_pos grows]
      exact grown

/-- Growth of an operator character ends with the longest symbol: any symbol in front of the text is
passed over.
-/
theorem longest_grow {c : Char} (operator : isChar c) (rest : Text)
    : Longest (grow [c] rest) (c :: rest) := by
  have nonempty : ∀ symbol ∈ symbols, symbol ≠ [] := by decide
  refine ⟨grow_mem_symbols (singleton_mem_symbols operator) rest, grow_front [c] rest, ?_⟩
  intro longer member front
  obtain ⟨d, more, rfl⟩ := List.exists_cons_of_ne_nil (nonempty longer member)
  obtain ⟨after, equal⟩ := front
  obtain ⟨rfl, rfl⟩ := List.cons.inj equal
  have passed : [d] ++ more <+: grow [d] (more ++ after) :=
    prefix_grow member (List.prefix_refl _) after
  exact passed.length_le

end Operator

-----------------------------------------------------------------------------------------
-- Symbols
-----------------------------------------------------------------------------------------

namespace Lexeme

/-- In front of a text that starts with an operator character something is found, a parameter or the
growth of that character.
-/
theorem readSymbol_ne_rejected (c : Char) (rest : Text) (cause : LexError.Cause)
    : readSymbol c rest ≠ .rejected cause := by
  unfold readSymbol
  split <;> exact Lexeme.noConfusion

theorem readSymbol_of_ordinary {c : Char} {rest : Text}
    (ordinary : Parameter.name? (c :: rest) = none)
    : readSymbol c rest
      = .symbol (if Operator.grow [c] rest = [';'] then .semicolon else .operator)
          (Operator.grow [c] rest) := by
  simp only [readSymbol, ordinary]

end Lexeme

-----------------------------------------------------------------------------------------
-- Steps
-----------------------------------------------------------------------------------------

namespace Scan

/-- No trivia stands where an operator character starts no comment. -/
theorem absent_of_operator {c : Char} {rest : Text} (operator : Operator.isChar c)
    (line : ¬['/', '/'] <+: c :: rest) (block : ¬['/', '*'] <+: c :: rest)
    : Trivia.Absent (c :: rest) :=
  ⟨Text.stops_cons_iff.mpr (Operator.symbolic_of_isChar operator).blank, line, block⟩

/-- At an operator character that starts neither a comment nor a parameter, a step in either mode
reads the longest symbol there, which is a semicolon or an operator, and moves right behind it.
Whatever a step reads, it places no error at an operator character. Witness: growth by the table.
-/
theorem tokenAt_operator (mode : Mode) (expression : Text)
    : (∀ pos c,
        expression[pos]? = some c
        → Operator.isChar c
        → ¬['/', '/'] <+: expression.drop pos
        → ¬['/', '*'] <+: expression.drop pos
        → (∀ name, Parameter.Name name → ¬Parameter.source name <+: expression.drop pos)
        → ∃ raw,
            Operator.Longest raw (expression.drop pos)
            ∧ let kind := if raw = [';'] then .semicolon else .operator
              tokenAt mode expression pos
                = .token ⟨kind, raw, .text raw, pos⟩ (pos + raw.length))
      ∧ ∀ pos cause offset,
          tokenAt mode expression pos = .error cause offset
          → ∃ c, expression[offset]? = some c ∧ Operator.isChar c = false := by
  constructor
  · intro pos c first operator line block parameter
    obtain ⟨inside, rfl⟩ := List.getElem?_eq_some_iff.mp first
    rw [List.drop_eq_getElem_cons inside] at line block parameter ⊢
    have ordinary := Parameter.name?_eq_none_iff.mpr parameter
    refine ⟨_, Operator.longest_grow operator (expression.drop (pos + 1)), ?_⟩
    have step := ahead_of_absent (absent_of_operator operator line block) mode pos
    rw [Lexeme.read_operator mode operator, Lexeme.readSymbol_of_ordinary ordinary] at step
    rw [tokenAt, List.drop_eq_getElem_cons inside]
    exact step
  · intro pos cause offset step
    obtain ⟨trivia, c, rest, cut, rejected, rfl⟩ := ahead_eq_error_iff.mp step
    have source := (Trivia.split_between (expression.drop pos)).1
    simp only [cut] at source
    refine ⟨c, ?_, ?_⟩
    · rw [← List.getElem?_drop, source]
      simp
    · rw [← Bool.not_eq_true]
      intro operator
      rw [Lexeme.read_operator mode operator] at rejected
      exact Lexeme.readSymbol_ne_rejected c rest cause rejected

/-- Of a run of operator characters the longest symbol is read. Where the run starts a comment, the
error behind the comment is at another character.
-/
theorem tokenAt_operator_run
    : let expression := "a>>==//\n#".toList
      let shift := ">>=".toList
      expression[1]? = some '>'
        ∧ Operator.isChar '>'
        ∧ ¬['/', '/'] <+: expression.drop 1
        ∧ ¬['/', '*'] <+: expression.drop 1
        ∧ (∀ name, Parameter.Name name → ¬Parameter.source name <+: expression.drop 1)
        ∧ Operator.Longest shift (expression.drop 1)
        ∧ tokenAt .strict expression 1 = .token ⟨.operator, shift, .text shift, 1⟩ 4
        ∧ tokenAt .strict expression 5 = .error (.unexpectedCharacter '#') 8
        ∧ ∃ c, expression[8]? = some c ∧ Operator.isChar c = false := by
  have parameter (name : Text) (_ : Parameter.Name name)
      : ¬Parameter.source name <+: "a>>==//\n#".toList.drop 1 := by
    intro front
    exact absurd (List.cons_prefix_cons.mp front).1 (by decide)
  have read : tokenAt .strict "a>>==//\n#".toList 1
      = .token ⟨.operator, ">>=".toList, .text ">>=".toList, 1⟩ 4 := by
    decide
  have failed : tokenAt .strict "a>>==//\n#".toList 5 = .error (.unexpectedCharacter '#') 8 := by
    decide
  obtain ⟨matched, unfailing⟩ := tokenAt_operator .strict "a>>==//\n#".toList
  obtain ⟨raw, longest, step⟩ :=
    matched 1 '>' (by decide) (by decide) (by decide) (by decide) parameter
  obtain rfl : raw = ">>=".toList := by
    rw [read] at step
    exact (Token.mk.inj (Scan.token.inj step).1).2.1.symm
  exact ⟨by decide, by decide, by decide, by decide, parameter, longest, read, failed,
    unfailing 5 _ 8 failed⟩

end Scan

end KSharp
