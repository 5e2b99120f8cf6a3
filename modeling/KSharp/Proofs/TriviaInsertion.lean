import Mathlib
import KSharp.Proofs.RunFronts
import KSharp.Proofs.RunTranslation

/-! Blanks and comments between two tokens only move the tokens behind them, wherever a parameter
is not parted from its value nor a member from its point.
-/

namespace KSharp.Lexer

/-- Behind the tokens trivia can be put in: no value is owed and none ends there, and they do not
end in the point of a member.
-/
structure Interruptible (tokens : List Token) : Prop where
  settled : Settled tokens
  parted : ¬EndsInMemberPoint tokens

/-- A text that starts with a blank can stand in the place of any other one, being cut from it. -/
theorem Interruptible.replaces {tokens} (interruptible : Interruptible tokens) {c : Char}
    (blank : isBlank c) (rest more : Text)
    : Replaces tokens rest (c :: more) := by
  refine ⟨.of_blank blank more rest, ?_, ?_⟩
  · intro point
    cases point
    exact absurd blank (by decide)
  · intro ends
    exact absurd ends interruptible.parted

/-- Behind tokens of an accepted expression at which it can be interrupted, a blank with closed
trivia is put in without a change to the tokens, but that those behind it are moved by its length.
Witness: the tokens before it are read again, and the run over the rest is made behind the trivia.
-/
theorem tokenize_insert {expression before after}
    (accepted : tokenize .strict expression = .ok (before ++ after))
    (interruptible : Interruptible before) {c : Char} {trivia : Text} (blank : isBlank c)
    (closed : Trivia.Closed trivia)
    : let place := Token.behind 0 before
      let inserted := c :: trivia
      tokenize .strict (expression.take place ++ (inserted ++ expression.drop place))
        = .ok (before ++ after.map (Token.moved inserted.length)) := by
  intro place inserted
  have run := tokenize_strict_eq_ok_iff.mp accepted
  obtain ⟨front, rest, rfl, takes, run⟩ := run.takes interruptible.settled (by simp)
  have split : place = front.length := takes.behind_eq.trans (Nat.zero_add _)
  rw [split, List.take_left, List.drop_left]
  have moved := (run.moved (by simp) inserted.length).closed_append (.blank blank closed)
  have joined := takes.again (interruptible.replaces blank rest (trivia ++ rest)) moved
  exact joined.tokenize_complete

/-- Comments are put in behind an operator, with an integer's member and a parameter's value before
it.
-/
theorem tokenize_insert_comments
    : let before : List Token :=
        [
          ⟨.integer, ['2'], .integer 2, 0⟩,
          ⟨.dot, ['.'], .text ['.'], 1⟩,
          ⟨.identifier, ['y'], .text ['y'], 2⟩,
          ⟨.parameter, "|(a)".toList, .text ['a'], 3⟩,
          ⟨.parameterValue, ['v'], .text ['v'], 7⟩,
          ⟨.operator, ['-'], .text ['-'], 9⟩
        ]
      let z : Token := ⟨.identifier, ['z'], .text ['z'], 10⟩
      tokenize .strict "2.y|(a)v|-z".toList = .ok (before ++ [z])
        ∧ Interruptible before
        ∧ isBlank ' '
        ∧ Trivia.Closed "/*c*///d\n".toList
        ∧ tokenize .strict "2.y|(a)v|- /*c*///d\nz".toList = .ok (before ++ [z.moved 10]) := by
  intro before z
  have accepted : tokenize .strict "2.y|(a)v|-z".toList = .ok (before ++ [z]) := by cbv
  have interruptible : Interruptible before := by
    refine ⟨?_, ?_⟩
    · intro last member
      cases member
      decide
    · intro ends
      obtain ⟨first, whole, point, equal, integer, dot, -⟩ := ends
      have last : before.getLast? = some point := by simp [equal]
      cases last
      cases dot
  have closed : Trivia.Closed "/*c*///d\n".toList := by
    have line : Trivia.Closed ('/' :: '/' :: (['d'] ++ '\n' :: [])) :=
      .line (by simp [Trivia.LineBody, Text.isLineEnd]) (by decide) .nil
    have comment : Trivia.Closed ('/' :: '*' :: (['c'] ++ '*' :: '/' :: "//d\n".toList)) :=
      .block (by simp [Trivia.BlockBody, List.infix_cons_iff]) line
    exact comment
  exact ⟨accepted, interruptible, by decide, closed,
    tokenize_insert accepted interruptible (by decide) closed⟩

end KSharp.Lexer
