import KSharp.Proofs.LexemeGrammar
import KSharp.Proofs.ScanSteps

/-! Steps to tokens against the grammar of lexemes: a strict step reads a lexeme of the grammar,
and a lexeme of the grammar behind closed trivia is what a step reads.
-/

namespace KSharp

/-- A lexeme of the grammar has source text, by the cases of the grammar. -/
theorem Lexeme.Reads.first {kind raw value after} (reads : Reads kind raw value after)
    : ∃ c rest, raw = c :: rest := by
  cases reads with
  | number numeral fits =>
      obtain ⟨c, rest, equal, -⟩ := numeral.first
      exact ⟨c, rest, equal⟩
  | _ => exact ⟨_, _, rfl⟩

/-- A character that is neither a blank nor a slash starts no trivia. -/
theorem Trivia.absent_cons {c : Char} (plain : isBlank c = false) (slash : c ≠ '/') (rest : Text)
    : Absent (c :: rest) := by
  refine ⟨Text.stops_cons_iff.mpr plain, ?_, ?_⟩
  · intro comment
    exact slash (List.cons_prefix_cons.mp comment).1.symm
  · intro comment
    exact slash (List.cons_prefix_cons.mp comment).1.symm

namespace Scan

/-- Where no trivia stands in front of a text, a step reads the lexeme there. -/
theorem ahead_of_absent {c : Char} {rest : Text} (absent : Trivia.Absent (c :: rest)) (mode : Mode)
    (pos : Nat)
    : ahead mode pos (c :: rest) = (Lexeme.read mode c rest).placed pos := by
  simp only [ahead, absent.split, List.length_nil, Nat.add_zero]

/-- A strict step reads a lexeme of the grammar, in front of which no trivia stands. -/
theorem ahead_reads {pos text token next} (step : ahead .strict pos text = .token token next)
    : Trivia.Absent (token.raw ++ text.drop (next - pos))
      ∧ Lexeme.Reads token.kind token.raw token.value (text.drop (next - pos)) := by
  obtain ⟨trivia, c, rest, cut, read, offset, rfl⟩ := ahead_eq_token_iff.mp step
  have absent := Trivia.split_absent .between text
  have source := (Trivia.split_between text).1
  simp only [cut] at absent source
  obtain ⟨after, equal, reads⟩ := Lexeme.read_sound read
  have behind : text.drop (token.stop - pos) = after := by
    have length : token.stop - pos = (trivia ++ token.raw).length := by
      rw [Token.stop, List.length_append]
      omega
    rw [length, source, equal, ← List.append_assoc, List.drop_left]
  rw [behind, ← equal]
  exact ⟨absent, reads⟩

/-- A lexeme of the grammar behind closed trivia is read in either mode. -/
theorem ahead_of_reads {trivia kind raw value after} (closed : Trivia.Closed trivia)
    (absent : Trivia.Absent (raw ++ after)) (reads : Lexeme.Reads kind raw value after)
    (mode : Mode) (pos : Nat)
    : ahead mode pos (trivia ++ (raw ++ after))
      = .token ⟨kind, raw, value, pos + trivia.length⟩ (pos + (trivia ++ raw).length) := by
  obtain ⟨c, rest, rfl⟩ := reads.first
  refine ahead_eq_token_iff.mpr ⟨trivia, c, rest ++ after, ?_, reads.read mode rfl, rfl, ?_⟩
  · rw [closed.split_append, absent.split, List.append_nil]
    rfl
  · rw [Token.stop, List.length_append, Nat.add_assoc]

end Scan

end KSharp
