import KSharp.Proofs.ParameterPairing
import KSharp.Proofs.RunFronts
import KSharp.Proofs.RunTranslation

/-! An expression on lines of its own: behind an accepted text a line feed lets reading start again,
unless a parameter value or a block comment reaches over the line end.
-/

namespace KSharp.Lexer

/-- A run leaves no parameter without its value, so its tokens are settled if the last of them is no
value.
-/
theorem Run.settled {mode phase pos text tokens ending}
    (run : Run mode phase pos text tokens ending) (ordinary : EndsOrdinary tokens)
    : Settled tokens := by
  intro last member
  refine ⟨?_, ordinary last member⟩
  intro parameter
  rw [List.getLast?_eq_getElem?] at member
  have value := (run.paired.next (tokens.length - 1)).mpr (by simp [member, parameter])
  have outside : tokens.length ≤ tokens.length - 1 + 1 := by omega
  rw [List.getElem?_eq_none (by simpa using outside)] at value
  cases value

/-- Where trivia ends a text, a line feed and any text can follow it, since a line feed is cut from
nothing and trivia starts with neither a point nor a word.
-/
theorem replaces_line {rest : Text} (final : Trivia.Final rest) (tokens : List Token)
    (second : Text)
    : Replaces tokens rest (rest ++ '\n' :: second) := by
  have plain {c : Char} (first : rest.head? = some c) : c ≠ '.' ∧ isWordStart c = false := by
    rcases final.first first with blank | slash
    · have word := isWordChar_of_blank blank
      refine ⟨?_, ?_⟩
      · intro point
        subst point
        exact absurd blank (by decide)
      · rw [← Bool.not_eq_true]
        intro start
        rw [isWordChar_of_isWordStart start] at word
        cases word
    · subst slash
      decide
  refine ⟨?_, ?_, ?_⟩
  · have blank : isBlank '\n' := by decide
    have cut := (Text.CutOf.of_blank blank second []).append rest
    rwa [List.append_nil] at cut
  · cases rest with
    | nil => simp
    | cons c more => simpa using (plain rfl).1
  · intro _ c first
    exact (plain first).2

/-- Behind an accepted expression and a line feed a text has its own stream, moved behind them, if
the last token of the expression is no parameter value and no block comment is open behind it.
Witness: the run over the expression, made again before the line feed, and the moved run.
-/
theorem items_append_line {first tokens} (accepted : tokenize .strict first = .ok tokens)
    (ordinary : EndsOrdinary tokens)
    (closed : ¬Trivia.OpenBlock (first.drop (Token.behind 0 tokens)))
    (mode : Mode) (second : Text)
    : let whole := first ++ '\n' :: second
      (start mode whole).items
        = tokens.map .ok
          ++ (start mode second).items.map (Item.moved (first.length + 1) whole) := by
  intro whole
  have run := tokenize_strict_eq_ok_iff.mp accepted
  have settled := run.settled ordinary
  rw [← List.append_nil tokens] at run
  obtain ⟨front, rest, rfl, takes, trailing⟩ := run.takes settled (by simp)
  rw [takes.behind_eq, Nat.zero_add, List.drop_left] at closed
  have final : Trivia.Final rest := by
    cases trailing with
    | ended step =>
        obtain ⟨source, final, -⟩ := Trivia.split_between rest
        rw [Scan.ahead_eq_endOfInput_iff.mp step, List.append_nil] at source
        rwa [source]
  obtain ⟨others, ending, run⟩ := run_total mode .token 0 second (by simp)
  have moved := run.moved (by simp) ((front ++ rest).length + 1)
  have place : 0 + ((front ++ rest).length + 1) = 0 + front.length + (rest ++ ['\n']).length := by
    simp only [List.length_append, List.length_singleton]
    omega
  rw [place] at moved
  have behind := moved.closed_append (final.lineFeed closed)
  rw [List.append_assoc, List.singleton_append] at behind
  have joined := takes.again (replaces_line final tokens second) behind
  rw [← List.append_assoc] at joined
  rw [start, joined.items_eq (.start whole), start, run.items_eq (.start second),
    Ending.items_moved ending mode _ second whole]
  simp [Item.moved]

/-- A line comment ends at the line feed, and behind it an error names the whole text. -/
theorem items_append_line_comment
    : let x : Token := ⟨.identifier, ['x'], .text ['x'], 0⟩
      let whole := "x //\n2.y\"z".toList
      tokenize .strict "x //".toList = .ok [x]
        ∧ EndsOrdinary [x]
        ∧ ¬Trivia.OpenBlock ("x //".toList.drop (Token.behind 0 [x]))
        ∧ (start .strict whole).items
          = [x].map .ok
            ++ [
              .ok ⟨.integer, ['2'], .integer 2, 5⟩,
              .ok ⟨.dot, ['.'], .text ['.'], 6⟩,
              .ok ⟨.identifier, ['y'], .text ['y'], 7⟩,
              .error ⟨.unterminatedString, 8, whole⟩
            ] := by
  obtain ⟨accepted, second⟩
      : tokenize .strict "x //".toList = .ok [⟨.identifier, ['x'], .text ['x'], 0⟩]
        ∧ (start .strict "2.y\"z".toList).items
          = [
            .ok ⟨.integer, ['2'], .integer 2, 0⟩,
            .ok ⟨.dot, ['.'], .text ['.'], 1⟩,
            .ok ⟨.identifier, ['y'], .text ['y'], 2⟩,
            .error ⟨.unterminatedString, 3, "2.y\"z".toList⟩
          ] :=
    ⟨by cbv, by cbv⟩
  have ordinary : EndsOrdinary [⟨.identifier, ['x'], .text ['x'], 0⟩] := by
    intro last member
    cases member
    decide
  have closed : ¬Trivia.OpenBlock " //".toList := by
    intro comment
    obtain ⟨trivia, body, equal, -⟩ := comment
    have star : '*' ∈ " //".toList := by simp [equal]
    exact absurd star (by decide)
  have joined := items_append_line accepted ordinary closed .strict "2.y\"z".toList
  rw [second] at joined
  exact ⟨accepted, ordinary, closed, joined⟩

end KSharp.Lexer
