import KSharp.Command
import KSharp.Proofs.LineCuts
import KSharp.Proofs.TokenLaws

/-! The lines of the readable form of tokens: one for each token, and one more for each line feed in
a value that is shown between quotes. What else is shown of a token has no line feed.
-/

namespace KSharp

-----------------------------------------------------------------------------------------
-- Texts without line feeds
-----------------------------------------------------------------------------------------

namespace Text

theorem not_mem_ofNat (n : Nat) : '\n' ∉ ofNat n := by
  intro member
  have digit := isDigit_of_mem_ofNat member
  cases digit

theorem not_mem_ofInt (n : Int) : '\n' ∉ ofInt n := by
  cases n with
  | ofNat n => exact not_mem_ofNat n
  | negSucc n => exact List.not_mem_cons_of_ne_of_not_mem (by decide) (not_mem_ofNat (n + 1))

end Text

namespace Binary64

/-- The digits of a decimal on a grid are those of a natural number, by the cases of its choice. -/
theorem Interval.onGrid_digits {i : Interval} {tie : Tie} {count : Nat} {x : Digits}
    (found : i.onGrid tie count = some x)
    : ∃ n, x.digits = Text.trimEnd (· = '0') (Text.ofNat n) := by
  unfold onGrid at found
  extract_lets point digitsOf at found
  have written (n : Nat) (chosen : some (digitsOf n) = some x)
      : ∃ n, x.digits = Text.trimEnd (· = '0') (Text.ofNat n) := by
    cases chosen
    exact ⟨n, rfl⟩
  clear_value digitsOf
  split at found
  next scaleNum scaleDen grid =>
    extract_lets num den floor at found
    cases lower : i.holds (floor * scaleNum) scaleDen
        <;> cases upper : i.holds ((floor + 1) * scaleNum) scaleDen
        <;> simp only [lower, upper] at found
    · cases found
    · exact written _ found
    · exact written _ found
    · split at found
      · exact written _ found
      split at found
      · exact written _ found
      · cases tie <;> exact written _ found

theorem not_mem_shortest (x : Binary64) (tie : Tie) : '\n' ∉ (x.shortest tie).digits := by
  rw [shortest]
  cases search : (List.range 17).findSome? fun n => x.interval.onGrid tie (n + 1) with
  | none => simp
  | some found =>
      obtain ⟨n, -, grid⟩ := List.exists_of_findSome?_eq_some search
      obtain ⟨m, digits⟩ := Interval.onGrid_digits grid
      obtain ⟨zeros, whole, -⟩ := Text.trimEnd_append (· = '0') (Text.ofNat m)
      intro member
      rw [Option.getD_some, digits] at member
      apply Text.not_mem_ofNat m
      rw [whole]
      exact List.mem_append_left zeros member

theorem not_mem_sign (x : Binary64) : '\n' ∉ x.sign := by
  unfold sign
  split <;> decide

theorem not_mem_positional {x : Digits} (digits : '\n' ∉ x.digits) : '\n' ∉ x.positional [] := by
  have part (n : Nat) : '\n' ∉ x.digits.take n ∧ '\n' ∉ x.digits.drop n :=
    ⟨fun member => digits (List.mem_of_mem_take member),
      fun member => digits (List.mem_of_mem_drop member)⟩
  unfold Digits.positional
  split
  · simp [digits]
  · simp [digits]
  · split
    · simp [digits]
    · simp [part]

theorem not_mem_display (x : Binary64) : '\n' ∉ x.display := by
  unfold display
  split
  · decide
  split
  · simp [not_mem_sign]
  split
  · simp [not_mem_sign]
  · simp [not_mem_sign, not_mem_positional (not_mem_shortest x .up)]

end Binary64

-----------------------------------------------------------------------------------------
-- What is shown of a token
-----------------------------------------------------------------------------------------

/-- The kinds whose value is shown between quotes. -/
def Kind.isQuoted (kind : Kind) : Bool := kind = .string || kind = .parameterValue

theorem Kind.not_mem_name (kind : Kind) : '\n' ∉ kind.name := by
  cases kind <;> decide

/-- A line feed stays one in lowercase, so it shows there. -/
theorem Unicode.not_mem_of_lowercase {text : Text} (h : '\n' ∉ lowercase text) : '\n' ∉ text := by
  intro member
  exact h (List.mem_flatMap.mpr ⟨'\n', member, by decide +kernel⟩)

namespace Token

/-- Line feeds stand in what is shown behind the kind only. -/
theorem count_displayAt (token : Token) : token.displayAt.count '\n' = token.shown.count '\n' := by
  have name := List.count_eq_zero.mpr token.kind.not_mem_name
  have offset := List.count_eq_zero.mpr (Text.not_mem_ofNat token.offset)
  simp [displayAt, display, name, offset]

end Token

/-- A token that keeps the law of a kind whose value is not shown between quotes has no line feed
in what is shown. By kinds: a word, an operator or a mark is shown by its source text, a number or a
truth by its value.
-/
theorem Kind.Law.not_mem_shown {token : Token} (law : token.kind.Law token.raw token.value)
    (plain : token.kind.isQuoted = false)
    : '\n' ∉ token.shown := by
  obtain ⟨kind, raw, value, offset⟩ := token
  dsimp only at law plain
  have mark {c : Char} (law : IsMark c raw value) (other : '\n' ≠ c) : '\n' ∉ raw := by
    rw [law.1]
    simpa using other
  cases kind with
  | string => cases plain
  | parameterValue => cases plain
  | integer =>
      obtain ⟨-, rfl, -⟩ := law
      exact Text.not_mem_ofInt (Text.decimal raw)
  | double =>
      obtain ⟨-, rfl⟩ := law
      exact (Binary64.ofLiteral raw).not_mem_display
  | boolean =>
      obtain ⟨truth, -, rfl⟩ := law
      cases truth <;> exact of_decide_eq_false rfl
  | identifier =>
      intro member
      exact absurd (isWordChar_of_mem law.2.1 member) (by decide)
  | operator =>
      have ordinary : ∀ operator ∈ Operator.table, '\n' ∉ operator := by decide
      exact Unicode.not_mem_of_lowercase (ordinary _ law.2)
  | parameter =>
      obtain ⟨name, grammar, rfl, -⟩ := law
      have letters : '\n' ∉ name := by
        intro member
        exact absurd (grammar.letter _ member) (by decide)
      simp [Token.shown, Parameter.source, letters]
  | _ => exact mark law (by decide)

-----------------------------------------------------------------------------------------
-- Lines
-----------------------------------------------------------------------------------------

namespace Token

/-- The text that a token shows between quotes: the value of a string literal or a parameter. -/
def quoted? (token : Token) : Option Text :=
  if token.kind.isQuoted then token.value.text? else none

/-- The value of a lawful token that is shown between quotes is a text. -/
theorem Lawful.text_of_isQuoted {mode length} {token : Token}
    (lawful : token.Lawful mode length) (quoted : token.kind.isQuoted)
    : ∃ text, token.value = .text text := by
  obtain ⟨kind, raw, value, offset⟩ := token
  rcases lawful with law | ⟨-, -, -, body, -, -, read⟩
  · cases kind with
    | string => cases law <;> exact ⟨_, rfl⟩
    | parameterValue =>
        obtain ⟨text, value, -⟩ := law
        exact ⟨text, value⟩
    | _ => cases quoted
  · exact ⟨_, read⟩

/-- The texts that lawful tokens show between quotes are the values of just the tokens of those kinds.
By induction on the tokens.
-/
theorem map_value_eq {mode length} {tokens : List Token}
    (lawful : ∀ token ∈ tokens, token.Lawful mode length)
    : (tokens.filter (·.kind.isQuoted)).map value = (tokens.filterMap quoted?).map .text := by
  induction tokens with
  | nil => rfl
  | cons token rest ih =>
      obtain ⟨here, later⟩ := List.forall_mem_cons.mp lawful
      cases quoted : token.kind.isQuoted with
      | true =>
          obtain ⟨text, value⟩ := here.text_of_isQuoted quoted
          simp [quoted, quoted?, value, Value.text?, ih later]
      | false => simp [quoted, quoted?, ih later]

/-- The line feeds shown of a lawful token are those of its text between quotes, if it has one. -/
theorem Lawful.count_displayAt {mode length} {token : Token} (lawful : token.Lawful mode length)
    : token.displayAt.count '\n' = (token.quoted?.getD []).count '\n' := by
  rw [Token.count_displayAt, quoted?]
  cases quoted : token.kind.isQuoted with
  | true =>
      obtain ⟨text, value⟩ := lawful.text_of_isQuoted quoted
      simp only [Kind.isQuoted, Bool.or_eq_true, decide_eq_true_eq] at quoted
      rcases quoted with kind | kind <;> simp [shown, kind, value, Value.display, Value.text?]
  | false =>
      rcases lawful with law | ⟨-, string, -⟩
      · exact List.count_eq_zero.mpr (law.not_mem_shown quoted)
      · rw [string] at quoted
        cases quoted

/-- Lawful tokens, each with a line feed behind it, have further line feeds only in their texts
between quotes. By induction on the tokens.
-/
theorem count_flatMap_displayAt {mode length} {tokens : List Token}
    (lawful : ∀ token ∈ tokens, token.Lawful mode length)
    : (tokens.flatMap fun token => token.displayAt ++ ['\n']).count '\n'
      = tokens.length + (tokens.filterMap quoted?).flatten.count '\n' := by
  induction tokens with
  | nil => rfl
  | cons token rest ih =>
      obtain ⟨here, later⟩ := List.forall_mem_cons.mp lawful
      have first := here.count_displayAt
      rw [List.flatMap_cons, List.count_append, List.count_append, ih later, first]
      cases quoted : token.quoted? with
      | none =>
          simp [quoted]
          omega
      | some text =>
          simp [quoted]
          omega

/-- A lawful token is shown on one line exactly if its text between quotes is. -/
theorem Lawful.not_mem_displayAt_iff {mode length} {token : Token}
    (lawful : token.Lawful mode length)
    : '\n' ∉ token.displayAt ↔ ∀ text, token.quoted? = some text → '\n' ∉ text := by
  rw [← List.count_eq_zero, lawful.count_displayAt, List.count_eq_zero]
  cases token.quoted? <;> simp

end Token

namespace Command

/-- Printed as text, each token has a line feed behind it. -/
theorem output_printTokens (tokens : List Token)
    : (printTokens tokens .text).output = tokens.flatMap fun token => token.displayAt ++ ['\n'] := by
  by_cases none : tokens = []
  · subst none
    rfl
  · have lines : tokens.map Token.displayAt ≠ [] := by simpa using none
    have joined := Text.intercalate_concat lines
    simp only [printTokens, if_neg none, printed, Token.displayLines, joined, List.map_map,
      List.flatMap_def]
    rfl

/-- Tokens that are each shown on one line are the lines printed. -/
theorem pieces_printTokens {tokens : List Token}
    (inside : ∀ token ∈ tokens, '\n' ∉ token.displayAt)
    : Text.pieces (printTokens tokens .text).output = tokens.map (·.displayAt ++ ['\n']) := by
  have ended : Text.Ended (tokens.map (·.displayAt ++ ['\n'])) := by
    intro line member
    obtain ⟨token, read, rfl⟩ := List.mem_map.mp member
    exact ⟨token.displayAt, rfl, inside token read⟩
  have cut := ended.pieces_append []
  rwa [List.append_nil, ← List.flatMap_def, ← output_printTokens, Text.pieces,
    List.append_nil] at cut

end Command

namespace Token

/-- The line feeds in the readable form of tokens are one between any two neighbours and those of the
texts between quotes, which are the values of string literals and parameters. So the tokens are a
line each exactly if none of these texts has a line feed, and no other token is ever broken. Witness:
the laws of the tokens, kind by kind.
-/
theorem count_displayLines {mode expression tokens} (read : tokenize mode expression = .ok tokens)
    (nonempty : tokens ≠ [])
    : let values := tokens.filterMap quoted?
      let lines := Text.pieces (Command.printTokens tokens .text).output
      (tokens.filter (·.kind.isQuoted)).map value = values.map .text
      ∧ (displayLines tokens).count '\n' = tokens.length - 1 + values.flatten.count '\n'
      ∧ (lines.length = tokens.length ↔ ∀ value ∈ values, '\n' ∉ value)
      ∧ (lines = tokens.map (·.displayAt ++ ['\n']) ↔ ∀ value ∈ values, '\n' ∉ value)
      ∧ ∀ token ∈ tokens, token.kind.isQuoted = false → '\n' ∉ token.displayAt := by
  intro values lines
  have lawful := Lexer.lawful_of_tokenize read
  have output : (Command.printTokens tokens .text).output = displayLines tokens ++ ['\n'] := by
    simp only [Command.printTokens, if_neg nonempty, Command.printed]
  have counted : (displayLines tokens).count '\n' + 1
      = tokens.length + values.flatten.count '\n' := by
    rw [← count_flatMap_displayAt lawful, ← Command.output_printTokens, output, List.count_append]
    rfl
  have length : lines.length = tokens.length + values.flatten.count '\n' := by
    rw [← counted, ← Text.length_pieces_concat, ← output]
  have single : lines.length = tokens.length ↔ ∀ value ∈ values, '\n' ∉ value := by
    rw [length, Nat.add_eq_left, List.count_eq_zero]
    simp
  refine ⟨map_value_eq lawful, ?_, single, ⟨?_, ?_⟩, ?_⟩
  · have := List.length_pos_of_ne_nil nonempty
    omega
  · intro same
    exact single.mp (by rw [same, List.length_map])
  · intro inside
    refine Command.pieces_printTokens ?_
    intro token member
    refine (lawful token member).not_mem_displayAt_iff.mpr ?_
    intro text quoted
    exact inside text (List.mem_filterMap.mpr ⟨token, member, quoted⟩)
  · intro token member plain
    refine (lawful token member).not_mem_displayAt_iff.mpr ?_
    simp [quoted?, plain]

/-- An escape sequence and a line of a parameter's value break two of four tokens. -/
theorem count_displayLines_broken
    : let tokens : List Token :=
        [
          ⟨.identifier, ['f'], .text ['f'], 0⟩,
          ⟨.string, "\"x\\ny\"".toList, .text "x\ny".toList, 2⟩,
          ⟨.parameter, "|(p)".toList, .text ['p'], 9⟩,
          ⟨.parameterValue, "u\nv".toList, .text "u\nv".toList, 13⟩
        ]
      tokenize .strict "f \"x\\ny\" |(p)u\nv".toList = .ok tokens
      ∧ tokens ≠ []
      ∧ tokens.filterMap quoted? = ["x\ny".toList, "u\nv".toList]
      ∧ (displayLines tokens).count '\n' = 5
      ∧ (Text.pieces (Command.printTokens tokens .text).output).length ≠ 4 := by
  intro tokens
  have read : tokenize .strict "f \"x\\ny\" |(p)u\nv".toList = .ok tokens := by cbv
  have nonempty : tokens ≠ [] := List.cons_ne_nil _ _
  have quoted : tokens.filterMap quoted? = ["x\ny".toList, "u\nv".toList] := rfl
  obtain ⟨-, count, single, -⟩ := count_displayLines read nonempty
  rw [quoted] at count single
  refine ⟨read, nonempty, quoted, count, ?_⟩
  intro same
  have inside := single.mp same
  simp at inside

end Token

end KSharp
