import Mathlib.Data.List.DropRight
import KSharp.Command
import KSharp.Proofs.LineChecks

/-! Sessions at the prompt, turn by turn: what a line is answered depends on the line and the mode
in force, and what its question counts are the expressions before it. So an expression that is left
out of a session takes its own turn along and leaves the others as they are.
-/

namespace KSharp.Prompt

-----------------------------------------------------------------------------------------
-- What a line asks for
-----------------------------------------------------------------------------------------

/-- The text of a line without the blanks around it. -/
def bare (line : Text) : Text := (line.dropWhile isBlank).rdropWhile isBlank

/-- The expression on a line: all but the characters that end the line. -/
def asked (line : Text) : Text := line.rdropWhile (fun c => c = '\n' || c = '\r')

/-- The line ends the session. -/
def Quits (line : Text) : Prop := bare line = ":quit".toList ∨ bare line = ":q".toList

instance : DecidablePred Quits := fun line =>
  inferInstanceAs (Decidable (bare line = ":quit".toList ∨ bare line = ":q".toList))

/-- The line asks for help. -/
def SeeksHelp (line : Text) : Prop := bare line = ":help".toList ∨ bare line = ":h".toList

instance : DecidablePred SeeksHelp := fun line =>
  inferInstanceAs (Decidable (bare line = ":help".toList ∨ bare line = ":h".toList))

/-- The mode that a line sets, if it sets one. -/
def modeSet? (line : Text) : Option Mode :=
  if bare line = ":lenient".toList then some .lenient
  else if bare line = ":strict".toList then some .strict
  else none

/-- All names of commands. -/
def commandNames : List Text :=
  [
    ":quit".toList, ":q".toList, ":help".toList, ":h".toList, ":lenient".toList,
    ":strict".toList
  ]

/-- The line holds an expression: it is neither blank nor a command. -/
def Asks (line : Text) : Prop := bare line ≠ [] ∧ bare line ∉ commandNames

instance : DecidablePred Asks := fun line =>
  inferInstanceAs (Decidable (bare line ≠ [] ∧ bare line ∉ commandNames))

/-- What a line is to a session, by the commands. -/
theorem request_cases (line : Text)
    : (Command.ofText? (bare line) = some .quit ∧ Quits line ∧ ¬Asks line)
      ∨ (Command.ofText? (bare line) = some .help
        ∧ ¬Quits line ∧ SeeksHelp line ∧ modeSet? line = none ∧ ¬Asks line)
      ∨ (∃ mode,
        Command.ofText? (bare line) = some (.setMode mode)
        ∧ ¬Quits line ∧ ¬SeeksHelp line ∧ modeSet? line = some mode ∧ ¬Asks line)
      ∨ (Command.ofText? (bare line) = none
        ∧ ¬Quits line ∧ ¬SeeksHelp line ∧ modeSet? line = none ∧ (Asks line ↔ bare line ≠ [])) := by
  unfold Command.ofText? Quits SeeksHelp modeSet? Asks
  generalize bare line = text
  by_cases quit : text = ":quit".toList ∨ text = ":q".toList
  · refine Or.inl ?_
    rcases quit with rfl | rfl <;> decide
  by_cases help : text = ":help".toList ∨ text = ":h".toList
  · refine Or.inr (Or.inl ?_)
    rcases help with rfl | rfl <;> decide
  by_cases lenient : text = ":lenient".toList
  · refine Or.inr (Or.inr (Or.inl ⟨.lenient, ?_⟩))
    subst lenient
    decide
  by_cases strict : text = ":strict".toList
  · refine Or.inr (Or.inr (Or.inl ⟨.strict, ?_⟩))
    subst strict
    decide
  · have other : text ∉ commandNames := by
      simp only [commandNames, List.mem_cons, List.not_mem_nil, or_false, not_or] at quit help ⊢
      exact ⟨quit.1, quit.2, help.1, help.2, lenient, strict⟩
    refine Or.inr (Or.inr (Or.inr ⟨?_, quit, help, ?_, and_iff_left other⟩))
    · rw [if_neg quit, if_neg help, if_neg lenient, if_neg strict]
    · rw [if_neg lenient, if_neg strict]

/-- An expression does not end the session, seeks no help and sets no mode. -/
theorem Asks.plain {line : Text} (asks : Asks line)
    : ¬Quits line ∧ ¬SeeksHelp line ∧ modeSet? line = none := by
  rcases request_cases line with ⟨-, -, none⟩ | ⟨-, -, -, -, none⟩ | ⟨-, -, -, -, -, none⟩
    | ⟨-, quits, help, set, -⟩
  · contradiction
  · contradiction
  · contradiction
  · exact ⟨quits, help, set⟩

-----------------------------------------------------------------------------------------
-- Answers
-----------------------------------------------------------------------------------------

/-- A token on a line behind its index, which is filled up to four characters. -/
def tokenLine (item : Token × Nat) : Text :=
  (Nat.toDigits 10 item.2).leftpad 4 ' ' ++ ": ".toList ++ item.1.displayAt ++ ['\n']

/-- Tokens, each on a line behind its index. -/
def tokenLines (tokens : List Token) : Text := tokens.zipIdx.flatMap tokenLine

/-- The lines of an error: its cause, its expression, and a caret below the character at the offset.
-/
def errorLines (error : LexError) : Text :=
  let lines : List Text := [
    "error: ".toList ++ error.cause.message,
    "  ".toList ++ error.expression,
    List.replicate (error.offset + 2) ' ' ++ ['^']
  ]
  lines.flatMap (· ++ ['\n'])

/-- What an expression is answered on the two output streams: its tokens on the first one, or its
error on the second one.
-/
def verdict (mode : Mode) (expression : Text) : Text × Text :=
  match tokenize mode expression with
  | .ok tokens => (tokenLines tokens, [])
  | .error error => ([], errorLines error)

/-- What a line is answered on the two output streams where a mode is in force. -/
def answer (mode : Mode) (line : Text) : Text × Text :=
  if Quits line then ("Goodbye!\n".toList, [])
  else if SeeksHelp line then (help, [])
  else
    match modeSet? line with
    | some .lenient => ("info: lenient mode\n".toList, [])
    | some .strict => ("info: strict mode\n".toList, [])
    | none => if bare line = [] then ([], []) else verdict mode (asked line)

/-- One turn of a session: the number in its question, and the answer on the two output streams. -/
structure Turn where
  number : Int32
  output : Text
  errors : Text
deriving DecidableEq

/-- A number as a question shows it: filled up with zeros to three characters, behind its sign. -/
def numeral (number : Int32) : Text :=
  let digits := Nat.toDigits 10 number.toInt.natAbs
  if number.toInt < 0 then '-' :: digits.leftpad 2 '0' else digits.leftpad 3 '0'

/-- The question with a number. -/
def asking (number : Int32) : Text := "kmacro:".toList ++ numeral number ++ "> ".toList

/-- The question of a turn and its answer on the first stream. -/
def Turn.shown (turn : Turn) : Text := asking turn.number ++ turn.output

/-- The mode in force behind lines: the one that was set last, if any was. -/
def modeAfter (seen : List Text) : Mode := (seen.filterMap modeSet?).getLast?.getD .strict

/-- The number of the next question behind lines, which counts the expressions among them. -/
def numberAfter (seen : List Text) : Int32 := .ofNat (seen.countP (Asks ·) + 1)

/-- The turn of a line behind others. -/
def turn (seen : List Text) (line : Text) : Turn :=
  let (output, errors) := answer (modeAfter seen) line
  ⟨numberAfter seen, output, errors⟩

/-- Behind the greatest number comes the least one. -/
example : question ⟨.strict, Int32.maxValue + 1⟩ = "kmacro:-2147483648> ".toList := by
  decide +kernel

end KSharp.Prompt
