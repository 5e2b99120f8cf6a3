import KSharp.Scan

/-! The lexer: the stream of an expression's tokens. Each parameter in it is followed by a
value, an empty one being supplied at the end of the input; a strict error is the last item,
and a lenient one ends the stream silently.
-/

namespace KSharp

/-- What a lexer reads next: a token of the expression, the value of the parameter that was read
last, or nothing, the stream having ended.
-/
inductive Lexer.Phase where
  | token
  | value
  | finished
deriving DecidableEq, Repr

/-- A lexer over an expression: the position behind what it has read, and what comes next. -/
structure Lexer where
  expression : Text
  mode : Mode
  cursor : Nat
  phase : Lexer.Phase
deriving DecidableEq, Repr

namespace Lexer

/-- An item of the stream. -/
abbrev Item := Except LexError Token

/-- The lexer in front of an expression. -/
def start (mode : Mode) (expression : Text) : Lexer := ⟨expression, mode, 0, .token⟩

/-- The phase after a token of a kind. -/
def Phase.after (kind : Kind) : Phase := if kind = .parameter then .value else .token

/-- The end of the stream, which first supplies the value that a parameter still lacks, placed
on the expression's last character.
-/
def close (lexer : Lexer) : Option Item × Lexer :=
  let ended := { lexer with phase := .finished }
  if lexer.phase = .value then
    (some (.ok (.emptyParameterValue (lexer.expression.length - 1))), ended)
  else (none, ended)

/-- The item that a scanning step yields, and the lexer after it. -/
def advance (lexer : Lexer) : Scan → Option Item × Lexer
  | .token token next =>
    (some (.ok token), { lexer with cursor := next, phase := Phase.after token.kind })
  | .endOfInput => lexer.close
  | .error cause offset =>
    match lexer.mode with
    | .strict =>
      (some (.error ⟨cause, offset, lexer.expression⟩), { lexer with phase := .finished })
    | .lenient => lexer.close

/-- The next item, none at the end of the stream, and the lexer after it. -/
def next (lexer : Lexer) : Option Item × Lexer :=
  match lexer.phase with
  | .token => lexer.advance (Scan.tokenAt lexer.mode lexer.expression lexer.cursor)
  | .value => lexer.advance (Scan.valueAt lexer.expression lexer.cursor)
  | .finished => (none, lexer)

/-- The results of successive requests for the next item. -/
def calls : Nat → Lexer → List (Option Item)
  | 0, _ => []
  | n + 1, lexer => lexer.next.1 :: calls n lexer.next.2

/-- A bound on the items still to come: two for each character ahead, one more for a value
that is owed, and none at the end.
-/
def remaining (lexer : Lexer) : Nat :=
  match lexer.phase with
  | .token => 2 * (lexer.expression.length - lexer.cursor)
  | .value => 2 * (lexer.expression.length - lexer.cursor) + 1
  | .finished => 0

/-- Each item brings the end nearer, by the progress of the step that yields it. -/
theorem remaining_lt {lexer item later}
    (h : next lexer = (some item, later))
    : later.remaining < lexer.remaining := by
  obtain ⟨expression, mode, cursor, phase⟩ := lexer
  cases phase with
  | finished => cases h
  | token =>
    simp only [next] at h
    cases hs : Scan.tokenAt mode expression cursor with
    | endOfInput => simp [hs, advance, close] at h
    | error cause offset =>
      have inside := Scan.inside_of_tokenAt hs (by simp)
      cases mode <;> simp only [hs, advance, close] at h
      · cases h
        simp only [remaining]
        omega
      · simp at h
    | token token next =>
      have inside := Scan.inside_of_tokenAt hs (by simp)
      have moved := Scan.lt_of_ahead hs
      simp only [hs, advance] at h
      cases h
      simp only [remaining, Phase.after]
      split <;> split at * <;> omega
  | value =>
    simp only [next] at h
    cases hs : Scan.valueAt expression cursor with
    | endOfInput =>
      simp only [hs, advance, close] at h
      cases h
      simp only [remaining]
      omega
    | error cause offset => exact absurd hs Scan.valueAhead_ne_error
    | token token next =>
      obtain ⟨kind, moved⟩ := Scan.kind_of_valueAhead hs
      simp only [hs, advance] at h
      cases h
      simp only [remaining, Phase.after, kind]
      simp
      omega

/-- All items still to come. -/
def items (lexer : Lexer) : List Item :=
  match _step : lexer.next with
  | (none, _) => []
  | (some item, later) => item :: items later
termination_by lexer.remaining
decreasing_by exact remaining_lt _step

/-- The tokens of a list of items, or its first error. -/
def collect : List Item → Except LexError (List Token)
  | [] => .ok []
  | .error error :: _ => .error error
  | .ok token :: rest =>
    match collect rest with
    | .ok tokens => .ok (token :: tokens)
    | .error error => .error error

end Lexer

/-- The tokens of an expression, or its first lexical error, which only the strict mode
reports.
-/
def tokenize (mode : Mode) (expression : Text) : Except LexError (List Token) :=
  Lexer.collect (Lexer.start mode expression).items

end KSharp
