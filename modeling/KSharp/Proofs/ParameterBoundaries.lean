import Mathlib.Order.Bounds.Basic
import KSharp.Proofs.TextReplacement
import KSharp.Proofs.TokenContexts

/-! Where parameters and their values begin and end, by the characters of the expression: a value
ends at its first pipe behind no backslash, and steps to tokens agree on which pipes start a
parameter.
-/

namespace KSharp.Scan

-----------------------------------------------------------------------------------------
-- Parameters
-----------------------------------------------------------------------------------------

/-- Whether a step to a token reads a parameter right at the position. -/
def readsParameter (mode : Mode) (expression : Text) (pos : Nat) : Bool :=
  match tokenAt mode expression pos with
  | .token found _ => found.kind = .parameter && found.offset = pos
  | _ => false

/-- A step reads a parameter exactly where its source text stands. Witness: in front of a parameter
that is read at the position there is no trivia, and none in front of a pipe.
-/
theorem readsParameter_iff {mode : Mode} {expression : Text} {pos : Nat}
    : readsParameter mode expression pos
      ↔ ∃ name, Parameter.Name name ∧ Parameter.source name <+: expression.drop pos := by
  constructor
  · intro reads
    unfold readsParameter at reads
    split at reads
    · next found next step =>
      simp only [Bool.and_eq_true, decide_eq_true_eq] at reads
      obtain ⟨parameter, placed⟩ := reads
      obtain ⟨trivia, c, rest, cut, read, offset, -⟩ := ahead_eq_token_iff.mp step
      have nothing : trivia = [] := by
        apply List.length_eq_zero_iff.mp
        omega
      have source := (Trivia.split_between (expression.drop pos)).1
      simp only [cut, nothing, List.nil_append] at source
      have names := Lexeme.read_namesParameter mode c rest
      rw [read] at names
      obtain ⟨name, named, -⟩ := names.2 parameter
      rw [← source] at named
      exact ⟨name, Parameter.name?_eq_some_iff.mp named⟩
    · cases reads
  · rintro ⟨name, grammar, later, source⟩
    have step := ahead_source grammar .nil later mode pos
    rw [List.nil_append, source] at step
    simp [readsParameter, tokenAt, step]

theorem starts_drop (mode : Mode) (expression : Text) (pos : Nat)
    : Parameter.starts (expression.drop pos) = readsParameter mode expression pos := by
  rw [Bool.eq_iff_iff, readsParameter_iff, Parameter.starts, Option.isSome_iff_exists]
  simp only [Parameter.name?_eq_some_iff]

-----------------------------------------------------------------------------------------
-- The end of a value
-----------------------------------------------------------------------------------------

/-- A value from the start on may end at the position: at the end of the expression, or at a pipe
behind no backslash of the value.
-/
def MayEnd (expression : Text) (start stop : Nat) : Prop :=
  start ≤ stop
  ∧ (stop = expression.length
    ∨ expression[stop]? = some '|' ∧ (stop = start ∨ expression[stop - 1]? ≠ some '\\'))

theorem mayEnd_zero {c : Char} {rest : Text} : MayEnd (c :: rest) 0 0 ↔ c = '|' := by
  simp [MayEnd]

/-- A value may end behind the first character where the text behind it may, but for a pipe that
comes next after a backslash.
-/
theorem mayEnd_succ {c : Char} {rest : Text} {stop : Nat}
    (escape : stop = 0 → c = '\\' → rest.head? ≠ some '|')
    : MayEnd (c :: rest) 0 (stop + 1) ↔ MayEnd rest 0 stop := by
  cases stop with
  | zero =>
      cases rest with
      | nil => simp [MayEnd]
      | cons d more =>
          have second : MayEnd (c :: d :: more) 0 1 ↔ d = '|' ∧ c ≠ '\\' := by simp [MayEnd]
          rw [second, mayEnd_zero]
          constructor
          · exact And.left
          · rintro rfl
            exact ⟨rfl, fun backslash => escape rfl backslash rfl⟩
  | succ stop => simp [MayEnd]

/-- The cut of a value ends at the first position where it may, by induction along the cut. -/
theorem isLeast_splitValue (text : Text)
    : IsLeast {stop | MayEnd text 0 stop} (Parameter.splitValue text).1.length := by
  fun_induction Parameter.splitValue text with
  | case1 => exact ⟨by simp [MayEnd], by simp [lowerBounds]⟩
  | case2 rest raw after cut ih =>
      simp only [cut] at ih
      have shift (stop : Nat) : MayEnd ('\\' :: '|' :: rest) 0 (stop + 2) ↔ MayEnd rest 0 stop :=
        (mayEnd_succ (by simp)).trans (mayEnd_succ (by simp))
      refine ⟨(shift _).mpr ih.1, ?_⟩
      -- Neither the backslash nor the pipe that it takes along is an end.
      rintro (_ | _ | stop) ends
      · exact absurd (mayEnd_zero.mp ends) (by decide)
      · simp [MayEnd] at ends
      · exact Nat.add_le_add_right (ih.2 ((shift stop).mp ends)) 2
  | case3 rest => exact ⟨mayEnd_zero.mpr rfl, fun _ _ => Nat.zero_le _⟩
  | case4 c rest escape pipe raw after cut ih =>
      simp only [cut] at ih
      have shift (stop : Nat) : MayEnd (c :: rest) 0 (stop + 1) ↔ MayEnd rest 0 stop := by
        apply mayEnd_succ
        rintro - rfl first
        obtain ⟨more, rfl⟩ := List.head?_eq_some_iff.mp first
        exact escape more rfl rfl
      refine ⟨(shift _).mpr ih.1, ?_⟩
      rintro (_ | stop) ends
      · exact absurd (mayEnd_zero.mp ends) pipe
      · exact Nat.add_le_add_right (ih.2 ((shift stop).mp ends)) 1

/-- Where a value may end is counted from its start. -/
theorem mayEnd_add {expression : Text} {start : Nat} (inside : start ≤ expression.length)
    (stop : Nat)
    : MayEnd expression start (start + stop) ↔ MayEnd (expression.drop start) 0 stop := by
  have ending : start + stop = expression.length ↔ stop = expression.length - start := by omega
  have front : start + stop = start ↔ stop = 0 := by omega
  simp only [MayEnd, List.length_drop, List.getElem?_drop, Nat.le_add_right, Nat.zero_le, true_and,
    ending, front]
  cases stop <;> simp [← Nat.add_assoc]

theorem isLeast_mayEnd {expression : Text} {start : Nat} (inside : start ≤ expression.length)
    : IsLeast {stop | MayEnd expression start stop}
        (start + (Parameter.splitValue (expression.drop start)).1.length) := by
  obtain ⟨ends, least⟩ := isLeast_splitValue (expression.drop start)
  refine ⟨(mayEnd_add inside _).mpr ends, ?_⟩
  intro stop later
  obtain ⟨more, rfl⟩ := Nat.exists_eq_add_of_le later.1
  exact Nat.add_le_add_left (least ((mayEnd_add inside more).mp later)) start

-----------------------------------------------------------------------------------------
-- Values
-----------------------------------------------------------------------------------------

/-- Where the value at a position starts: behind a pipe there, unless it starts a parameter. -/
def valueStart (mode : Mode) (expression : Text) (pos : Nat) : Nat :=
  if expression[pos]? = some '|' ∧ ¬readsParameter mode expression pos then pos + 1 else pos

/-- Where reading goes on behind a value that ends at a position: a pipe there is passed over, unless
it starts a parameter.
-/
def valueNext (mode : Mode) (expression : Text) (stop : Nat) : Nat :=
  if stop = expression.length ∨ readsParameter mode expression stop then stop else stop + 1

/-- Where a value with a start is placed, by the position where it was looked for: if reading goes on
at its start, it is placed on its separator or else on the character before it.
-/
def valueOffset (pos start next : Nat) : Nat :=
  if next ≠ start then start else if start = pos + 1 then pos else pos - 1

theorem startsWithDelimiter_drop (mode : Mode) (expression : Text) (pos : Nat)
    : startsWithDelimiter (expression.drop pos)
      ↔ expression[pos]? = some '|' ∧ ¬readsParameter mode expression pos := by
  simp [startsWithDelimiter, starts_drop mode]

theorem valueStart_eq (mode : Mode) (expression : Text) (pos : Nat)
    : valueStart mode expression pos
      = pos + if startsWithDelimiter (expression.drop pos) then 1 else 0 := by
  simp only [valueStart, ← startsWithDelimiter_drop]
  split <;> rfl

theorem valueNext_eq {expression : Text} {start stop : Nat} (ends : MayEnd expression start stop)
    (mode : Mode)
    : valueNext mode expression stop
      = stop + if startsWithDelimiter (expression.drop stop) then 1 else 0 := by
  simp only [valueNext, startsWithDelimiter_drop mode]
  rcases ends.2 with rfl | ⟨pipe, -⟩
  · simp
  · have inside : stop ≠ expression.length := by
      rintro rfl
      simp at pipe
    cases readsParameter mode expression stop <;> simp [pipe, inside]

theorem valueOffset_eq {pos start : Nat} {separated : Bool}
    (starts : start = pos + if separated then 1 else 0) (next : Nat)
    : valueOffset pos start next
      = if next = start then pos - (1 - if separated then 1 else 0) else start := by
  unfold valueOffset
  cases separated <;> simp [starts]

/-- Parameters are read where their source text stands. A value starts behind a pipe at the position
that starts no parameter, or right there; at the end of the expression there is none. It ends at the
first pipe behind no backslash, or with the expression, and a pipe there is passed over unless it
starts a parameter. Its text is its source text where each pipe behind a backslash has become a pipe
alone. So a step to a value is never an error. Witness: the cut of the value.
-/
theorem valueAt_boundaries (mode : Mode) (expression : Text)
    : (∀ pos,
        readsParameter mode expression pos
        ↔ ∃ name, Parameter.Name name ∧ Parameter.source name <+: expression.drop pos)
      ∧ ∀ pos,
          let start := valueStart mode expression pos
          if expression.length ≤ start then
            valueAt expression pos = .endOfInput
          else
            ∃ stop text,
              IsLeast {stop | MayEnd expression start stop} stop
              ∧ let raw := expression.extract start stop
                let next := valueNext mode expression stop
                Text.Replaced ['\\', '|'] ['|'] raw text
                ∧ valueAt expression pos
                  = .token ⟨.parameterValue, raw, .text text, valueOffset pos start next⟩
                      next := by
  refine ⟨fun pos => readsParameter_iff, ?_⟩
  intro pos start
  have starts : start = pos + if startsWithDelimiter (expression.drop pos) then 1 else 0 :=
    valueStart_eq mode expression pos
  simp only [valueAt, valueAhead, List.drop_drop, ← starts]
  split
  · next beyond => rw [List.drop_eq_nil_of_le beyond]
  · next more =>
    have inside : start ≤ expression.length := by omega
    have least := isLeast_mayEnd inside
    have whole := Parameter.splitValue_append (expression.drop start)
    have nonempty : expression.drop start ≠ [] := by simpa using more
    obtain ⟨c, rest, ahead⟩ := List.exists_cons_of_ne_nil nonempty
    rcases cut : Parameter.splitValue (expression.drop start) with ⟨raw, after⟩
    simp only [cut] at least whole
    have behind : expression.drop (start + raw.length) = after := by
      rw [← List.drop_drop, ← whole, List.drop_left]
    have taken : expression.extract start (start + raw.length) = raw := by
      rw [List.extract_eq_take_drop, Nat.add_sub_cancel_left, ← whole, List.take_left]
    refine ⟨start + raw.length, Escape.unescapePipes raw, least, ?_, ?_⟩
    · rw [taken]
      exact Text.replaced_replaceAll (by simp) ['|'] raw
    · rw [valueNext_eq least.1 mode, behind, taken]
      rw [ahead] at cut ⊢
      simp only [cut, valueOffset_eq starts]

/-- A pipe behind a backslash is part of the value and stands there alone; the next pipe ends it. -/
theorem valueAt_boundaries_escaped
    : let expression := "|(p)a\\|b|c".toList
      ∃ stop,
        IsLeast {stop | MayEnd expression 4 stop} stop
        ∧ expression.extract 4 stop = "a\\|b".toList
        ∧ Text.Replaced ['\\', '|'] ['|'] "a\\|b".toList "a|b".toList
        ∧ valueAt expression 4
          = .token ⟨.parameterValue, "a\\|b".toList, .text "a|b".toList, 4⟩ 9 := by
  intro expression
  obtain ⟨-, values⟩ := valueAt_boundaries .strict expression
  have there := values 4
  have start : valueStart .strict expression 4 = 4 := by decide
  simp only [start] at there
  rw [if_neg (by decide)] at there
  obtain ⟨stop, text, least, replaced, step⟩ := there
  have read : valueAt expression 4
      = .token ⟨.parameterValue, "a\\|b".toList, .text "a|b".toList, 4⟩ 9 := by
    decide
  rw [read] at step
  injection step with token
  injection token with _ raw value
  injection value with value
  rw [← raw, ← value] at replaced
  exact ⟨stop, least, raw.symm, replaced, read⟩

/-- An empty value between its separator and the next parameter is placed on the separator. -/
example : valueAt "|(a)||(b)".toList 4 = .token ⟨.parameterValue, [], .text [], 4⟩ 5 := by decide

end KSharp.Scan
