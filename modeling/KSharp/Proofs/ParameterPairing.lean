import Mathlib
import KSharp.Proofs.LexerRuns

/-! Parameters and their values come in pairs, whatever ends the value and however the stream
itself ends.
-/

namespace KSharp.Lexer

/-- Kinds in the order of a run from a phase: a value comes first exactly if the phase owes
one, and later exactly behind a parameter.
-/
structure Paired (phase : Phase) (kinds : List Kind) : Prop where
  head : kinds.head? = some .parameterValue ↔ phase = .value
  next : ∀ i, kinds[i + 1]? = some .parameterValue ↔ kinds[i]? = some .parameter

theorem after_eq_value_iff {kind} : Phase.after kind = .value ↔ kind = .parameter := by
  unfold Phase.after
  split <;> simp_all

/-- A kind joins the paired kinds behind it, by the position that is asked for. -/
theorem Paired.cons {phase kind kinds} (rest : Paired (.after kind) kinds)
    (head : kind = .parameterValue ↔ phase = .value)
    : Paired phase (kind :: kinds) := by
  refine ⟨by simpa using head, ?_⟩
  intro i
  cases i with
  | zero =>
      calc
        (kind :: kinds)[1]? = some .parameterValue
          ↔ kinds.head? = some .parameterValue := by simp [List.head?_eq_getElem?]
        _ ↔ kind = .parameter := rest.head.trans after_eq_value_iff
        _ ↔ (kind :: kinds)[0]? = some .parameter := by simp
  | succ i => simpa using rest.next i

/-- The tokens of a run are paired, by induction on the run: a step to a token yields no value,
and a step from a phase that owes one yields nothing else.
-/
theorem Run.paired {mode phase pos text tokens ending}
    (run : Run mode phase pos text tokens ending)
    : Paired phase (tokens.map Token.kind) := by
  have nothing : Paired .token [] := ⟨by simp, by simp⟩
  have supplied : Paired .value [.parameterValue] := Paired.cons nothing (by simp)
  induction run with
  | token step more ih =>
      obtain ⟨trivia, parts⟩ := Scan.ahead_token step
      exact ih.cons (by simp [parts.ordinary])
  | value step more ih =>
      obtain ⟨separator, closing, parts⟩ := Scan.valueAhead_token step
      have alone : Paired (.after .parameterValue) _ := ih
      rw [List.map_cons, parts.kind]
      exact alone.cons (by simp)
  | ended step => exact nothing
  | failed step => exact nothing
  | supplied step => exact supplied

/-- The kind of the token that a call yields, if it yields one. -/
def answerKind : Option Item → Option Kind
  | some (.ok token) => some token.kind
  | _ => none

/-- Of the items of a run only the tokens have a kind, by induction on them; behind them there is
at most an error.
-/
theorem answerKind_getElem? (tokens : List Token) (ending : Ending) (mode : Mode)
    (expression : Text) (i : Nat)
    : answerKind (tokens.map .ok ++ ending.items mode expression)[i]?
      = (tokens.map Token.kind)[i]? := by
  induction tokens generalizing i with
  | nil => cases ending <;> cases mode <;> cases i <;> simp [Ending.items, answerKind]
  | cons token rest ih =>
      cases i with
      | zero => simp [answerKind]
      | succ i => simpa using ih i

/-- Of any number of calls on a lexer each that yields a parameter is followed by one that
yields its value, as soon as there is one more call, and by no second value; and each that
yields a value follows one that yields a parameter. Witness: the run from the start, whose
items the calls yield by their numbers.
-/
theorem calls_paired (mode : Mode) (expression : Text) (n : Nat)
    : let kinds := ((start mode expression).calls n).map answerKind
      (∀ i,
        kinds[i]? = some (some .parameter)
        → (i + 1 < n → kinds[i + 1]? = some (some .parameterValue))
          ∧ kinds[i + 2]? ≠ some (some .parameterValue))
      ∧ ∀ i,
          kinds[i]? = some (some .parameterValue)
          → ∃ before, i = before + 1 ∧ kinds[before]? = some (some .parameter) := by
  obtain ⟨tokens, ending, run⟩ := run_total mode .token 0 expression (by simp)
  have paired := run.paired
  have yields (i : Nat) (kind : Kind)
      : (((start mode expression).calls n).map answerKind)[i]? = some (some kind)
        ↔ i < n ∧ (tokens.map Token.kind)[i]? = some kind := by
    rw [List.getElem?_map, calls_getElem?, start, run.items_eq (.start expression)]
    split <;> simp [answerKind_getElem?, *]
  simp only [yields, ne_eq, not_and]
  refine ⟨?_, ?_⟩
  · rintro i ⟨_, parameter⟩
    have value := (paired.next i).mpr parameter
    refine ⟨fun more => ⟨more, value⟩, ?_⟩
    intro _ second
    have again := (paired.next (i + 1)).mp second
    exact absurd (value.symm.trans again) (by simp)
  · rintro i ⟨called, value⟩
    cases i with
    | zero =>
        have owed := paired.head.mp (List.head?_eq_getElem? ▸ value)
        cases owed
    | succ before => exact ⟨before, rfl, Nat.lt_of_succ_lt called, (paired.next before).mp value⟩

/-- A parameter behind the empty value of another one has a value as well, though the text
ends.
-/
theorem calls_paired_chained
    : let kinds := ((start .strict "|(a)|(b)".toList).calls 5).map answerKind
      kinds[2]? = some (some .parameter) ∧ kinds[3]? = some (some .parameterValue) := by
  have second : (((start .strict "|(a)|(b)".toList).calls 5).map answerKind)[2]?
      = some (some .parameter) := by
    cbv
  exact ⟨second, ((calls_paired .strict _ 5).1 2 second).1 (by decide)⟩

end KSharp.Lexer
