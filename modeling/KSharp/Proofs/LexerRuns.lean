import KSharp.Lexer
import KSharp.Proofs.ScanSteps

/-! Runs of the lexer over the text ahead, step by step, and what its interfaces make of a run:
the stream of items, the results of successive calls and the list of tokens.
-/

namespace KSharp.Lexer

-----------------------------------------------------------------------------------------
-- The text ahead of a position
-----------------------------------------------------------------------------------------

/-- A text lies ahead of a position: it is what remains of the expression from there on, and
the position is not beyond the end.
-/
structure Ahead (expression : Text) (pos : Nat) (text : Text) : Prop where
  drop_eq : expression.drop pos = text
  le_length : pos ≤ expression.length

theorem Ahead.start (expression : Text) : Ahead expression 0 expression :=
  ⟨rfl, Nat.zero_le _⟩

theorem Ahead.length {expression pos text} (ahead : Ahead expression pos text)
    : pos + text.length = expression.length := by
  obtain ⟨rfl, inside⟩ := ahead
  rw [List.length_drop]
  omega

/-- Behind a step forward within the text lies what the step leaves of it. -/
theorem Ahead.move {expression pos text next} (ahead : Ahead expression pos text)
    (forward : pos ≤ next) (within : next ≤ pos + text.length)
    : Ahead expression next (text.drop (next - pos)) := by
  refine ⟨?_, ahead.length ▸ within⟩
  rw [← ahead.drop_eq, List.drop_drop, Nat.add_sub_cancel' forward]

theorem Ahead.token {expression mode pos text token next} (ahead : Ahead expression pos text)
    (step : Scan.ahead mode pos text = .token token next)
    : Ahead expression next (text.drop (next - pos)) := by
  obtain ⟨forward, within⟩ := Scan.ahead_moves step
  exact ahead.move (Nat.le_of_lt forward) within

theorem Ahead.value {expression pos text token next} (ahead : Ahead expression pos text)
    (step : Scan.valueAhead pos text = .token token next)
    : Ahead expression next (text.drop (next - pos)) := by
  obtain ⟨forward, within⟩ := Scan.valueAhead_moves step
  exact ahead.move forward within

-----------------------------------------------------------------------------------------
-- Runs
-----------------------------------------------------------------------------------------

/-- How a run ends: with the text, or with an error at an offset. -/
inductive Ending where
  | complete
  | failed (cause : LexError.Cause) (offset : Nat)

/-- A run from a phase and a position over the text ahead of it: the tokens read, and how it
ends. A value that is still owed at the end of the text is supplied on its last character.
-/
inductive Run (mode : Mode) : Phase → Nat → Text → List Token → Ending → Prop where
  | token {pos text token next tokens ending}
    (step : Scan.ahead mode pos text = .token token next)
    (more : Run mode (.after token.kind) next (text.drop (next - pos)) tokens ending)
    : Run mode .token pos text (token :: tokens) ending
  | value {pos text token next tokens ending}
    (step : Scan.valueAhead pos text = .token token next)
    (more : Run mode .token next (text.drop (next - pos)) tokens ending)
    : Run mode .value pos text (token :: tokens) ending
  | ended {pos text} (step : Scan.ahead mode pos text = .endOfInput)
    : Run mode .token pos text [] .complete
  | failed {pos text cause offset} (step : Scan.ahead mode pos text = .error cause offset)
    : Run mode .token pos text [] (.failed cause offset)
  | supplied {pos text} (step : Scan.valueAhead pos text = .endOfInput)
    : Run mode .value pos text [.emptyParameterValue (pos + text.length - 1)] .complete

/-- Closed trivia is run over without a token. -/
theorem Run.of_closed {trivia} (closed : Trivia.Closed trivia) (mode : Mode) (pos : Nat)
    : Run mode .token pos trivia [] .complete := by
  refine .ended (Scan.ahead_eq_endOfInput_iff.mpr ?_)
  have whole := closed.split_append []
  rw [List.append_nil] at whole
  rw [whole]
  simp [Trivia.split]

/-- Nothing is read where nothing is ahead. -/
theorem Run.of_nil {mode pos tokens ending} (run : Run mode .token pos [] tokens ending)
    : tokens = [] ∧ ending = .complete := by
  cases run with
  | token step more => cases step
  | ended step => exact ⟨rfl, rfl⟩
  | failed step => cases step

theorem Run.token_append {mode pos front rest token tokens ending}
    (step : Scan.ahead mode pos (front ++ rest) = .token token (pos + front.length))
    (more : Run mode (.after token.kind) (pos + front.length) rest tokens ending)
    : Run mode .token pos (front ++ rest) (token :: tokens) ending := by
  refine .token step ?_
  rwa [Nat.add_sub_cancel_left, List.drop_left]

theorem Run.value_append {mode pos separator raw closing rest tokens ending}
    (reads : Scan.ValueReads separator raw closing rest)
    (more : Run mode .token (pos + (separator ++ (raw ++ closing)).length) rest tokens ending)
    : Run mode .value pos (separator ++ (raw ++ closing) ++ rest)
        (Scan.valueToken pos separator raw closing :: tokens) ending := by
  refine .value (reads.step pos) ?_
  rwa [Nat.add_sub_cancel_left, List.drop_left]

theorem after_ne_finished (kind : Kind) : Phase.after kind ≠ .finished := by
  unfold Phase.after
  split <;> simp

/-- Every text can be run over from an unfinished phase, by induction on its length; of two
phases at one position the value comes first.
-/
theorem run_total (mode : Mode) (phase : Phase) (pos : Nat) (text : Text)
    (active : phase ≠ .finished)
    : ∃ tokens ending, Run mode phase pos text tokens ending := by
  cases phase with
  | finished => contradiction
  | token =>
      cases step : Scan.ahead mode pos text with
      | endOfInput => exact ⟨_, _, .ended step⟩
      | error cause offset => exact ⟨_, _, .failed step⟩
      | token token next =>
          have moves := Scan.ahead_moves step
          obtain ⟨tokens, ending, more⟩ := run_total mode (.after token.kind) next
            (text.drop (next - pos)) (after_ne_finished token.kind)
          exact ⟨_, _, .token step more⟩
  | value =>
      cases step : Scan.valueAhead pos text with
      | endOfInput => exact ⟨_, _, .supplied step⟩
      | error cause offset => exact absurd step Scan.valueAhead_ne_error
      | token token next =>
          obtain ⟨tokens, ending, more⟩ := run_total mode .token next
            (text.drop (next - pos)) (by simp)
          exact ⟨_, _, .value step more⟩
termination_by 2 * text.length + if phase = .value then 1 else 0
decreasing_by
  all_goals subst_vars
  all_goals simp only [List.length_drop, reduceCtorEq, if_true, if_false]
  · split <;> omega
  · omega

/-- The last of the tokens is no parameter value, if there is one. -/
def EndsOrdinary (tokens : List Token) : Prop :=
  ∀ last ∈ tokens.getLast?, last.kind ≠ .parameterValue

theorem EndsOrdinary.tail {token tokens} (ordinary : EndsOrdinary (token :: tokens))
    : EndsOrdinary tokens := by
  intro last member
  apply ordinary last
  rw [Option.mem_def] at member
  simp [List.getLast?_cons, member]

-----------------------------------------------------------------------------------------
-- The stream of items
-----------------------------------------------------------------------------------------

/-- The items that an ending adds to the stream: only a strict error is reported. -/
def Ending.items (mode : Mode) (expression : Text) : Ending → List Item
  | .complete => []
  | .failed cause offset =>
    match mode with
    | .strict => [.error ⟨cause, offset, expression⟩]
    | .lenient => []

theorem items_of_next {lexer item later} (h : next lexer = (some item, later))
    : items lexer = item :: items later := by
  rw [items]
  split
  · next equal => simp [h] at equal
  · next equal =>
    cases h.symm.trans equal
    rfl

theorem items_of_next_none {lexer later} (h : next lexer = (none, later))
    : items lexer = [] := by
  rw [items]
  split
  · rfl
  · next equal => simp [h] at equal

theorem items_finished {expression mode cursor}
    : items ⟨expression, mode, cursor, .finished⟩ = [] :=
  items_of_next_none rfl

/-- The stream is what a run over the text ahead yields, by induction on the run. -/
theorem Run.items_eq {mode phase pos text tokens ending}
    (run : Run mode phase pos text tokens ending)
    {expression} (ahead : Ahead expression pos text)
    : items ⟨expression, mode, pos, phase⟩ = tokens.map .ok ++ ending.items mode expression := by
  induction run with
  | @token pos text token later tokens ending step more ih =>
      have yields : next ⟨expression, mode, pos, .token⟩
          = (some (.ok token), ⟨expression, mode, later, .after token.kind⟩) := by
        simp only [next, Scan.tokenAt, ahead.drop_eq, step, advance]
      rw [items_of_next yields, ih (ahead.token step)]
      rfl
  | @value pos text token later tokens ending step more ih =>
      obtain ⟨separator, closing, parts⟩ := Scan.valueAhead_token step
      have yields : next ⟨expression, mode, pos, .value⟩
          = (some (.ok token), ⟨expression, mode, later, .token⟩) := by
        simp [next, Scan.valueAt, ahead.drop_eq, step, advance, Phase.after, parts.kind]
      rw [items_of_next yields, ih (ahead.value step)]
      rfl
  | @ended pos text step =>
      have ends : next ⟨expression, mode, pos, .token⟩
          = (none, ⟨expression, mode, pos, .finished⟩) := by
        simp [next, Scan.tokenAt, ahead.drop_eq, step, advance, close]
      exact items_of_next_none ends
  | @failed pos text cause offset step =>
      cases mode with
      | strict =>
          have yields : next ⟨expression, .strict, pos, .token⟩
              = (some (.error ⟨cause, offset, expression⟩),
                  ⟨expression, .strict, pos, .finished⟩) := by
            simp only [next, Scan.tokenAt, ahead.drop_eq, step, advance]
          rw [items_of_next yields, items_finished]
          rfl
      | lenient =>
          have ends : next ⟨expression, .lenient, pos, .token⟩
              = (none, ⟨expression, .lenient, pos, .finished⟩) := by
            simp [next, Scan.tokenAt, ahead.drop_eq, step, advance, close]
          exact items_of_next_none ends
  | @supplied pos text step =>
      have yields : next ⟨expression, mode, pos, .value⟩
          = (some (.ok (.emptyParameterValue (pos + text.length - 1))),
              ⟨expression, mode, pos, .finished⟩) := by
        simp [next, Scan.valueAt, ahead.drop_eq, step, advance, close, ahead.length]
      rw [items_of_next yields, items_finished]
      rfl

/-- The items of a failed strict run are its tokens and the error, so they determine both. -/
theorem run_of_items_error {expression tokens error}
    (h : (start .strict expression).items = tokens.map .ok ++ [.error error])
    : Run .strict .token 0 expression tokens (.failed error.cause error.offset) := by
  obtain ⟨read, ending, run⟩ := run_total .strict .token 0 expression (by simp)
  have items := h.symm.trans (run.items_eq (.start expression))
  cases ending with
  | complete =>
      have member : (.error error : Item) ∈ tokens.map .ok ++ [.error error] := by simp
      rw [items] at member
      simp [Ending.items] at member
  | failed cause offset =>
      obtain ⟨same, last⟩ := List.append_inj' items rfl
      obtain rfl : tokens = read := (List.map_inj_right (by simp)).mp same
      cases last
      exact run

-----------------------------------------------------------------------------------------
-- Calls and tokens
-----------------------------------------------------------------------------------------

theorem finished_of_advance_none {lexer scan later} (h : advance lexer scan = (none, later))
    : later.phase = .finished := by
  have closed (h : lexer.close = (none, later)) : later.phase = .finished := by
    unfold close at h
    dsimp only at h
    split at h <;> cases h
    rfl
  cases scan with
  | token token next => cases h
  | endOfInput => exact closed h
  | error cause offset =>
      cases mode : lexer.mode <;> simp only [advance, mode] at h
      · cases h
      · exact closed h

/-- A call that yields nothing leaves a finished lexer, by the cases of its phase. -/
theorem finished_of_next_none {lexer later} (h : next lexer = (none, later))
    : later.phase = .finished := by
  unfold next at h
  split at h
  · exact finished_of_advance_none h
  · exact finished_of_advance_none h
  · next finished =>
    cases h
    exact finished

theorem next_eq_head? (lexer : Lexer) : lexer.next.1 = lexer.items.head? := by
  rcases h : lexer.next with ⟨_ | item, later⟩
  · rw [items_of_next_none h]
    rfl
  · rw [items_of_next h]
    rfl

/-- The call leaves the rest of the stream. -/
theorem items_next (lexer : Lexer) : lexer.next.2.items = lexer.items.tail := by
  rcases h : lexer.next with ⟨_ | item, later⟩
  · obtain ⟨expression, mode, cursor, phase⟩ := later
    obtain rfl : phase = .finished := finished_of_next_none h
    rw [items_of_next_none h, items_finished]
    rfl
  · rw [items_of_next h]
    rfl

/-- Successive calls yield the items of the stream by their numbers, and nothing behind the
stream. By induction on the number of calls.
-/
theorem calls_getElem? (n : Nat) (lexer : Lexer) (i : Nat)
    : (calls n lexer)[i]? = if i < n then some lexer.items[i]? else none := by
  induction n generalizing lexer i with
  | zero => simp [calls]
  | succ n ih =>
      cases i with
      | zero => simp [calls, next_eq_head?, List.head?_eq_getElem?]
      | succ i => simp [calls, ih, items_next]

/-- The tokens of the stream: all of its items but an error at its end. -/
def tokens (lexer : Lexer) : List Token := lexer.items.filterMap Except.toOption

/-- The tokens of the stream are those of a run from the start, which its ending adds no token
to.
-/
theorem Run.tokens_eq {mode expression tokens ending}
    (run : Run mode .token 0 expression tokens ending)
    : (start mode expression).tokens = tokens := by
  have ending_tokens : (ending.items mode expression).filterMap Except.toOption = [] := by
    cases ending <;> cases mode <;> rfl
  rw [Lexer.tokens, start, run.items_eq (.start expression), List.filterMap_append,
    ending_tokens, List.append_nil, List.filterMap_map]
  exact List.filterMap_some

/-- Each token of the stream is read by a run from the start. -/
theorem exists_run_of_mem {mode expression token} (member : token ∈ (start mode expression).tokens)
    : ∃ tokens ending, Run mode .token 0 expression tokens ending ∧ token ∈ tokens := by
  obtain ⟨tokens, ending, run⟩ := run_total mode .token 0 expression (by simp)
  rw [run.tokens_eq] at member
  exact ⟨tokens, ending, run, member⟩

theorem collect_ok (tokens : List Token) : collect (tokens.map .ok) = .ok tokens := by
  induction tokens with
  | nil => rfl
  | cons token rest ih => simp [collect, ih]

theorem collect_error (tokens : List Token) (error : LexError)
    : collect (tokens.map .ok ++ [.error error]) = .error error := by
  induction tokens with
  | nil => rfl
  | cons token rest ih => simp [collect, ih]

/-- The tokens of an expression are collected from the items of a run from its start. -/
theorem Run.tokenize_eq {mode expression tokens ending}
    (run : Run mode .token 0 expression tokens ending)
    : tokenize mode expression = collect (tokens.map .ok ++ ending.items mode expression) := by
  rw [tokenize, start, run.items_eq (.start expression)]

theorem Run.tokenize_complete {expression tokens}
    (run : Run .strict .token 0 expression tokens .complete)
    : tokenize .strict expression = .ok tokens := by
  rw [run.tokenize_eq, Ending.items, List.append_nil, collect_ok]

theorem Run.tokenize_failed {expression tokens cause offset}
    (run : Run .strict .token 0 expression tokens (.failed cause offset))
    : tokenize .strict expression = .error ⟨cause, offset, expression⟩ := by
  rw [run.tokenize_eq, Ending.items, collect_error]

/-- An expression has the tokens of a strict run to the end of the text. -/
theorem tokenize_strict_eq_ok_iff {expression tokens}
    : tokenize .strict expression = .ok tokens
      ↔ Run .strict .token 0 expression tokens .complete := by
  refine ⟨?_, Run.tokenize_complete⟩
  intro h
  obtain ⟨read, ending, run⟩ := run_total .strict .token 0 expression (by simp)
  cases ending with
  | complete =>
      rw [run.tokenize_complete] at h
      cases h
      exact run
  | failed cause offset =>
      rw [run.tokenize_failed] at h
      cases h

/-- A strict error is the last item of the stream, behind tokens. -/
theorem items_of_tokenize_error {expression error}
    (h : tokenize .strict expression = .error error)
    : ∃ tokens : List Token,
        (start .strict expression).items = tokens.map .ok ++ [.error error] := by
  obtain ⟨tokens, ending, run⟩ := run_total .strict .token 0 expression (by simp)
  cases ending with
  | complete =>
      rw [run.tokenize_complete] at h
      cases h
  | failed cause offset =>
      rw [run.tokenize_failed] at h
      cases h
      exact ⟨tokens, run.items_eq (.start expression)⟩

/-- A lenient run gives the tokens of an expression, however it ends. -/
theorem Run.tokenize_lenient {expression tokens ending}
    (run : Run .lenient .token 0 expression tokens ending)
    : tokenize .lenient expression = .ok tokens := by
  have silent : ending.items .lenient expression = [] := by cases ending <;> rfl
  rw [run.tokenize_eq, silent, List.append_nil, collect_ok]

/-- The tokens of an expression are those of a run from its start. -/
theorem exists_run_of_tokenize {mode expression tokens} (read : tokenize mode expression = .ok tokens)
    : ∃ ending, Run mode .token 0 expression tokens ending := by
  cases mode with
  | strict => exact ⟨.complete, tokenize_strict_eq_ok_iff.mp read⟩
  | lenient =>
      obtain ⟨found, ending, run⟩ := run_total .lenient .token 0 expression (by simp)
      cases run.tokenize_lenient.symm.trans read
      exact ⟨ending, run⟩

end KSharp.Lexer
