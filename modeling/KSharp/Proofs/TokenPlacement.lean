import KSharp.Proofs.LexerRuns

/-! Where the tokens of an expression stand: each is a slice of it, and they follow one another
in its order. Only an empty parameter value may stand inside the parameter before it.
-/

namespace KSharp

-----------------------------------------------------------------------------------------
-- Slices
-----------------------------------------------------------------------------------------

/-- A token is the slice of the expression from its offset to its end. -/
structure Token.Within (expression : Text) (token : Token) : Prop where
  offset_lt : token.offset < expression.length
  offset_le_stop : token.offset ≤ token.stop
  stop_le : token.stop ≤ expression.length
  raw_eq : token.raw = expression.extract token.offset token.stop

theorem Token.within_of_empty {expression : Text} {token : Token} (empty : token.raw = [])
    (inside : token.offset < expression.length)
    : token.Within expression := by
  have stop : token.stop = token.offset := by simp [Token.stop, empty]
  exact ⟨inside, Nat.le_of_eq stop.symm, stop ▸ Nat.le_of_lt inside, by simp [stop, empty]⟩

/-- A token that is cut out of the text ahead is the slice behind what precedes it there. -/
theorem Lexer.Ahead.within {expression pos text before after} {token : Token}
    (ahead : Lexer.Ahead expression pos text) (source : text = before ++ token.raw ++ after)
    (offset : token.offset = pos + before.length) (inside : before.length < text.length)
    : token.Within expression := by
  have length := ahead.length
  have parts := congrArg List.length source
  simp only [List.length_append] at parts
  have stop : token.stop = token.offset + token.raw.length := rfl
  refine ⟨by omega, by omega, by omega, ?_⟩
  calc
    token.raw = (token.raw ++ after).take token.raw.length := by rw [List.take_left]
    _ = (text.drop before.length).take token.raw.length := by
      rw [source, List.append_assoc, List.drop_left]
    _ = expression.extract token.offset token.stop := by
      rw [List.extract_eq_take_drop, stop, Nat.add_sub_cancel_left, offset, ← List.drop_drop,
        ahead.drop_eq]

-----------------------------------------------------------------------------------------
-- Order
-----------------------------------------------------------------------------------------

/-- How two tokens follow each other: by their offsets, and by their source texts if neither
is empty. The earlier one reaches beyond the later one's offset only if it is a parameter and
the later one its empty value, which then stands on the parameter's last character.
-/
structure Token.Precedes (earlier later : Token) : Prop where
  offset_lt : earlier.offset < later.offset
  stop_le : earlier.raw ≠ [] → later.raw ≠ [] → earlier.stop ≤ later.offset
  overlap
    : later.offset < earlier.stop
      → earlier.kind = .parameter
        ∧ later.kind = .parameterValue
        ∧ later.raw = []
        ∧ later.offset = earlier.stop - 1

theorem Token.precedes_of_stop_le {earlier later : Token} (offset : earlier.offset < later.offset)
    (stop : earlier.stop ≤ later.offset)
    : earlier.Precedes later :=
  ⟨offset, fun _ _ => stop, fun overlap => absurd overlap (Nat.not_lt.mpr stop)⟩

/-- A token that a phase may yield at a position or later: an owed value that is empty may also
stand on the character before the position.
-/
def Token.From (phase : Lexer.Phase) (pos : Nat) (token : Token) : Prop :=
  pos ≤ token.offset
  ∨ (phase = .value
    ∧ token.kind = .parameterValue
    ∧ token.raw = []
    ∧ token.offset + 1 = pos)

namespace Lexer

/-- The tokens of a run from a phase and a position are slices of the expression that stand
there or later, and each precedes all that follow it.
-/
structure Placed (expression : Text) (phase : Phase) (pos : Nat) (tokens : List Token) : Prop where
  within : ∀ token ∈ tokens, token.Within expression
  placed : ∀ token ∈ tokens, token.From phase pos
  ordered : tokens.Pairwise Token.Precedes

/-- A token joins the tokens behind it if it precedes whatever the later phase may yield. -/
theorem Placed.cons {expression phase later pos next token tokens}
    (rest : Placed expression later next tokens) (within : token.Within expression)
    (here : token.From phase pos)
    (precedes
      : ∀ follower : Token,
          follower.From later next → pos ≤ follower.offset ∧ token.Precedes follower)
    : Placed expression phase pos (token :: tokens) := by
  refine ⟨List.forall_mem_cons.mpr ⟨within, rest.within⟩, ?_, ?_⟩
  · refine List.forall_mem_cons.mpr ⟨here, ?_⟩
    intro follower member
    exact Or.inl (precedes follower (rest.placed follower member)).1
  · refine .cons ?_ rest.ordered
    intro follower member
    exact (precedes follower (rest.placed follower member)).2

/-- A step to a token keeps tokens placed. Behind a parameter an empty value may stand on its
last character, which is not its first one, since a parameter has a name between its marks.
-/
theorem Placed.token {expression pos text token next trivia tokens}
    (step : Scan.TokenStep pos text token next trivia) (ahead : Ahead expression pos text)
    (rest : Placed expression (.after token.kind) next tokens)
    : Placed expression .token pos (token :: tokens) := by
  have positive : 0 < token.raw.length := List.length_pos_iff.mpr step.nonempty
  have size := congrArg List.length step.source
  have offset := step.offset
  have moves := step.moves
  simp only [List.length_append] at size moves
  have stop : token.stop = next := by
    simp only [Token.stop]
    omega
  refine rest.cons (ahead.within step.source offset (by omega)) (Or.inl (by omega)) ?_
  rintro follower (behind | ⟨owed, kind, empty, before⟩)
  · exact ⟨by omega, Token.precedes_of_stop_le (by omega) (by omega)⟩
  · -- The follower is an owed empty value on the last character of the token.
    have parameter : token.kind = .parameter := by
      unfold Phase.after at owed
      split at owed
      · assumption
      · cases owed
    obtain ⟨name, named⟩ := step.named parameter
    have long : token.raw.length = name.length + 3 := by simp [named, Parameter.source]
    refine ⟨by omega, by omega, fun _ nonempty => absurd empty nonempty, ?_⟩
    intro _
    exact ⟨parameter, kind, empty, by omega⟩

/-- A step to a parameter value keeps tokens placed, by the two places of a value. Reading goes
on behind the value's offset either way.
-/
theorem Placed.value {expression pos text token next separator closing tokens}
    (step : Scan.ValueStep pos text token next separator closing)
    (ahead : Ahead expression pos text) (behind : 0 < pos)
    (rest : Placed expression .token next tokens)
    : Placed expression .value pos (token :: tokens) := by
  have length := ahead.length
  have inside := step.inside
  have offset := step.offset
  have moves := step.moves
  have stop : token.stop = token.offset + token.raw.length := rfl
  simp only [List.length_append] at moves
  have precedes (before : token.offset < next) (ends : token.stop ≤ next) (follower : Token)
      (later : follower.From .token next)
      : pos ≤ follower.offset ∧ token.Precedes follower := by
    rcases later with later | ⟨owed, _⟩
    · exact ⟨by omega, Token.precedes_of_stop_le (by omega) (by omega)⟩
    · cases owed
  -- An empty value that no pipe closes stands on its separator or, without one, before `pos`.
  by_cases empty : token.raw = [] ∧ closing = []
  · rw [if_pos empty] at offset
    obtain ⟨raw, closed⟩ := empty
    simp only [raw, closed, List.length_nil] at stop moves
    refine rest.cons (Token.within_of_empty raw (by omega)) ?_ (precedes ?_ ?_)
    · rcases step.separates with rfl | rfl
      · exact Or.inr ⟨rfl, step.kind, raw, by rw [offset, List.length_nil]; omega⟩
      · exact Or.inl (by rw [offset]; simp)
    · omega
    · omega
  · rw [if_neg empty] at offset
    have more : 0 < token.raw.length + closing.length := by
      rw [← List.length_eq_zero_iff, ← List.length_eq_zero_iff] at empty
      omega
    have source : text = separator ++ token.raw ++ (closing ++ text.drop (next - pos)) := by
      rw [← List.append_assoc]
      exact step.source
    exact rest.cons (ahead.within source offset inside) (Or.inl (by omega))
      (precedes (by omega) (by omega))

/-- A supplied value stands on the expression's last character, which is a separator or the end
of the parameter.
-/
theorem Placed.supplied {expression pos text} (ahead : Ahead expression pos text)
    (behind : 0 < pos) (pipe : Scan.PipeOrNothing text)
    : Placed expression .value pos [.emptyParameterValue (pos + text.length - 1)] := by
  have length := ahead.length
  have inside : pos + text.length - 1 < expression.length := by omega
  have here : Token.From .value pos (.emptyParameterValue (pos + text.length - 1)) := by
    rcases pipe with rfl | rfl
    · exact Or.inr ⟨rfl, rfl, rfl, Nat.sub_add_cancel behind⟩
    · exact Or.inl (Nat.le_refl pos)
  exact ⟨List.forall_mem_singleton.mpr (Token.within_of_empty rfl inside),
    List.forall_mem_singleton.mpr here, List.pairwise_singleton _ _⟩

/-- The tokens of a run are placed, by induction on the run. A value is owed only behind a
parameter, so never at the start of the expression.
-/
theorem Run.placed {mode phase pos text tokens ending}
    (run : Run mode phase pos text tokens ending)
    {expression} (ahead : Ahead expression pos text) (behind : phase = .value → 0 < pos)
    : Placed expression phase pos tokens := by
  induction run with
  | token step more ih =>
      obtain ⟨trivia, parts⟩ := Scan.ahead_token step
      have positive := Nat.zero_lt_of_lt (Scan.lt_of_ahead step)
      exact .token parts ahead (ih (ahead.token step) (fun _ => positive))
  | value step more ih =>
      obtain ⟨separator, closing, parts⟩ := Scan.valueAhead_token step
      exact .value parts ahead (behind rfl) (ih (ahead.value step) (by simp))
  | ended step => exact ⟨by simp, by simp, .nil⟩
  | failed step => exact ⟨by simp, by simp, .nil⟩
  | supplied step => exact .supplied ahead (behind rfl) (Scan.valueAhead_endOfInput step)

/-- Tokens with increasing offsets below a bound are at most as many, since those offsets are
distinct numbers below it.
-/
theorem length_le_of_ordered {tokens : List Token} {bound : Nat}
    (ordered : tokens.Pairwise Token.Precedes) (below : ∀ token ∈ tokens, token.offset < bound)
    : tokens.length ≤ bound := by
  have distinct : (tokens.map Token.offset).Nodup :=
    List.pairwise_map.mpr (ordered.imp (fun precedes => Nat.ne_of_lt precedes.offset_lt))
  have numbers : tokens.map Token.offset ⊆ List.range bound := by
    intro offset member
    obtain ⟨token, held, rfl⟩ := List.mem_map.mp member
    exact List.mem_range.mpr (below token held)
  simpa using distinct.length_le_of_subset numbers

/-- The tokens of a stream, up to an error if there is one, are slices of the expression in its
order, at most one for each of its characters. Witness: the run from the start, where no value
is owed.
-/
theorem tokens_placed (mode : Mode) (expression : Text)
    : let tokens := (start mode expression).tokens
      (∀ token ∈ tokens, token.Within expression)
      ∧ tokens.Pairwise Token.Precedes
      ∧ tokens.length ≤ expression.length := by
  obtain ⟨tokens, ending, run⟩ := run_total mode .token 0 expression (by simp)
  have placed := run.placed (.start expression) (by simp)
  rw [run.tokens_eq]
  refine ⟨placed.within, placed.ordered, length_le_of_ordered placed.ordered ?_⟩
  intro token member
  exact (placed.within token member).offset_lt

end Lexer

end KSharp
