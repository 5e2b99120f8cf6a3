import KSharp.Proofs.LexerRuns
import KSharp.Proofs.TokenContexts

/-! The first tokens of a run, up to a position at which no value is owed. They are read again
where another text stands behind that position, if it does not reach into them.
-/

namespace KSharp

/-- The position behind tokens: the end of the last one, or the given position without any. -/
def Token.behind (pos : Nat) : List Token → Nat
  | [] => pos
  | token :: rest => behind token.stop rest

namespace Lexer

-----------------------------------------------------------------------------------------
-- The first tokens of a run
-----------------------------------------------------------------------------------------

/-- A strict run from a phase and a position takes the front of a text for tokens, with the rest
of the text behind it. No value is owed behind the last token, which is no value itself.
-/
inductive Takes : Phase → Nat → Text → Text → List Token → Prop where
  | nothing {pos rest} : Takes .token pos [] rest []
  | token {pos lead token front rest tokens} (closed : Trivia.Closed lead)
    (step
      : Scan.ahead .strict pos (lead ++ token.raw ++ (front ++ rest))
        = .token token (pos + (lead ++ token.raw).length))
    (more : Takes (.after token.kind) (pos + (lead ++ token.raw).length) front rest tokens)
    : Takes .token pos (lead ++ token.raw ++ front) rest (token :: tokens)
  | value {pos separator raw closing front rest follower tokens}
    (reads : Scan.ValueReads separator raw closing (front ++ rest))
    (more
      : Takes .token (pos + (separator ++ (raw ++ closing)).length) front rest
          (follower :: tokens))
    : Takes .value pos (separator ++ (raw ++ closing) ++ front) rest
        (Scan.valueToken pos separator raw closing :: follower :: tokens)

/-- Behind the last of the tokens no value is owed, and it is no value itself. -/
def Settled (tokens : List Token) : Prop :=
  ∀ last, tokens.getLast? = some last → last.kind ≠ .parameter ∧ last.kind ≠ .parameterValue

theorem Settled.tail {token tokens} (settled : Settled (token :: tokens)) : Settled tokens := by
  intro last member
  apply settled last
  simp [List.getLast?_cons, member]

/-- The first tokens of a run take a front of its text, behind which the run goes on. By induction
on them.
-/
theorem Run.takes {phase pos text before after ending}
    (run : Run .strict phase pos text (before ++ after) ending) (settled : Settled before)
    (owed : phase = .value → before ≠ [])
    : ∃ front rest,
        text = front ++ rest
        ∧ Takes phase pos front rest before
        ∧ Run .strict .token (pos + front.length) rest after ending := by
  induction before generalizing phase pos text with
  | nil =>
      cases phase with
      | token => exact ⟨[], text, rfl, .nothing, run⟩
      | value => exact absurd rfl (owed rfl)
      | finished => cases run
  | cons token tokens ih =>
      rw [List.cons_append] at run
      generalize others : tokens ++ after = later at run
      cases run with
      | @token _ _ _ next _ _ step more =>
          subst others
          have next : Phase.after token.kind = .value → tokens ≠ [] := by
            intro value empty
            subst empty
            apply (settled token rfl).1
            unfold Phase.after at value
            split at value
            · assumption
            · cases value
          obtain ⟨front, rest, split, takes, run⟩ := ih more settled.tail next
          obtain ⟨lead, parts⟩ := Scan.ahead_token step
          have source := parts.source
          have moves := parts.moves
          rw [split] at source
          subst source moves
          refine ⟨_, rest, (List.append_assoc _ _ _).symm, .token parts.closed step takes, ?_⟩
          rwa [List.length_append, ← Nat.add_assoc]
      | value step more =>
          subst others
          obtain ⟨front, rest, split, takes, run⟩ := ih more settled.tail (by simp)
          obtain ⟨separator, raw, closing, reads, source, rfl, moves⟩ := Scan.valueAhead_reads step
          rw [split] at source reads
          subst source moves
          cases tokens with
          | nil => exact absurd rfl (settled _ rfl).2
          | cons follower tokens =>
              refine ⟨_, rest, (List.append_assoc _ _ _).symm, .value reads takes, ?_⟩
              rwa [List.length_append, ← Nat.add_assoc]
      | supplied step =>
          obtain ⟨rfl, -⟩ := List.append_eq_nil_iff.mp others
          exact absurd rfl (settled _ rfl).2

/-- The front ends behind the last token that it is taken for. -/
theorem Takes.behind_eq {phase pos front rest tokens} (takes : Takes phase pos front rest tokens)
    : Token.behind pos tokens = pos + front.length := by
  induction takes with
  | nothing => rfl
  | token closed step more ih =>
      obtain ⟨lead, c, rest, -, -, -, stop⟩ := Scan.ahead_eq_token_iff.mp step
      rw [Token.behind, ← stop, ih, Nat.add_assoc, ← List.length_append]
  | value reads more ih =>
      rw [Token.behind, List.length_append, ← Nat.add_assoc, ← ih]
      rfl

-----------------------------------------------------------------------------------------
-- Another text behind the first tokens
-----------------------------------------------------------------------------------------

/-- The last of the tokens is the point of a member: it stands right behind an integer. -/
def EndsInMemberPoint (tokens : List Token) : Prop :=
  ∃ before whole point,
    tokens = before ++ [whole, point]
    ∧ whole.kind = .integer
    ∧ point.kind = .dot
    ∧ point.offset = whole.stop

/-- Behind tokens a text can stand in the place of another one: it is cut from it, it starts with
no point, and it does not take the member away from a point.
-/
structure Replaces (tokens : List Token) (rest later : Text) : Prop where
  cut : later.CutOf rest
  point : later.head? ≠ some '.'
  member : EndsInMemberPoint tokens → Text.Stops isWordStart rest

theorem Replaces.tail {token tokens rest later} (replaces : Replaces (token :: tokens) rest later)
    : Replaces tokens rest later := by
  refine ⟨replaces.cut, replaces.point, ?_⟩
  intro ends
  apply replaces.member
  obtain ⟨before, whole, point, equal, facts⟩ := ends
  exact ⟨token :: before, whole, point, by rw [equal, List.cons_append], facts⟩

theorem Takes.front_ne_nil {pos front rest token tokens}
    (takes : Takes .token pos front rest (token :: tokens))
    : front ≠ [] := by
  intro nothing
  subst nothing
  generalize equal : ([] : Text) = front at takes
  cases takes with
  | token closed step more =>
      have forward := Scan.lt_of_ahead step
      rw [(List.append_eq_nil_iff.mp equal.symm).1, List.length_nil] at forward
      omega

/-- A parameter in front of a text is the first token, so the front holds it. -/
theorem Takes.name? {pos front rest token tokens name}
    (takes : Takes .token pos front rest (token :: tokens))
    (named : Parameter.name? (front ++ rest) = some name) (later : Text)
    : Parameter.name? (front ++ later) = some name := by
  obtain ⟨grammar, after, source⟩ := Parameter.name?_eq_some_iff.mp named
  have first := Scan.ahead_source grammar .nil after .strict pos
  rw [List.nil_append] at first
  cases takes with
  | @token _ lead _ front _ _ closed step more =>
      have moves : (Parameter.source name).length = (lead ++ token.raw).length := by
        rw [source, List.append_assoc, step, Scan.token.injEq] at first
        exact (Nat.add_left_cancel first.2).symm
      rw [List.append_assoc] at source
      obtain ⟨same, -⟩ := List.append_inj source moves
      refine Parameter.name?_eq_some_iff.mpr ⟨grammar, ?_⟩
      rw [same, List.append_assoc]
      exact List.prefix_append _ _

theorem Scan.ahead_point (rest : Text) (pos : Nat)
    : Scan.ahead .strict pos ('.' :: rest) = .token ⟨.dot, ['.'], .text ['.'], pos⟩ (pos + 1) :=
  Scan.ahead_of_reads .nil (Trivia.absent_cons (by decide) (by decide) rest)
    (.punctuation rfl) .strict pos

/-- A point in front of a text is the first token, so a point alone is the only one. -/
theorem Takes.point {pos rest tokens} (takes : Takes .token pos ['.'] rest tokens)
    : ∃ point : Token, tokens = [point] ∧ point.kind = .dot ∧ point.offset = pos := by
  have first := Scan.ahead_point rest pos
  generalize equal : ['.'] = front at takes
  cases takes with
  | nothing => cases equal
  | @token _ lead token front _ tokens closed step more =>
      have text : lead ++ token.raw ++ (front ++ rest) = '.' :: rest := by
        rw [← List.append_assoc, ← equal]
        rfl
      rw [text, first, Scan.token.injEq] at step
      obtain ⟨same, moves⟩ := step
      have empty : front = [] := by
        have length := congrArg List.length equal
        rw [List.length_append, List.length_singleton] at length
        apply List.length_eq_zero_iff.mp
        omega
      subst same
      cases tokens with
      | nil => exact ⟨_, rfl, rfl, rfl⟩
      | cons second tokens =>
          have later : Takes .token _ front rest (second :: tokens) := more
          exact absurd empty later.front_ne_nil

/-- A point with a member stays one where another text takes the place of the one behind the first
tokens, since that text starts with no point and a point alone is not parted from its member.
-/
theorem Takes.member {pos front rest tokens} (takes : Takes .token pos front rest tokens)
    (member : (front ++ rest).head? = some '.' → Lexeme.MemberAhead (front ++ rest))
    {whole : Token} (integer : whole.kind = .integer) (stands : whole.stop = pos) {later : Text}
    (replaces : Replaces (whole :: tokens) rest later) (point : (front ++ later).head? = some '.')
    : Lexeme.MemberAhead (front ++ later) := by
  cases front with
  | nil => exact absurd point replaces.point
  | cons d more =>
      obtain rfl : d = '.' := by simpa using point
      have ahead := member rfl
      cases more with
      | cons c more => exact ahead
      | nil =>
          obtain ⟨point, rfl, dot, offset⟩ := takes.point
          have stops := replaces.member
            ⟨[], whole, point, rfl, integer, dot, offset.trans stands.symm⟩
          cases rest with
          | nil => exact ahead.elim
          | cons c rest =>
              have start : isWordStart c := ahead
              rw [Text.stops_cons_iff.mp stops] at start
              cases start

/-- The first tokens are read again where another text takes the place of the one behind them, and
then the tokens of that text. By induction on them: the text behind each is cut from what it was.
-/
theorem Takes.again {phase pos front rest tokens} (takes : Takes phase pos front rest tokens)
    {later : Text} (replaces : Replaces tokens rest later) {mode others ending}
    (run : Run mode .token (pos + front.length) later others ending)
    : Run mode phase pos (front ++ later) (tokens ++ others) ending := by
  induction takes with
  | nothing => exact run
  | @token pos lead token front rest tokens closed step more ih =>
      have behind : (lead ++ token.raw ++ (front ++ rest)).drop
          (pos + (lead ++ token.raw).length - pos) = front ++ rest := by
        rw [Nat.add_sub_cancel_left, List.drop_left]
      obtain ⟨stop, offset⟩ : pos + (lead ++ token.raw).length = token.stop
          ∧ pos + lead.length = token.offset := by
        obtain ⟨-, -, -, -, -, -, stop⟩ := Scan.ahead_eq_token_iff.mp step
        refine ⟨stop, ?_⟩
        rw [Token.stop, List.length_append] at stop
        omega
      have member : token.kind = .integer → (front ++ later).head? = some '.'
          → Lexeme.MemberAhead (front ++ later) := by
        intro integer
        have reads := (Scan.ahead_reads step).2
        rw [behind, integer] at reads
        rw [integer] at more
        exact Takes.member more reads.member integer stop.symm replaces
      have cut := replaces.cut.append front
      rw [← behind] at cut
      have again := Scan.ahead_again step closed cut member mode pos
      rw [offset] at again
      rw [List.append_assoc]
      refine .token_append again (ih replaces.tail ?_)
      rwa [Nat.add_assoc, ← List.length_append]
  | @value pos separator raw closing front rest follower tokens reads more ih =>
      have parameter : closing = [] → Parameter.name? (front ++ later) ≠ none := by
        intro bare
        subst bare
        have remains : front ++ rest ≠ [] := by simp [more.front_ne_nil]
        obtain ⟨name, named⟩ := Option.ne_none_iff_exists'.mp (reads.parameter_after remains)
        rw [more.name? named]
        exact Option.some_ne_none name
      have again := reads.cut (replaces.cut.append front) parameter
      rw [List.append_assoc]
      refine .value_append again (ih replaces.tail ?_)
      rwa [Nat.add_assoc, ← List.length_append]

end Lexer

end KSharp
