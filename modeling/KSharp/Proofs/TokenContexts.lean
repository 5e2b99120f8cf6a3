import KSharp.Proofs.LexemeSteps

/-! What stands behind a token decides where it ends, but of that text only the front up to the
next blank: a token is read again from its source text where a blank follows, or where the text
behind it is cut.
-/

namespace KSharp

-----------------------------------------------------------------------------------------
-- Texts up to a blank
-----------------------------------------------------------------------------------------

namespace Text

/-- A text is cut from another one if it begins like it up to its own first blank: what it starts
with and holds no blank, the other text starts with as well.
-/
def CutOf (later text : Text) : Prop :=
  ∀ front, front.any isBlank = false → front <+: later → front <+: text

theorem CutOf.of_front {later text : Text} (front : later <+: text) : later.CutOf text := by
  intro start _ starts
  exact starts.trans front

theorem CutOf.of_blank {c : Char} (blank : isBlank c) (later text : Text)
    : CutOf (c :: later) text := by
  intro front plain starts
  cases front with
  | nil => exact List.nil_prefix
  | cons d more =>
      obtain ⟨rfl, -⟩ := List.cons_prefix_cons.mp starts
      rw [List.any_cons, blank] at plain
      cases plain

/-- Two texts behind the same one are cut as they are, since a front reaches into them or not. -/
theorem CutOf.append {later text : Text} (cut : later.CutOf text) (same : Text)
    : CutOf (same ++ later) (same ++ text) := by
  intro front plain starts
  rcases List.prefix_or_prefix_of_prefix starts (List.prefix_append same later) with
    inside | beyond
  · exact inside.trans (List.prefix_append same text)
  · obtain ⟨more, rfl⟩ := beyond
    rw [List.prefix_append_right_inj] at starts ⊢
    rw [List.any_append, Bool.or_eq_false_iff] at plain
    exact cut more plain.2 starts

/-- A text that stops a class without blanks does so where it is cut. -/
theorem CutOf.stops {later text : Text} (cut : later.CutOf text) {p : Char → Bool}
    (stops : Stops p text) (visible : ∀ c, p c → isBlank c = false)
    : Stops p later := by
  intro c first
  rw [← Bool.not_eq_true]
  intro holds
  obtain ⟨rest, rfl⟩ := List.head?_eq_some_iff.mp first
  have plain : [c].any isBlank = false := by simpa using visible c holds
  obtain ⟨more, rfl⟩ := cut [c] plain (List.prefix_append [c] rest)
  exact absurd holds (by simp [stops c rfl])

/-- Where a word ends it does so before a cut, and so does a run of some characters of words. -/
theorem CutOf.stops_word {later text : Text} (cut : later.CutOf text) {p : Char → Bool}
    (stops : Stops p text) (word : ∀ c, p c → isWordChar c)
    : Stops p later := by
  refine cut.stops stops ?_
  intro c holds
  exact isBlank_of_isWordChar (word c holds)

end Text

-----------------------------------------------------------------------------------------
-- Lexemes where the text behind them is cut
-----------------------------------------------------------------------------------------

theorem Parameter.any_isBlank_source {name : Text} (grammar : Name name)
    : (source name).any isBlank = false := by
  have letters : name.any isBlank = false := by
    rw [List.any_eq_false]
    intro c member
    simp [isBlank_of_isWordChar (isWordChar_of_isLetter (grammar.letter c member))]
  have marks : isBlank '|' = false ∧ isBlank '(' = false ∧ isBlank ')' = false := by decide
  simp [source, letters, marks]

theorem Text.CutOf.name? {later text : Text} (cut : later.CutOf text)
    (ordinary : Parameter.name? text = none)
    : Parameter.name? later = none := by
  rw [Option.eq_none_iff_forall_ne_some]
  intro name named
  obtain ⟨grammar, front⟩ := Parameter.name?_eq_some_iff.mp named
  have starts := cut _ (Parameter.any_isBlank_source grammar) front
  have found := Parameter.name?_eq_some_iff.mpr ⟨grammar, starts⟩
  rw [ordinary] at found
  cases found

theorem Trivia.Absent.cut {c : Char} {later text : Text} (absent : Absent (c :: text))
    (cut : Text.CutOf (c :: later) (c :: text))
    : Absent (c :: later) := by
  refine ⟨?_, ?_, ?_⟩
  · rw [Text.stops_cons_iff]
    exact absent.blank c rfl
  · intro comment
    exact absent.line (cut ['/', '/'] (by decide) comment)
  · intro comment
    exact absent.block (cut ['/', '*'] (by decide) comment)

namespace Lexeme

/-- A number stays the same where the text behind it is cut, by the cases of the grammar. Only an
integer looks beyond the next character, where a member follows.
-/
theorem Numeral.cut {kind raw after later} (numeral : Numeral kind raw after)
    (cut : later.CutOf after)
    (member : kind = .integer → later.head? = some '.' → MemberAhead later)
    : Numeral kind raw later := by
  have word (stops : Text.Stops isWordChar after) : Text.Stops isWordChar later :=
    cut.stops_word stops (fun _ => id)
  have digit (stops : Text.Stops Char.isDigit after) : Text.Stops Char.isDigit later :=
    cut.stops_word stops (fun _ => isWordChar_of_isDigit)
  cases numeral with
  | integer digits stops => exact .integer digits (word stops) (member rfl)
  | point digits stops => exact .point digits (word stops)
  | fraction digits fraction stops exponent =>
      have plain : Text.Stops isExponentMarker later := by
        refine cut.stops_word exponent ?_
        intro c marker
        exact isWordChar_of_isWordStart (isWordStart_of_isExponentMarker marker)
      exact .fraction digits fraction (digit stops) plain
  | exponent mantissa marks signs digits stops =>
      exact .exponent mantissa marks signs digits (digit stops)

/-- A lexeme stays the same where the text behind it is cut, by the cases of the grammar. -/
theorem Reads.cut {kind raw value after later} (reads : Reads kind raw value after)
    (cut : later.CutOf after)
    (member : kind = .integer → later.head? = some '.' → MemberAhead later)
    : Reads kind raw value later := by
  cases reads with
  | word start inside stops classified =>
      exact .word start inside (cut.stops_word stops (fun _ => id)) classified
  | number numeral fits => exact .number (numeral.cut cut member) fits
  | quoted grammar => exact .quoted grammar
  | verbatim grammar closes =>
      refine .verbatim grammar ?_
      intro quote
      obtain ⟨rest, rfl⟩ := List.head?_eq_some_iff.mp quote
      obtain ⟨more, rfl⟩ := cut ['"'] (by decide) (List.prefix_append ['"'] rest)
      exact closes rfl
  | parameter grammar => exact .parameter grammar
  | @operator c tail _ _ operator grown stops ordinary kinds =>
      have shorter : Text.Stops (Operator.canGrow (c :: tail)) later := by
        refine cut.stops stops ?_
        intro c grows
        exact (Operator.symbolic_of_isChar (Operator.isChar_of_canGrow grows)).blank
      exact .operator operator grown shorter ((cut.append _).name? ordinary) kinds
  | punctuation alone => exact .punctuation alone

/-- An integer before a point stands before a member. Only a number can be an integer. -/
theorem Reads.member {raw value after} (reads : Reads .integer raw value after)
    (point : after.head? = some '.')
    : MemberAhead after := by
  generalize equal : Kind.integer = kind at reads
  cases reads with
  | @word c tail _ _ _ start inside stops classified =>
      have kinds := classifyWord_ofKinds (c :: tail)
      rw [classified, ← equal] at kinds
      simp [OfKinds] at kinds
  | number numeral fits =>
      cases numeral with
      | integer digits stops member => exact member point
      | _ => cases equal
  | operator operator grown stops ordinary kinds =>
      rw [kinds] at equal
      split at equal <;> cases equal
  | punctuation alone =>
      subst equal
      exact absurd (punctuation?_kind alone) (by decide)
  | _ => cases equal

/-- A lexeme that is a parameter is the source text of its name. Only a symbol can be one. -/
theorem Reads.named {raw value after} (reads : Reads .parameter raw value after)
    : ∃ name, Parameter.Name name ∧ raw = Parameter.source name ∧ value = .text name := by
  obtain ⟨c, rest, rfl⟩ := reads.first
  have found := reads.read .strict rfl
  have names := read_namesParameter .strict c (rest ++ after)
  rw [List.append_eq] at found
  rw [found] at names
  obtain ⟨name, named, source⟩ := names.2 rfl
  obtain ⟨rfl, -⟩ := List.cons.inj source
  rw [read_operator .strict (by decide), readSymbol, named] at found
  cases found
  exact ⟨name, (Parameter.name?_eq_some_iff.mp named).1, rfl, rfl⟩

end Lexeme

-----------------------------------------------------------------------------------------
-- Steps in front of other texts
-----------------------------------------------------------------------------------------

namespace Scan

/-- A lexeme is read again in either mode, behind other trivia and where the text that follows it
is cut.
-/
theorem ahead_again {pos text token next} (step : ahead .strict pos text = .token token next)
    {lead later : Text} (closed : Trivia.Closed lead)
    (cut : later.CutOf (text.drop (next - pos)))
    (member : token.kind = .integer → later.head? = some '.' → Lexeme.MemberAhead later)
    (mode : Mode) (place : Nat)
    : ahead mode place (lead ++ token.raw ++ later)
      = .token { token with offset := place + lead.length }
          (place + (lead ++ token.raw).length) := by
  obtain ⟨absent, reads⟩ := ahead_reads step
  have again := reads.cut cut member
  have behind := cut.append token.raw
  rw [List.append_assoc]
  refine ahead_of_reads closed ?_ again mode place
  obtain ⟨c, rest, equal⟩ := reads.first
  rw [equal] at absent behind ⊢
  exact absent.cut behind

/-- A parameter is read where its source text stands behind trivia, before any text. -/
theorem ahead_source {name lead : Text} (grammar : Parameter.Name name)
    (closed : Trivia.Closed lead) (later : Text) (mode : Mode) (place : Nat)
    : ahead mode place (lead ++ Parameter.source name ++ later)
      = .token ⟨.parameter, Parameter.source name, .text name, place + lead.length⟩
          (place + (lead ++ Parameter.source name).length) := by
  have absent : Trivia.Absent (Parameter.source name ++ later) :=
    Trivia.absent_cons (by decide) (by decide) _
  rw [List.append_assoc]
  exact ahead_of_reads closed absent (.parameter grammar) mode place

/-- A parameter is read again behind other trivia, before any text. -/
theorem ahead_parameter {pos text token next} (step : ahead .strict pos text = .token token next)
    (parameter : token.kind = .parameter) {lead : Text} (closed : Trivia.Closed lead)
    (later : Text) (place : Nat)
    : ahead .strict place (lead ++ token.raw ++ later)
      = .token { token with offset := place + lead.length }
          (place + (lead ++ token.raw).length) := by
  have reads := (ahead_reads step).2
  obtain ⟨kind, raw, value, offset⟩ := token
  obtain rfl : kind = .parameter := parameter
  obtain ⟨name, grammar, rfl, rfl⟩ := reads.named
  exact ahead_source grammar closed later .strict place

/-- Nothing separates a value with source text of its own, since it starts with no pipe. -/
theorem ValueReads.delimits_nil {separator raw closing after}
    (reads : ValueReads separator raw closing after) (nonempty : raw ≠ []) (later : Text)
    : Delimits [] (raw ++ later) := by
  have first := Parameter.splitValue_head? (raw ++ (closing ++ after))
  rw [reads.split] at first
  obtain ⟨c, rest, rfl⟩ := List.exists_cons_of_ne_nil nonempty
  refine delimits_nil_iff.mpr ?_
  intro pipe
  exact absurd pipe first

/-- The source text of a value is cut off again where nothing follows it, and before a pipe if it
was not the end of the text.
-/
theorem ValueReads.split_again {separator raw closing after}
    (reads : ValueReads separator raw closing after)
    : Parameter.splitValue raw = (raw, [])
      ∧ (closing ++ after ≠ []
        → ∀ later, Parameter.splitValue (raw ++ '|' :: later) = (raw, '|' :: later)) := by
  have again := Parameter.splitValue_again (raw ++ (closing ++ after))
  rwa [reads.split] at again

/-- A value that no pipe closes ends at a parameter, unless it ends with the text. -/
theorem ValueReads.parameter_after {separator raw after}
    (reads : ValueReads separator raw [] after) (more : after ≠ [])
    : Parameter.name? after ≠ none := by
  have ends := Parameter.splitValue_after (raw ++ ([] ++ after))
  rw [reads.split, List.nil_append] at ends
  obtain ⟨rest, equal⟩ := ends.resolve_left more
  refine delimits_nil_iff.mp reads.closes ?_
  dsimp only at equal
  rw [equal, List.head?_cons]

theorem Delimits.cut {text later : Text} (delimits : Delimits ['|'] text) (cut : later.CutOf text)
    : Delimits ['|'] later := by
  rw [delimits_pipe_iff] at delimits ⊢
  exact (cut.append ['|']).name? delimits

/-- A value stays the same where the text behind it is cut, by the two forms of each delimiter. A
value that no pipe closes was ended by a parameter, which has to be left.
-/
theorem ValueReads.cut {separator raw closing after later}
    (reads : ValueReads separator raw closing after) (cut : later.CutOf after)
    (parameter : closing = [] → Parameter.name? later ≠ none)
    : ValueReads separator raw closing later := by
  obtain ⟨more, bar⟩ : ∃ more, closing ++ later = '|' :: more := by
    rcases reads.closes.pipeOrNothing with rfl | rfl
    · obtain ⟨name, named⟩ := Option.ne_none_iff_exists'.mp (parameter rfl)
      obtain ⟨-, more, rfl⟩ := Parameter.name?_eq_some_iff.mp named
      exact ⟨_, rfl⟩
    · exact ⟨later, rfl⟩
  have behind : (closing ++ later).CutOf (closing ++ after) := cut.append closing
  refine ⟨?_, ?_, ?_, ?_⟩
  · have separates := reads.separates
    rcases separates.pipeOrNothing with rfl | rfl
    · by_cases empty : raw = []
      · -- A closing pipe would have been taken as the separator, so a parameter follows.
        subst empty
        rw [delimits_nil_iff] at separates ⊢
        intro first
        rcases reads.closes.pipeOrNothing with rfl | rfl
        · exact parameter rfl
        · exact absurd (delimits_pipe_iff.mp reads.closes) (separates rfl)
      · exact reads.delimits_nil empty _
    · exact separates.cut (behind.append raw)
  · simp [bar]
  · have remains : closing ++ after ≠ [] := by
      intro nothing
      have pipe := behind ['|'] (by decide) (by simp [bar])
      rw [nothing, List.prefix_nil] at pipe
      cases pipe
    rw [bar]
    exact reads.split_again.2 remains more
  · have closes := reads.closes
    rcases closes.pipeOrNothing with rfl | rfl
    · exact delimits_nil_iff.mpr (fun _ => parameter rfl)
    · exact closes.cut cut

end Scan

end KSharp
