import KSharp.Proofs.NumberDecisions
import KSharp.Proofs.RunTranslation
import KSharp.Proofs.TokenContexts

/-! Blanks behind a text, where the text ended before: no strict step to a token changes with them,
and a parameter value changes only if it reached to the end.
-/

namespace KSharp

variable {blanks : Text} (blank : ∀ c ∈ blanks, isBlank c)

-----------------------------------------------------------------------------------------
-- Fronts of a text with blanks behind it
-----------------------------------------------------------------------------------------

namespace Text

/-- Where a character does not stand in the back of a text, it stands in the front. -/
theorem exists_eq_of_append {front back left right : Text} {c : Char}
    (equal : front ++ back = left ++ c :: right) (absent : c ∉ back)
    : ∃ rest, front = left ++ c :: rest ∧ right = rest ++ back := by
  rcases List.append_eq_append_iff.mp equal with ⟨more, rfl, behind⟩ | ⟨more, rfl, behind⟩
  · rw [behind] at absent
    simp at absent
  · cases more with
    | nil =>
        rw [List.nil_append] at behind
        rw [← behind] at absent
        simp at absent
    | cons d more =>
        obtain ⟨rfl, rfl⟩ := List.cons.inj behind
        exact ⟨more, rfl, rfl⟩

include blank

theorem notMem_blanks {c : Char} (visible : isBlank c = false) : c ∉ blanks := by
  intro member
  rw [blank c member] at visible
  cases visible

/-- A text with blanks behind it is cut from the text, since its fronts without blanks are fronts of
the text.
-/
theorem cutOf_append_blanks (text : Text) : CutOf (text ++ blanks) text := by
  have nothing : CutOf blanks [] := by
    cases blanks with
    | nil => exact .of_front (List.prefix_refl [])
    | cons c rest => exact .of_blank (blank c List.mem_cons_self) rest []
  have cut := nothing.append text
  rwa [List.append_nil] at cut

theorem head?_append_blanks {text : Text} {c : Char} (visible : isBlank c = false)
    (first : (text ++ blanks).head? = some c)
    : text.head? = some c := by
  obtain ⟨rest, equal⟩ := List.head?_eq_some_iff.mp first
  obtain ⟨more, rfl⟩ := cutOf_append_blanks blank text [c] (by simp [visible])
    (equal ▸ List.prefix_append [c] rest)
  rfl

/-- A text that stops characters of words does so with blanks behind it. -/
theorem Stops.append_blanks {p : Char → Bool} {text : Text} (stops : Stops p text)
    (word : ∀ c, p c → isWordChar c)
    : Stops p (text ++ blanks) :=
  (cutOf_append_blanks blank text).stops_word stops word

/-- A run of word characters in front of a text does not go on into the blanks behind it. -/
theorem takeWhile_append_blanks {p : Char → Bool} (word : ∀ c, p c → isWordChar c) (text : Text)
    : (text ++ blanks).takeWhile p = text.takeWhile p := by
  have stops := (stops_dropWhile p text).append_blanks blank word
  have run := stops.takeWhile_append (List.all_eq_true.mp (List.all_takeWhile (l := text)))
  rwa [← List.append_assoc, List.takeWhile_append_dropWhile] at run

end Text

-----------------------------------------------------------------------------------------
-- Trivia
-----------------------------------------------------------------------------------------

namespace Trivia

/-- A blank behind trivia at the end of a text belongs to it: it may end a line comment, and closes
no block comment.
-/
theorem Final.append_blank {text : Text} (final : Final text) {c : Char} (blank : isBlank c)
    : Final (text ++ [c]) := by
  obtain ⟨trivia, comment, rfl, closed, last⟩ := final
  rcases last with rfl | last
  · rw [List.append_nil]
    exact (closed.append (.blank blank .nil)).final
  rw [List.append_assoc]
  cases last with
  | @line body inside =>
      by_cases ends : Text.isLineEnd c
      · exact (closed.append (.line inside ends .nil)).final
      · have longer : LineBody (body ++ [c]) := by
          intro d member
          rcases List.mem_append.mp member with old | new
          · exact inside d old
          · rw [List.mem_singleton.mp new]
            simpa using ends
        exact ⟨trivia, _, rfl, closed, Or.inr (.line longer)⟩
  | @block body inside =>
      have longer : BlockBody (body ++ [c]) := by
        intro mark
        rcases List.infix_concat_iff.mp mark with last | earlier
        · obtain ⟨front, equal⟩ := last
          have slash : c = '/' := by
            have ends := congrArg List.getLast? equal
            simpa using ends.symm
          subst slash
          exact absurd blank (by decide)
        · exact inside earlier
      exact ⟨trivia, _, rfl, closed, Or.inr (.block longer)⟩

include blank

/-- Blanks belong to the trivia at the end of a text, by induction on them. -/
theorem Final.append_blanks {text : Text} (final : Final text) : Final (text ++ blanks) := by
  induction blanks generalizing text with
  | nil => rwa [List.append_nil]
  | cons c rest ih =>
      obtain ⟨first, others⟩ := List.forall_mem_cons.mp blank
      have longer := ih others (final.append_blank first)
      rwa [List.append_assoc, List.singleton_append] at longer

end Trivia

-----------------------------------------------------------------------------------------
-- Lexemes
-----------------------------------------------------------------------------------------

include blank

theorem Parameter.name?_append_blanks (text : Text) : name? (text ++ blanks) = name? text := by
  apply Option.ext
  intro name
  rw [name?_eq_some_iff, name?_eq_some_iff]
  refine and_congr_right ?_
  intro grammar
  constructor
  · exact Text.cutOf_append_blanks blank text _ (any_isBlank_source grammar)
  · intro front
    exact front.trans (List.prefix_append text blanks)

/-- Growth stops before a blank, by induction on the text. -/
theorem Operator.grow_append_blanks (current text : Text)
    : grow current (text ++ blanks) = grow current text := by
  induction text generalizing current with
  | nil =>
      apply grow_eq_self_iff.mpr
      have cut := Text.cutOf_append_blanks blank []
      refine cut.stops (.nil _) ?_
      intro c grows
      exact (symbolic_of_isChar (isChar_of_canGrow grows)).blank
  | cons c rest ih => rw [List.cons_append, grow, grow, ih]

namespace Lexeme

/-- The quote that closes a literal stands in the text and not in the blanks behind it. -/
theorem quotedBody?_append_blanks (text : Text)
    : quotedBody? (text ++ blanks) = quotedBody? text := by
  apply Option.ext
  intro body
  constructor
  · intro read
    obtain ⟨grammar, after, equal⟩ := quotedBody?_sound read
    obtain ⟨rest, rfl, -⟩ := Text.exists_eq_of_append equal (Text.notMem_blanks blank (by decide))
    exact grammar.read rest
  · intro read
    obtain ⟨grammar, after, rfl⟩ := quotedBody?_sound read
    rw [List.append_assoc]
    exact grammar.read (after ++ blanks)

theorem verbatimBody?_append_blanks (text : Text)
    : verbatimBody? (text ++ blanks) = verbatimBody? text := by
  apply Option.ext
  intro body
  constructor
  · intro read
    obtain ⟨grammar, after, equal, closes⟩ := verbatimBody?_sound read
    obtain ⟨rest, rfl, rfl⟩ :=
      Text.exists_eq_of_append equal (Text.notMem_blanks blank (by decide))
    refine grammar.read ?_
    intro quote
    obtain ⟨more, rfl⟩ := List.head?_eq_some_iff.mp quote
    exact closes rfl
  · intro read
    obtain ⟨grammar, after, rfl, closes⟩ := verbatimBody?_sound read
    rw [List.append_assoc]
    refine grammar.read ?_
    intro quote
    exact closes (Text.head?_append_blanks blank (by decide) quote)

/-- The verdict on an exponent is the same with blanks behind the text, by its cases. -/
theorem ExponentVerdict.append_blanks {front marker after lexeme}
    (verdict : ExponentVerdict front marker after lexeme)
    : ExponentVerdict front marker (after ++ blanks) lexeme := by
  have digit {text : Text} (stops : Text.Stops Char.isDigit text) :=
    stops.append_blanks blank (fun _ => isWordChar_of_isDigit)
  cases verdict with
  | signed signs digits stops =>
      rw [List.cons_append, List.append_assoc]
      exact .signed signs digits (digit stops)
  | signAlone signs stops => exact .signAlone signs (digit stops)
  | unsigned digits stops =>
      rw [List.append_assoc]
      exact .unsigned digits (digit stops)
  | markerAlone unsigned stops =>
      refine .markerAlone ?_ (digit stops)
      refine (Text.cutOf_append_blanks blank after).stops unsigned ?_
      intro c signs
      simp only [isSign, Bool.or_eq_true, decide_eq_true_eq] at signs
      rcases signs with rfl | rfl <;> decide

/-- The verdict on digits is the same with blanks behind the text, by its cases. -/
theorem NumberVerdict.append_blanks {digits after lexeme}
    (verdict : NumberVerdict digits after lexeme)
    : NumberVerdict digits (after ++ blanks) lexeme := by
  have digit {text : Text} (stops : Text.Stops Char.isDigit text) :=
    stops.append_blanks blank (fun _ => isWordChar_of_isDigit)
  have start {text : Text} (stops : Text.Stops isWordStart text) :=
    stops.append_blanks blank (fun _ => isWordChar_of_isWordStart)
  cases verdict with
  | member starts verdict => exact .member starts verdict
  | point plain stops => exact .point (start plain) (digit stops)
  | @fraction part behind fraction stops exponent =>
      have plain := exponent.append_blanks blank (fun _ marks =>
        isWordChar_of_isWordStart (isWordStart_of_isExponentMarker marks))
      rw [List.cons_append, List.append_assoc]
      exact .fraction fraction (digit stops) plain
  | fractionExponent fraction marks verdict =>
      rw [List.cons_append, List.append_assoc]
      exact .fractionExponent fraction marks (verdict.append_blanks blank)
  | exponent marks verdict => exact .exponent marks (verdict.append_blanks blank)
  | @word c behind starts exponent =>
      have same := Text.takeWhile_append_blanks blank (fun _ => id) (c :: behind)
      rw [← same]
      exact .word starts exponent
  | integer point plain verdict =>
      refine .integer ?_ (start plain) verdict
      intro first
      exact point (Text.head?_append_blanks blank (by decide) first)

/-- A number is read by the verdict on its digits, which blanks behind the text leave as it is. -/
theorem readNumber_append_blanks {c : Char} (digit : c.isDigit) (rest : Text)
    : readNumber c (rest ++ blanks) = readNumber c rest := by
  have digits : Digits ((c :: rest).takeWhile Char.isDigit) := by
    apply digits_takeWhile
    simp [digit]
  have stops := Text.stops_dropWhile Char.isDigit (c :: rest)
  have source := List.takeWhile_append_dropWhile (p := Char.isDigit) (l := c :: rest)
  obtain ⟨lexeme, verdict⟩ := numberVerdict_total ((c :: rest).takeWhile Char.isDigit)
    ((c :: rest).dropWhile Char.isDigit)
  have later := stops.append_blanks blank (fun _ => isWordChar_of_isDigit)
  have longer : c :: (rest ++ blanks)
      = (c :: rest).takeWhile Char.isDigit ++ ((c :: rest).dropWhile Char.isDigit ++ blanks) := by
    rw [← List.append_assoc, source, List.cons_append]
  rw [readNumber_eq digits later longer, readNumber_eq digits stops source.symm,
    verdict.eq stops, (verdict.append_blanks blank).eq later]

/-- What the strict mode reads in front of a text is the same with blanks behind the text, whether
it finds a lexeme or rejects the text. By the first character.
-/
theorem read_append_blanks (c : Char) (rest : Text)
    : read .strict c (rest ++ blanks) = read .strict c rest := by
  by_cases start : isWordStart c
  · rw [read_wordStart .strict start, read_wordStart .strict start, readWord, readWord,
      Text.takeWhile_append_blanks blank (fun _ => id)]
  by_cases digit : c.isDigit
  · rw [read_digit .strict digit, read_digit .strict digit, readNumber_append_blanks blank digit]
  by_cases verbatim : c = '@' ∧ rest.head? = some '"'
  · obtain ⟨rfl, quote⟩ := verbatim
    obtain ⟨more, rfl⟩ := List.head?_eq_some_iff.mp quote
    rw [List.cons_append, read_verbatim, read_verbatim, readVerbatim, readVerbatim,
      verbatimBody?_append_blanks blank]
  by_cases quote : c = '"'
  · subst quote
    simp only [read_quote, readQuoted, quotedBody?_append_blanks blank]
    cases quotedBody? rest <;> rfl
  by_cases operator : Operator.isChar c
  · rw [read_operator .strict operator, read_operator .strict operator, readSymbol, readSymbol,
      ← List.cons_append, Parameter.name?_append_blanks blank, Operator.grow_append_blanks blank]
  · have other : ¬(c = '@' ∧ (rest ++ blanks).head? = some '"') := by
      rintro ⟨mark, first⟩
      exact verbatim ⟨mark, Text.head?_append_blanks blank (by decide) first⟩
    simp only [read, start, digit, verbatim, other, quote, operator, Bool.false_eq_true, if_false]

end Lexeme

-----------------------------------------------------------------------------------------
-- Steps
-----------------------------------------------------------------------------------------

namespace Scan

/-- A strict step is the same with blanks behind the text, by the cut behind the trivia. -/
theorem ahead_append_blanks (pos : Nat) (text : Text)
    : ahead .strict pos (text ++ blanks) = ahead .strict pos text := by
  obtain ⟨source, final, closed⟩ := Trivia.split_between text
  have absent := Trivia.split_absent .between text
  rcases cut : Trivia.split .between text with ⟨trivia, _ | ⟨c, rest⟩⟩
  · simp only [cut, List.append_nil] at source final
    rw [← source] at final
    rw [ahead_eq_endOfInput_iff.mpr final.split,
      ahead_eq_endOfInput_iff.mpr (final.append_blanks blank).split]
  · simp only [cut] at source closed absent
    have trivia := closed (List.cons_ne_nil c rest)
    have later : Trivia.Absent (c :: (rest ++ blanks)) :=
      absent.cut (Text.cutOf_append_blanks blank (c :: rest))
    rw [source, List.append_assoc, ahead_closed_append trivia, ahead_closed_append trivia,
      List.cons_append, ahead_of_absent later, ahead_of_absent absent,
      Lexeme.read_append_blanks blank]

theorem Delimits.append_blanks {pipe after : Text} (delimits : Delimits pipe after)
    : Delimits pipe (after ++ blanks) := by
  rcases delimits.pipeOrNothing with rfl | rfl
  · rw [delimits_nil_iff] at delimits ⊢
    intro first
    rw [Parameter.name?_append_blanks blank]
    exact delimits (Text.head?_append_blanks blank (by decide) first)
  · rw [delimits_pipe_iff, ← List.cons_append, Parameter.name?_append_blanks blank,
      ← delimits_pipe_iff]
    exact delimits

/-- A value that does not reach to the end stays the same with blanks behind the text. -/
theorem ValueReads.append_blanks {separator raw closing after}
    (reads : ValueReads separator raw closing after) (ends : closing ++ after ≠ [])
    : ValueReads separator raw closing (after ++ blanks) := by
  refine reads.cut (Text.cutOf_append_blanks blank after) ?_
  rintro rfl
  rw [Parameter.name?_append_blanks blank]
  exact reads.parameter_after ends

/-- A value that reaches to the end takes the blanks behind the text along, since none of them is a
pipe.
-/
theorem valueReads_blanks {separator raw : Text} (separates : Delimits separator raw)
    (split : Parameter.splitValue raw = (raw, [])) (nonempty : raw ++ blanks ≠ [])
    : ValueReads separator (raw ++ blanks) [] [] := by
  have whole : Parameter.splitValue (raw ++ blanks) = (raw ++ blanks, []) := by
    have parts := Parameter.splitValue_append (raw ++ blanks)
    rcases Parameter.splitValue_after (raw ++ blanks) with none | ⟨rest, pipe⟩
    · rw [none, List.append_nil] at parts
      exact Prod.ext parts none
    · -- The pipe would stand in the value, where the cut would have ended before.
      rw [pipe] at parts
      obtain ⟨more, equal, -⟩ :=
        Text.exists_eq_of_append parts.symm (Text.notMem_blanks blank (by decide))
      have again := (Parameter.splitValue_again (raw ++ blanks)).2 (by simp [pipe]) more
      rw [← equal, split] at again
      simp at again
  refine ⟨?_, ?_, ?_, ?_⟩
  · simpa using separates.append_blanks blank
  · simpa using nonempty
  · simpa using whole
  · exact delimits_nil_iff.mpr (by simp)

end Scan

end KSharp
