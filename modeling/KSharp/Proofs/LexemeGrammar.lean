import KSharp.Lexeme
import KSharp.Proofs.LexemeFronts
import KSharp.Proofs.NumberGrammar

/-! The grammar of lexemes, each with the text that may stand behind it, and that the strict mode
finds exactly the lexemes of the grammar.
-/

namespace KSharp

-----------------------------------------------------------------------------------------
-- Parameters
-----------------------------------------------------------------------------------------

namespace Parameter

/-- A name of a parameter: letters, at least one. -/
structure Name (name : Text) : Prop where
  nonempty : name ≠ []
  letter : ∀ c ∈ name, isLetter c

/-- A parameter stands in front of a text exactly if the text starts with its source text. -/
theorem name?_eq_some_iff {text name : Text}
    : name? text = some name ↔ Name name ∧ source name <+: text := by
  constructor
  · intro h
    refine ⟨?_, source_front h⟩
    unfold name? at h
    split at h
    · dsimp only at h
      split at h
      · next closes =>
        cases h
        exact ⟨closes.1, List.all_eq_true.mp List.all_takeWhile⟩
      · cases h
    · cases h
  · rintro ⟨grammar, after, rfl⟩
    have stops : Text.Stops isLetter (')' :: after) := Text.stops_cons_iff.mpr (by decide)
    have run := stops.takeWhile_append grammar.letter
    have rest := stops.dropWhile_append grammar.letter
    simp [source, name?, run, rest, grammar.nonempty]

theorem name?_eq_none_iff {text : Text}
    : name? text = none ↔ ∀ name, Name name → ¬source name <+: text := by
  simp only [Option.eq_none_iff_forall_ne_some, ne_eq, name?_eq_some_iff, not_and]

end Parameter

-----------------------------------------------------------------------------------------
-- Operators
-----------------------------------------------------------------------------------------

namespace Operator

theorem front_grow (current text : Text) : current <+: grow current text := by
  induction text generalizing current with
  | nil => exact List.prefix_refl current
  | cons c rest ih =>
      simp only [grow]
      split
      · exact (List.prefix_append current [c]).trans (ih (current ++ [c]))
      · exact List.prefix_refl current

theorem grow_eq_self_iff {current text : Text}
    : grow current text = current ↔ Text.Stops (canGrow current) text := by
  cases text with
  | nil => simp [grow, Text.Stops]
  | cons c rest =>
      rw [Text.stops_cons_iff]
      by_cases grows : canGrow current c
      · have longer := front_grow (current ++ [c]) rest
        rw [grow, if_pos grows]
        simp only [grows, reduceCtorEq, iff_false]
        intro same
        rw [same] at longer
        have length := longer.length_le
        rw [List.length_append, List.length_singleton] at length
        omega
      · simp [grow, grows]

/-- Growth takes a text exactly if it takes that text alone and what follows cannot be taken. By
induction on the text that is taken.
-/
theorem grow_append_iff {current taken after : Text}
    : grow current (taken ++ after) = current ++ taken
      ↔ grow current taken = current ++ taken
        ∧ Text.Stops (canGrow (current ++ taken)) after := by
  induction taken generalizing current with
  | nil => simp [grow_eq_self_iff, grow]
  | cons c more ih =>
      have longer : grow (current ++ [c]) (more ++ after) = current ++ [c] ++ more ↔ _ := ih
      rw [List.append_assoc, List.singleton_append] at longer
      by_cases grows : canGrow current c
      · simpa only [List.cons_append, grow, if_pos grows] using longer
      · simp [grow, grows]

/-- What grows an operator is the character of one, by the table of symbols. -/
theorem isChar_of_canGrow {current : Text} {c : Char} (grows : canGrow current c) : isChar c := by
  have each : ∀ symbol ∈ symbols, symbol.all isChar := by decide
  obtain ⟨symbol, member, front⟩ := List.any_eq_true.mp grows
  refine List.all_eq_true.mp (each symbol member) c ?_
  refine (List.isPrefixOf_iff_prefix.mp front).subset ?_
  simp

/-- Growth of a symbol is a symbol, by induction on the text ahead: in the table of symbols stands
each front of a symbol that is not empty.
-/
theorem grow_mem_symbols {current : Text} (symbol : current ∈ symbols) (text : Text)
    : grow current text ∈ symbols := by
  have fronts : ∀ symbol ∈ symbols, ∀ n < symbol.length, symbol.take (n + 1) ∈ symbols := by
    decide
  induction text generalizing current with
  | nil => exact symbol
  | cons c rest ih =>
      unfold grow
      split
      · next grows =>
        obtain ⟨longer, member, starts⟩ := List.any_eq_true.mp grows
        have front := List.isPrefixOf_iff_prefix.mp starts
        have size : (current ++ [c]).length = current.length + 1 := List.length_append
        have shorter : current.length < longer.length := by
          have bound := front.length_le
          omega
        have inside := fronts longer member current.length shorter
        rw [← size, ← List.prefix_iff_eq_take.mp front] at inside
        exact ih inside
      · exact symbol

theorem singleton_mem_symbols {c : Char} (operator : isChar c) : [c] ∈ symbols := by
  have each : chars.all (fun c => [c] ∈ symbols) := by decide
  exact of_decide_eq_true (List.all_eq_true.mp each c (of_decide_eq_true operator))

end Operator

namespace Lexeme

-----------------------------------------------------------------------------------------
-- The reader for each first character
-----------------------------------------------------------------------------------------

theorem read_wordStart (mode : Mode) {c : Char} (start : isWordStart c) (rest : Text)
    : read mode c rest = readWord c rest := by
  simp [read, start]

theorem read_digit (mode : Mode) {c : Char} (digit : c.isDigit) (rest : Text)
    : read mode c rest = readNumber c rest := by
  simp [read, isWordStart_of_isDigit digit, digit]

theorem read_verbatim (mode : Mode) (rest : Text)
    : read mode '@' ('"' :: rest) = readVerbatim rest := by
  have word : isWordStart '@' = false := by decide
  simp [read, word]

theorem read_quote (mode : Mode) (rest : Text)
    : read mode '"' rest = readQuoted mode rest := by
  have word : isWordStart '"' = false := by decide
  simp [read, word]

theorem read_operator (mode : Mode) {c : Char} (operator : Operator.isChar c) (rest : Text)
    : read mode c rest = readSymbol c rest := by
  obtain ⟨word, digit, -, verbatim, quote⟩ := Operator.symbolic_of_isChar operator
  simp [read, word, digit, verbatim, quote, operator]

theorem read_punctuation (mode : Mode) {c : Char} {kind} (alone : Kind.punctuation? c = some kind)
    (rest : Text)
    : read mode c rest = .symbol kind [c] := by
  obtain ⟨⟨word, digit, -, verbatim, quote⟩, operator⟩ := Kind.symbolic_of_punctuation? alone
  simp [read, word, digit, verbatim, quote, operator, alone]

-----------------------------------------------------------------------------------------
-- The grammar
-----------------------------------------------------------------------------------------

/-- A lexeme as it stands before a text: its kind, its source text and its value, and what the
text behind it may not start with. Literals with a closing mark stand before any text.
-/
inductive Reads : Kind → Text → Value → Text → Prop where
  | word {c tail after kind value} (start : isWordStart c) (inside : ∀ d ∈ tail, isWordChar d)
    (stops : Text.Stops isWordChar after)
    (classified : classifyWord (c :: tail) = .found kind (c :: tail) value)
    : Reads kind (c :: tail) value after
  | number {kind raw value after} (numeral : Numeral kind raw after)
    (fits : ofNumeral kind raw = .found kind raw value)
    : Reads kind raw value after
  | quoted {body after} (grammar : QuotedBody body)
    : Reads .string ('"' :: body ++ ['"']) (.text (Escape.unescape body)) after
  | verbatim {body after} (grammar : VerbatimBody body) (closes : after.head? ≠ some '"')
    : Reads .string ('@' :: '"' :: body ++ ['"']) (.text (Escape.unescapeVerbatim body)) after
  | parameter {name after} (grammar : Parameter.Name name)
    : Reads .parameter (Parameter.source name) (.text name) after
  | operator {c tail after kind} (operator : Operator.isChar c)
    (grown : Operator.grow [c] tail = c :: tail)
    (stops : Text.Stops (Operator.canGrow (c :: tail)) after)
    (ordinary : Parameter.name? (c :: tail ++ after) = none)
    (kinds : kind = if c :: tail = [';'] then .semicolon else .operator)
    : Reads kind (c :: tail) (.text (c :: tail)) after
  | punctuation {c kind after} (alone : Kind.punctuation? c = some kind)
    : Reads kind [c] (.text [c]) after

-----------------------------------------------------------------------------------------
-- What is found is a lexeme of the grammar
-----------------------------------------------------------------------------------------

theorem classifyWord_raw {word kind raw value} (h : classifyWord word = .found kind raw value)
    : raw = word := by
  unfold classifyWord symbol at h
  split at h
  · cases h; rfl
  split at h
  · cases h; rfl
  split at h
  · cases h; rfl
  · cases h; rfl

/-- What the strict mode finds is a lexeme of the grammar, and the rest of the text stands behind
it. By the cases of the first character.
-/
theorem read_sound {c rest kind raw value} (h : read .strict c rest = .found kind raw value)
    : ∃ after, c :: rest = raw ++ after ∧ Reads kind raw value after := by
  unfold read at h
  split at h
  · next start =>
    obtain rfl := classifyWord_raw h
    refine ⟨rest.dropWhile isWordChar, ?_, ?_⟩
    · rw [List.cons_append, List.takeWhile_append_dropWhile]
    · exact .word start (List.all_eq_true.mp List.all_takeWhile)
        (Text.stops_dropWhile isWordChar rest) h
  split at h
  · next digit =>
    have finds := readNumber_findsNumeral digit rest
    rw [h] at finds
    obtain ⟨fits, after, source, numeral⟩ := finds
    exact ⟨after, source, .number numeral fits⟩
  split at h
  · next verbatim =>
    obtain ⟨rfl, quote⟩ := verbatim
    obtain ⟨more, rfl⟩ := List.head?_eq_some_iff.mp quote
    unfold readVerbatim at h
    split at h
    · next body read =>
      obtain ⟨grammar, after, equal, closes⟩ := verbatimBody?_sound read
      cases h
      refine ⟨after, ?_, .verbatim grammar closes⟩
      simpa using equal
    · cases h
  split at h
  · next quote =>
    subst quote
    unfold readQuoted at h
    split at h
    · next body read =>
      obtain ⟨grammar, after, equal⟩ := quotedBody?_sound read
      cases h
      exact ⟨after, by simp [equal], .quoted grammar⟩
    · cases h
    · next lenient => cases lenient
  split at h
  · next operator =>
    unfold readSymbol at h
    split at h
    · next name named =>
      cases h
      obtain ⟨grammar, after, equal⟩ := Parameter.name?_eq_some_iff.mp named
      exact ⟨after, equal.symm, .parameter grammar⟩
    · next ordinary =>
      cases h
      obtain ⟨tail, front⟩ := Operator.front_grow [c] rest
      obtain ⟨after, equal⟩ := Operator.grow_front [c] rest
      rw [← front] at equal ⊢
      simp only [List.cons_append, List.nil_append, List.cons.injEq, true_and] at equal front
      subst equal
      have grown := Operator.grow_append_iff.mp front.symm
      exact ⟨after, rfl, .operator operator grown.1 grown.2 ordinary rfl⟩
  split at h
  · next kind alone =>
    cases h
    exact ⟨rest, rfl, .punctuation alone⟩
  · cases h

-----------------------------------------------------------------------------------------
-- A lexeme of the grammar is found
-----------------------------------------------------------------------------------------

/-- Each lexeme of the grammar is found where it stands, in either mode, by the cases of the
grammar.
-/
theorem Reads.read {kind raw value after} (reads : Reads kind raw value after) (mode : Mode)
    {c rest} (source : c :: rest = raw ++ after)
    : read mode c rest = .found kind raw value := by
  cases reads with
  | word start inside stops classified =>
      obtain ⟨rfl, rfl⟩ := List.cons.inj source
      rw [read_wordStart mode start, readWord, List.append_eq, stops.takeWhile_append inside,
        classified]
  | number numeral fits =>
      obtain ⟨d, more, rfl, digit⟩ := numeral.first
      obtain ⟨rfl, -⟩ := List.cons.inj source
      rw [read_digit mode digit, numeral.read source, fits]
  | quoted grammar =>
      simp only [List.cons_append, List.append_assoc, List.nil_append] at source
      obtain ⟨rfl, rfl⟩ := List.cons.inj source
      rw [read_quote]
      simp only [readQuoted, grammar.read]
  | verbatim grammar closes =>
      simp only [List.cons_append, List.append_assoc, List.nil_append] at source
      obtain ⟨rfl, rfl⟩ := List.cons.inj source
      rw [read_verbatim, readVerbatim, grammar.read closes]
  | parameter grammar =>
      have named := Parameter.name?_eq_some_iff.mpr ⟨grammar, after, source.symm⟩
      obtain ⟨rfl, -⟩ := List.cons.inj source
      rw [read_operator mode (by decide), readSymbol, named]
  | @operator c tail _ _ operator grown stops ordinary kinds =>
      have longest : Operator.grow [c] (tail ++ after) = c :: tail :=
        Operator.grow_append_iff.mpr ⟨grown, stops⟩
      obtain ⟨rfl, rfl⟩ := List.cons.inj source
      rw [read_operator mode operator, readSymbol, kinds]
      simp only [List.append_eq, ← List.cons_append, ordinary, longest]
      rfl
  | punctuation alone =>
      obtain ⟨rfl, -⟩ := List.cons.inj source
      exact read_punctuation mode alone rest

end Lexeme

end KSharp
