import KSharp.Proofs.CursorReadings
import KSharp.Proofs.OperatorMatches
import KSharp.Proofs.QuotedLiterals

/-! Literals, symbols and parameters under a cursor: each move in one of them follows the step. -/

namespace KSharp

namespace Lexeme

/-- No literal is closed where the text ends behind its body, or behind one more backslash. -/
theorem quotedBody?_append {body : Text} (grammar : QuotedBody body) (after : Text)
    : quotedBody? (body ++ after) = (quotedBody? after).map (body ++ ·) := by
  induction grammar with
  | nil => simp
  | escaped more ih =>
      simp [quotedBody?, ih, Function.comp_def]
  | kept quote backslash more ih =>
      rw [List.cons_append, quotedBody?_cons quote backslash, ih]
      simp [Function.comp_def]

theorem VerbatimBody.append {body more : Text} (front : VerbatimBody body)
    (back : VerbatimBody more)
    : VerbatimBody (body ++ more) := by
  induction front with
  | nil => exact back
  | quotes _ ih => exact .quotes ih
  | kept quote _ ih => exact .kept quote ih

theorem verbatimBody?_of_body {body : Text} (grammar : VerbatimBody body)
    : verbatimBody? body = none := by
  induction grammar with
  | nil => rfl
  | quotes more ih => simp [verbatimBody?, ih]
  | kept quote more ih =>
      rw [verbatimBody?, if_neg quote, ih, Option.map_none]
      intro rest same _
      exact quote same

end Lexeme

namespace Operator

/-- Growth through a text goes on behind it, by induction on that text. -/
theorem grow_through {current taken : Text}
    (grown : grow current taken = current ++ taken) (after : Text)
    : grow current (taken ++ after) = grow (current ++ taken) after := by
  induction taken generalizing current with
  | nil => simp
  | cons c more ih =>
      have grows : canGrow current c := by
        by_contra other
        rw [grow, if_neg other] at grown
        simp at grown
      have later : grow (current ++ [c]) more = current ++ [c] ++ more := by
        rw [grow, if_pos grows] at grown
        simpa using grown
      rw [List.cons_append, grow, if_pos grows, ih later]
      simp

/-- A symbol that has grown by some characters goes on with one that grows an operator. -/
theorem canGrow_of_grown {c d : Char} {tail : Text}
    (grown : grow [c] (d :: tail) = c :: d :: tail)
    : canGrow [c] d := by
  by_contra other
  rw [grow, if_neg other] at grown
  cases grown

end Operator

namespace Parameter

/-- Two characters in front of a text are its first character and the next one. -/
theorem opens_of_front {a b c : Char} {rest : Text} (front : [a, b] <+: c :: rest)
    : c = a ∧ rest.head? = some b := by
  obtain ⟨more, equal⟩ := front
  cases equal
  exact ⟨rfl, rfl⟩

/-- Behind the letters of a name a parameter needs its parenthesis. -/
theorem name?_of_stops {letters rest : Text} (inside : ∀ c ∈ letters, isLetter c)
    (ends : Text.Stops isLetter rest)
    : name? ('|' :: '(' :: (letters ++ rest))
      = if letters ≠ [] ∧ rest.head? = some ')' then some letters else none := by
  simp only [name?, ends.takeWhile_append inside, ends.dropWhile_append inside]

theorem name?_of_ne {c : Char} {rest : Text} (other : ¬(c = '|' ∧ rest.head? = some '('))
    : name? (c :: rest) = none := by
  apply name?_eq_none_iff.mpr
  intro name grammar front
  have marks : ['|', '('] <+: source name := List.prefix_append ['|', '('] (name ++ [')'])
  exact other (opens_of_front (marks.trans front))

end Parameter

namespace Cursor

open Lexeme (QuotedBody VerbatimBody)

section States

variable {mode : Mode} {expression run after : Text} {start pos : Nat}

-----------------------------------------------------------------------------------------
-- String literals
-----------------------------------------------------------------------------------------

theorem absent_quote (rest : Text) : Trivia.Absent ('"' :: rest) :=
  Trivia.absent_cons (by decide) (by decide) rest

theorem absent_verbatim (rest : Text) : Trivia.Absent ('@' :: rest) :=
  Trivia.absent_cons (by decide) (by decide) rest

/-- Where the text ends before a quoted literal is closed, the mode decides. -/
theorem follows_unclosed {body : Text}
    (around : Around expression start pos ('"' :: body) [])
    (unread : Lexeme.quotedBody? body = none)
    : Follows mode expression start (unclosed mode expression start) := by
  have reads := tokenAt_of_absent around.ahead (absent_quote _) mode
  rw [List.append_eq, List.append_nil, Lexeme.read_quote] at reads
  cases mode with
  | strict =>
      simp only [Lexeme.readQuoted, unread] at reads
      exact .stop reads
  | lenient =>
      simp only [Lexeme.readQuoted, unread] at reads
      have parts : '"' :: body = ['"'] ++ (body ++ []) := by simp
      have length := around.ahead.length
      have ends := around.pos_eq
      simp only [List.append_nil, List.length_cons] at length ends
      obtain rfl : pos = expression.length := by omega
      exact follows_enclose around parts rfl (by omega) reads

theorem follows_inQuoted {body : Text}
    (around : Around expression start pos ('"' :: body) after) (grammar : QuotedBody body)
    : Follows mode expression start (inQuoted mode expression start pos) := by
  rw [inQuoted, around.next]
  cases after with
  | nil =>
      have unread := Lexeme.quotedBody?_append grammar []
      rw [List.append_nil] at unread
      exact follows_unclosed around unread
  | cons c rest =>
      simp only [List.head?_cons]
      split
      · next backslash =>
        subst backslash
        exact follows_next around (.escaped grammar)
      split
      · next other quote =>
        subst quote
        have closed : Around expression start (pos + 1) ('"' :: body ++ ['"']) rest :=
          around.step
        have parts : '"' :: body ++ ['"'] = ['"'] ++ (body ++ ['"']) := rfl
        have ends := around.pos_eq
        rw [List.length_cons] at ends
        refine follows_enclose closed parts rfl (by omega) ?_
        rw [tokenAt_of_absent around.ahead (absent_quote _), Lexeme.read_quote]
        simp only [Lexeme.readQuoted, List.append_eq, grammar.read]
      · next backslash quote =>
        have longer : QuotedBody (body ++ [c]) := grammar.append (.kept quote backslash .nil)
        exact follows_next around (.quoted longer)

theorem follows_behindBackslash {body : Text}
    (around : Around expression start pos ('"' :: body ++ ['\\']) after)
    (grammar : QuotedBody body)
    : Follows mode expression start (behindBackslash mode expression start pos) := by
  rw [behindBackslash, around.next]
  cases after with
  | nil => exact follows_unclosed around (Lexeme.quotedBody?_append grammar ['\\'])
  | cons c rest =>
      have longer : QuotedBody (body ++ ['\\', c]) := grammar.append (.escaped .nil)
      have front : Front .quoted ('"' :: (body ++ ['\\', c])) rest := .quoted longer
      apply follows_next around
      simpa using front

theorem follows_inVerbatim {body : Text}
    (around : Around expression start pos ('@' :: '"' :: body) after) (grammar : VerbatimBody body)
    : Follows mode expression start (inVerbatim expression start pos) := by
  have reads := tokenAt_of_absent around.ahead (absent_verbatim _) mode
  rw [List.append_eq, List.cons_append, Lexeme.read_verbatim] at reads
  rw [inVerbatim, around.next]
  cases after with
  | nil =>
      rw [List.append_nil, Lexeme.readVerbatim, Lexeme.verbatimBody?_of_body grammar] at reads
      exact .stop reads
  | cons c rest =>
      simp only [List.head?_cons]
      split
      · next quote =>
        subst quote
        have closed : Around expression start (pos + 1) ('@' :: '"' :: body ++ ['"']) rest :=
          around.step
        rw [closed.next]
        split
        · next pair =>
          obtain ⟨more, equal⟩ := List.head?_eq_some_iff.mp pair
          subst equal
          have longer : VerbatimBody (body ++ ['"', '"']) := grammar.append (.quotes .nil)
          exact follows_pair around (.verbatim longer)
        · next single =>
          have parts : '@' :: '"' :: body ++ ['"'] = ['@', '"'] ++ (body ++ ['"']) := rfl
          have ends := around.pos_eq
          simp only [List.length_cons] at ends
          refine follows_enclose closed parts rfl (by omega) ?_
          rw [reads, Lexeme.readVerbatim, grammar.read single]
      · next quote =>
        have longer : VerbatimBody (body ++ [c]) := grammar.append (.kept quote .nil)
        exact follows_next around (.verbatim longer)

-----------------------------------------------------------------------------------------
-- Symbols
-----------------------------------------------------------------------------------------

/-- The search for the parenthesis behind a name finds the parameter that the text starts with, by
induction on the text ahead.
-/
theorem closing?_eq {first : Nat} {letters rest : Text}
    (around : Around expression first pos letters rest) (inside : ∀ c ∈ letters, isLetter c)
    : closing? expression first pos
      = (Parameter.name? ('|' :: '(' :: (letters ++ rest))).map (first + ·.length) := by
  induction rest generalizing letters pos with
  | nil =>
      rw [closing?_end around.next, Parameter.name?_of_stops inside (.nil isLetter)]
      simp
  | cons c more ih =>
      have here : expression[pos]? = some c := around.next
      have ends := around.pos_eq
      rw [closing?_some here]
      split
      · next close =>
        rw [Parameter.name?_of_stops inside (Text.stops_cons_iff.mpr (by rw [close]; decide))]
        by_cases empty : letters = []
        · simp [empty, ends]
        · simp [empty, close, ends]
      split
      · next letter =>
        have longer : ∀ d ∈ letters ++ [c], isLetter d :=
          List.forall_mem_append.mpr ⟨inside, by simpa using letter⟩
        have later := ih around.step longer
        rwa [List.append_assoc] at later
      · next close letter =>
        rw [Parameter.name?_of_stops inside (Text.stops_cons_iff.mpr (by simpa using letter))]
        simp [close]

theorem follows_symbol {c : Char} {tail : Text}
    (around : Around expression start pos (c :: tail) after) (operator : Operator.isChar c)
    (grown : Operator.grow [c] tail = c :: tail) (absent : Trivia.Absent (c :: tail ++ after))
    (ordinary : Parameter.name? (c :: tail ++ after) = none)
    (stops : Text.Stops (Operator.canGrow (c :: tail)) after)
    : Follows mode expression start (finish expression start pos readSymbol) := by
  have longest : Operator.grow [c] (tail ++ after) = c :: tail :=
    Operator.grow_append_iff.mpr ⟨grown, stops⟩
  apply follows_finish around (Lexeme.readSymbol_whole _)
  rw [tokenAt_of_absent around.ahead absent, Lexeme.read_operator mode operator,
    Lexeme.readSymbol_of_ordinary ordinary, List.append_eq, longest]
  rfl

theorem follows_growing {c : Char} {tail : Text}
    (around : Around expression start pos (c :: tail) after) (operator : Operator.isChar c)
    (grown : Operator.grow [c] tail = c :: tail) (absent : Trivia.Absent (c :: tail ++ after))
    (ordinary : Parameter.name? (c :: tail ++ after) = none)
    : Follows mode expression start (growing expression start pos) := by
  apply follows_if around
  · intro d rest equal _
    rw [around.slice?]
    apply follows_if around
    · intro d rest equal grows
      subst equal
      have longer : Operator.grow [c] (tail ++ [d]) = c :: (tail ++ [d]) := by
        have further : Operator.grow [c] (tail ++ [d]) = Operator.grow ([c] ++ tail) [d] :=
          Operator.grow_through grown [d]
        rw [further, Operator.grow, if_pos (by simpa using grows)]
        rfl
      exact follows_next around (.symbol operator longer)
    · intro stops
      exact follows_symbol around operator grown absent ordinary stops
  · intro other
    exact follows_symbol around operator grown absent ordinary
      (other.mono (fun _ => Operator.isChar_of_canGrow))

/-- In front of a parameter a step ends behind its parenthesis. -/
theorem follows_parameter {rest : Text} {close : Nat}
    (around : Around expression start pos ['|'] ('(' :: rest))
    (found : closing? expression (pos + 1) (pos + 1) = some close)
    : Follows mode expression start
        (enclose expression .parameter start (close + 1) (start + 2) close id) := by
  have passed : Around expression start (pos + 1) ['|', '('] rest := around.step
  rw [closing?_eq passed.behind (by simp)] at found
  obtain ⟨name, named, closes⟩ := Option.map_eq_some_iff.mp found
  rw [List.nil_append] at named
  obtain ⟨grammar, later, source⟩ := Parameter.name?_eq_some_iff.mp named
  have ahead : Lexer.Ahead expression start (Parameter.source name ++ later) :=
    source ▸ around.ahead
  have ends := around.pos_eq
  rw [List.length_singleton] at ends
  have whole : Around expression start (close + 1) (Parameter.source name) later := by
    refine ⟨ahead, ?_⟩
    simp only [Parameter.source, List.length_cons, List.length_append, List.length_nil]
    omega
  have parts : Parameter.source name = ['|', '('] ++ (name ++ [')']) := rfl
  refine follows_enclose whole parts rfl (by omega) ?_
  · have absent : Trivia.Absent ('|' :: '(' :: rest) :=
      Trivia.absent_cons (by decide) (by decide) _
    rw [tokenAt_of_absent around.ahead absent, Lexeme.read_operator mode (by decide),
      Lexeme.readSymbol]
    simp only [List.append_eq, List.nil_append, named]
    rfl

/-- Behind the first operator character a comment or a parameter may open. -/
theorem follows_first {c : Char}
    (around : Around expression start pos [c] after) (operator : Operator.isChar c)
    : Follows mode expression start (inSymbol expression start pos) := by
  have ends : pos = start + 1 := around.pos_eq
  have before : pos.ppred = some start := by
    rw [ends]
    rfl
  have previous : expression[start]? = some c := around.front.next
  have reads : Scan.tokenAt mode expression start = Scan.ahead mode start (c :: after) := by
    rw [Scan.tokenAt, around.ahead.drop_eq, List.singleton_append]
  simp only [inSymbol, before, previous, around.next, Option.bind_eq_bind, Option.bind_some]
  split
  · next line =>
    obtain ⟨-, slash, second⟩ := line
    obtain ⟨rest, equal⟩ := List.head?_eq_some_iff.mp second
    subst slash equal
    have later : expression.drop (pos + 1) = rest := around.step.behind.ahead.drop_eq
    apply Follows.goOn
    apply Reading.lineComment
    rw [reads, Scan.ahead_line, later, ends]
  split
  · next block =>
    obtain ⟨-, slash, second⟩ := block
    obtain ⟨rest, equal⟩ := List.head?_eq_some_iff.mp second
    subst slash equal
    have later : expression.drop (pos + 1) = rest := around.step.behind.ahead.drop_eq
    apply Follows.goOn
    apply Reading.blockComment
    rw [reads, Scan.ahead_block, later, ends]
  next line block =>
  have absent : Trivia.Absent ([c] ++ after) := by
    apply Scan.absent_of_operator operator
    · intro front
      exact line ⟨ends, Parameter.opens_of_front front⟩
    · intro front
      exact block ⟨ends, Parameter.opens_of_front front⟩
  split
  · next opens =>
    obtain ⟨-, pipe, second⟩ := opens
    obtain ⟨rest, equal⟩ := List.head?_eq_some_iff.mp second
    subst pipe equal
    split
    · next close found => exact follows_parameter around found
    · next missing =>
      have passed : Around expression start (pos + 1) ['|', '('] rest := around.step
      rw [closing?_eq passed.behind (by simp)] at missing
      have ordinary := Option.map_eq_none_iff.mp missing
      have stops : Text.Stops (Operator.canGrow ['|']) ('(' :: rest) :=
        Text.stops_cons_iff.mpr (by decide)
      exact follows_symbol around operator rfl absent ordinary stops
  · next other =>
    have ordinary : Parameter.name? ([c] ++ after) = none :=
      Parameter.name?_of_ne (fun opens => other ⟨ends, opens⟩)
    exact follows_growing around operator rfl absent ordinary

/-- A symbol of more characters can only grow: none that opens a comment or a parameter has grown.
-/
theorem follows_later {c d : Char} {tail : Text}
    (around : Around expression start pos (c :: d :: tail) after) (operator : Operator.isChar c)
    (grown : Operator.grow [c] (d :: tail) = c :: d :: tail)
    : Follows mode expression start (inSymbol expression start pos) := by
  have ends := around.pos_eq
  have grows := Operator.canGrow_of_grown grown
  have before : pos.ppred = some (start + (d :: tail).length) := by
    rw [ends]
    rfl
  have further : pos ≠ start + 1 := by
    simp only [List.length_cons] at ends
    omega
  have inside : start + (d :: tail).length < expression.length := by
    have length := around.ahead.length
    simp only [List.length_append, List.length_cons] at length ⊢
    omega
  have here := List.getElem?_eq_getElem inside
  simp only [inSymbol, before, here, further, false_and, ↓reduceIte, Option.bind_eq_bind,
    Option.bind_some]
  apply follows_growing around operator grown
  · apply Scan.absent_of_operator operator
    · intro front
      obtain ⟨rfl, second⟩ := Parameter.opens_of_front front
      cases second
      exact absurd grows (by decide)
    · intro front
      obtain ⟨rfl, second⟩ := Parameter.opens_of_front front
      cases second
      exact absurd grows (by decide)
  · apply Parameter.name?_of_ne
    rintro ⟨rfl, second⟩
    cases second
    exact absurd grows (by decide)

theorem follows_inSymbol
    (around : Around expression start pos run after) (front : Front .symbol run after)
    : Follows mode expression start (inSymbol expression start pos) := by
  cases front with
  | @symbol c tail _ operator grown =>
      cases tail with
      | nil => exact follows_first around operator
      | cons d more => exact follows_later around operator grown

end States

end Cursor

end KSharp
