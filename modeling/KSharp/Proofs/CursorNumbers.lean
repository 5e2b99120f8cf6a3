import KSharp.Proofs.CursorReadings
import KSharp.Proofs.RunTranslation
import KSharp.Proofs.WordClassification

/-! Words and numbers under a cursor: what the runs of the machine are read as, and that each move
in a word or in a number follows the step.
-/

namespace KSharp.Cursor

open Lexeme (Mantissa isExponentMarker isSign)

-----------------------------------------------------------------------------------------
-- Words
-----------------------------------------------------------------------------------------

theorem truthValues_letters : ∀ name ∈ Lexeme.truthValues, ∀ d ∈ name, d.isLower := by
  simp [Lexeme.truthValues]

/-- What starts with a digit spells neither an operator nor a truth value, and it is no word. -/
theorem classifyRun_digit {c : Char} (digit : c.isDigit) (rest : Text)
    : classifyRun (c :: rest) = .rejected (.invalidIdentifier (c :: rest)) := by
  have bounds := isDigit_iff.mp digit
  have kept : c.toLower = c := by
    apply Char.toLower_eq_of_not_isUpper
    simp only [Char.isUpper, UInt32.le_iff_toNat_le, Char.toNat_val, Char.reduceVal,
      UInt32.reduceToNat, decide_eq_true_eq]
    omega
  have first : c ∈ Text.small (c :: rest) := by simp [Text.small, kept]
  have other : ¬c.isLower := by
    intro lower
    have := Unicode.isLower_iff.mp lower
    omega
  obtain ⟨kind, value, found, classified⟩ := Lexeme.classifyWord_classified (c :: rest)
  have name : kind = .identifier := by
    apply classified.identifier.mpr
    constructor
    · intro member
      exact other (Operator.words_letters _ member c first).1
    · intro member
      exact other (truthValues_letters _ member c first)
  have value := classified.name name
  subst name
  subst value
  have digits : isWordStart c = false := isWordStart_of_isDigit digit
  rw [classifyRun, if_pos ⟨found, by simp [isWord, digits]⟩]

theorem classifyRun_word {run : Text} (word : isWord run)
    : classifyRun run = Lexeme.classifyWord run := by
  rw [classifyRun, if_neg (fun spoiled => spoiled.2 word)]

theorem classifyRun_whole (run : Text) : (classifyRun run).Whole run := by
  unfold classifyRun
  split
  · trivial
  · obtain ⟨kind, value, found, -⟩ := Lexeme.classifyWord_classified run
    rw [found]
    rfl

section States

variable {mode : Mode} {expression run after : Text} {start pos : Nat}

/-- At digits a step reads their verdict. -/
theorem tokenAt_verdict {digits rest : Text} {lexeme : Lexeme}
    (ahead : Lexer.Ahead expression start (digits ++ rest)) (grammar : Lexeme.Digits digits)
    (stops : Text.Stops Char.isDigit rest) (verdict : Lexeme.NumberVerdict digits rest lexeme)
    (mode : Mode)
    : Scan.tokenAt mode expression start = lexeme.placed start := by
  obtain ⟨c, tail, equal, digit, -⟩ := grammar.first
  have here : expression.drop start = c :: (tail ++ rest) := by
    rw [ahead.drop_eq, equal, List.cons_append]
  have source : c :: (tail ++ rest) = digits ++ rest := by rw [equal, List.cons_append]
  rw [Scan.tokenAt_digit here digit, source, stops.takeWhile_append grammar.digit,
    stops.dropWhile_append grammar.digit, verdict.eq stops]

theorem isWordStart_of_isWordChar {c : Char} (word : isWordChar c) (digit : c.isDigit = false)
    : isWordStart c := by
  simp only [isWordChar, digit, Bool.or_false, Bool.or_eq_true] at word
  simpa [isWordStart] using word

theorem isDigit_of_isWordStart {c : Char} (first : isWordStart c) : c.isDigit = false := by
  rw [← Bool.not_eq_true]
  intro digit
  rw [isWordStart_of_isDigit digit] at first
  cases first

theorem tokenAt_word (around : Around expression start pos run after)
    (front : Front .word run after) (stops : Text.Stops isWordChar after) (mode : Mode)
    : Scan.tokenAt mode expression start = (classifyRun run).placed start := by
  cases front with
  | @word c tail _ first inside =>
      have word := isWordChar_of_isWordStart first
      have absent : Trivia.Absent (c :: (tail ++ after)) := by
        apply Trivia.absent_cons (isBlank_of_isWordChar word)
        intro slash
        subst slash
        exact absurd first (by decide)
      have whole : isWord (c :: tail) := by
        simp [isWord, first, List.all_eq_true.mpr inside]
      rw [tokenAt_of_absent around.ahead absent, Lexeme.read_wordStart mode first, Lexeme.readWord,
        List.append_eq, stops.takeWhile_append inside, classifyRun_word whole]
  | @spoiled digits d tail _ grammar first exponent inside =>
      have ahead := around.ahead
      rw [List.append_assoc] at ahead
      have digit : d.isDigit = false := isDigit_of_isWordStart first
      have ends : Text.Stops Char.isDigit (d :: tail ++ after) := Text.stops_cons_iff.mpr digit
      have word : ∀ e ∈ d :: tail, isWordChar e :=
        List.forall_mem_cons.mpr ⟨isWordChar_of_isWordStart first, inside⟩
      have verdict : Lexeme.NumberVerdict digits (d :: (tail ++ after)) _ := .word first exponent
      rw [← List.cons_append, stops.takeWhile_append word] at verdict
      rw [tokenAt_verdict ahead grammar ends verdict]
      obtain ⟨c, more, equal, digit, -⟩ := grammar.first
      rw [equal, List.cons_append, classifyRun_digit digit]

theorem follows_inWord
    (around : Around expression start pos run after) (front : Front .word run after)
    : Follows mode expression start (inWord expression start pos) := by
  apply follows_if around
  · intro d rest equal word
    subst equal
    apply follows_next around
    cases front with
    | word first inside =>
        exact .word first (List.forall_mem_append.mpr ⟨inside, by simpa using word⟩)
    | spoiled grammar first exponent inside =>
        rw [List.append_assoc]
        exact .spoiled grammar first exponent
          (List.forall_mem_append.mpr ⟨inside, by simpa using word⟩)
  · intro stops
    exact follows_finish around (classifyRun_whole run)
      (tokenAt_word around front stops mode)

-----------------------------------------------------------------------------------------
-- Numbers
-----------------------------------------------------------------------------------------

theorem afterMantissa_pointed {whole part rest : Text} (digits : Lexeme.Digits whole)
    (fraction : ∀ c ∈ part, c.isDigit) (stops : Text.Stops Char.isDigit rest)
    : afterMantissa (whole ++ '.' :: (part ++ rest)) = rest := by
  have point : Text.Stops Char.isDigit ('.' :: (part ++ rest)) :=
    Text.stops_cons_iff.mpr (by decide)
  simp only [afterMantissa, point.dropWhile_append digits.digit, List.head?_cons, List.tail_cons,
    stops.dropWhile_append fraction, ↓reduceIte]

theorem afterMantissa_marker {before : Text} {marker : Char} (mantissa : Mantissa before)
    (marks : isExponentMarker marker) (power : Text)
    : afterMantissa (before ++ marker :: power) = marker :: power := by
  have stops := Lexeme.stops_marker marks power
  cases mantissa with
  | whole digits =>
      have point : marker ≠ '.' := by
        intro same
        subst same
        exact absurd marks (by decide)
      simp [afterMantissa, stops.dropWhile_append digits.digit, point]
  | pointed digits fraction =>
      rw [List.append_assoc]
      exact afterMantissa_pointed digits fraction.digit stops

theorem readDouble_pointed {whole part : Text} (digits : Lexeme.Digits whole)
    (fraction : ∀ c ∈ part, c.isDigit)
    : readDouble (whole ++ '.' :: part) = .double (whole ++ '.' :: part) := by
  have rest := afterMantissa_pointed digits fraction (.nil Char.isDigit)
  rw [List.append_nil] at rest
  simp [readDouble, writesNumber, rest]

theorem isSign_of_isDigit {c : Char} (digit : c.isDigit) : isSign c = false := by
  rw [← Bool.not_eq_true]
  intro signs
  rcases Lexeme.sign_of_isSign signs with none | plus | minus
  · cases none
  · cases plus
    exact absurd digit (by decide)
  · cases minus
    exact absurd digit (by decide)

/-- Behind a sign an exponent is spoiled exactly if it has no digits. -/
theorem readDouble_signed {before power : Text} {marker sign : Char}
    (mantissa : Mantissa before) (marks : isExponentMarker marker) (signs : isSign sign)
    (digits : ∀ c ∈ power, c.isDigit)
    : readDouble (before ++ marker :: sign :: power)
      = if power = [] then .rejected (.malformedNumber (before ++ [marker, sign]))
        else .double (before ++ marker :: sign :: power) := by
  have rest := afterMantissa_marker mantissa marks (sign :: power)
  cases power with
  | nil => simp [readDouble, writesNumber, rest, signs, marks]
  | cons c more =>
      have all := List.all_eq_true.mpr digits
      simp [readDouble, writesNumber, rest, signs, marks, all]

theorem readDouble_unsigned {before power : Text} {marker : Char}
    (mantissa : Mantissa before) (marks : isExponentMarker marker) (digits : Lexeme.Digits power)
    : readDouble (before ++ marker :: power) = .double (before ++ marker :: power) := by
  have rest := afterMantissa_marker mantissa marks power
  have all := List.all_eq_true.mpr digits.digit
  obtain ⟨c, more, equal, digit, -⟩ := digits.first
  subst equal
  simp [readDouble, writesNumber, rest, isSign_of_isDigit digit, marks, all]

/-- At an exponent a step reads its verdict. -/
theorem tokenAt_exponent {before rest : Text} {marker : Char} {lexeme : Lexeme}
    (ahead : Lexer.Ahead expression start (before ++ marker :: rest)) (mantissa : Mantissa before)
    (marks : isExponentMarker marker) (verdict : Lexeme.ExponentVerdict before marker rest lexeme)
    (mode : Mode)
    : Scan.tokenAt mode expression start = lexeme.placed start := by
  have stops := Lexeme.stops_marker marks rest
  cases mantissa with
  | whole digits => exact tokenAt_verdict ahead digits stops (.exponent marks verdict) mode
  | @pointed whole part digits fraction =>
      rw [List.append_assoc] at ahead
      have point : Text.Stops Char.isDigit ('.' :: (part ++ marker :: rest)) :=
        Text.stops_cons_iff.mpr (by decide)
      exact tokenAt_verdict ahead digits point (.fractionExponent fraction marks verdict) mode

theorem follows_atMarker {marker : Char} {rest : Text}
    (around : Around expression start pos run (marker :: rest)) (mantissa : Mantissa run)
    (marks : isExponentMarker marker)
    : Follows mode expression start (atMarker expression start pos) := by
  have passed : Around expression start (pos + 1) (run ++ [marker]) rest := around.step
  apply follows_if passed
  · intro sign power equal signs
    subst equal
    exact follows_pair around (.signed mantissa marks signs (by simp))
  intro unsigned
  apply follows_if passed
  · intro d power equal digit
    subst equal
    have started : ¬Text.Stops Char.isDigit ([] ++ d :: power) := by
      simp [Text.stops_cons_iff, digit]
    exact follows_next around (.unsigned mantissa marks (by simp) started)
  · intro stops
    exact follows_finish passed trivial
      (tokenAt_exponent around.ahead mantissa marks (.markerAlone unsigned stops) mode)

/-- Behind its first digits a number goes on with a point, with an exponent, as a spoiled word or
not at all.
-/
theorem follows_inInteger
    (around : Around expression start pos run after) (digits : Lexeme.Digits run)
    : Follows mode expression start (inInteger expression start pos) := by
  apply follows_if around
  · intro d rest equal digit
    subst equal
    refine follows_next around (.integer ⟨by simp, ?_⟩)
    exact List.forall_mem_append.mpr ⟨digits.digit, by simpa using digit⟩
  intro stops
  rw [around.next]
  by_cases point : after.head? = some '.'
  · rw [if_pos point]
    obtain ⟨rest, equal⟩ := List.head?_eq_some_iff.mp point
    subst equal
    exact follows_next around (.point digits)
  rw [if_neg point, ← around.next]
  apply follows_if around
  · intro marker rest equal marks
    subst equal
    exact follows_atMarker around (.whole digits) marks
  intro plain
  apply follows_if around
  · intro d rest equal word
    subst equal
    have first := isWordStart_of_isWordChar word (Text.stops_cons_iff.mp stops)
    exact follows_next around
      (.spoiled digits first (Text.stops_cons_iff.mp plain) (by simp))
  · intro ends
    have outside := ends.mono (fun _ => isWordChar_of_isWordStart)
    obtain ⟨lexeme, verdict⟩ := Lexeme.integerVerdict_total run
    apply follows_finish around (Lexeme.integer_whole run)
    rw [verdict.eq]
    exact tokenAt_verdict around.ahead digits stops (.integer point outside verdict) mode

/-- Behind its point a number goes on with digits, or gives the point back to a member. -/
theorem follows_behindPoint {whole : Text}
    (around : Around expression start pos (whole ++ ['.']) after) (digits : Lexeme.Digits whole)
    : Follows mode expression start (behindPoint expression start pos) := by
  have point (text : Text) : Text.Stops Char.isDigit ('.' :: text) :=
    Text.stops_cons_iff.mpr (by decide)
  have ahead := around.ahead
  rw [List.append_assoc, List.singleton_append] at ahead
  apply follows_if around
  · intro d rest equal digit
    subst equal
    apply follows_next around
    rw [List.append_assoc]
    exact .fraction digits ⟨by simp, by simpa using digit⟩
  intro stops
  apply follows_if around
  · intro c rest equal member
    subst equal
    have ends := around.pos_eq
    rw [List.length_append, List.length_singleton] at ends
    have before : pos.ppred = some (start + whole.length) := by
      rw [ends]
      rfl
    have back : Around expression start (start + whole.length) whole ('.' :: c :: rest) :=
      ⟨ahead, rfl⟩
    obtain ⟨lexeme, verdict⟩ := Lexeme.integerVerdict_total whole
    rw [before]
    apply follows_finish back (Lexeme.integer_whole whole)
    rw [verdict.eq]
    exact tokenAt_verdict ahead digits (point _) (.member member verdict) mode
  · intro outside
    apply follows_finish around (Lexeme.readDouble_whole _)
    rw [readDouble_pointed digits (by simp)]
    exact tokenAt_verdict ahead digits (point after) (.point outside stops) mode

theorem follows_inFraction {whole part : Text}
    (around : Around expression start pos (whole ++ '.' :: part) after)
    (digits : Lexeme.Digits whole) (fraction : Lexeme.Digits part)
    : Follows mode expression start (inFraction expression start pos) := by
  apply follows_if around
  · intro d rest equal digit
    subst equal
    apply follows_next around
    rw [List.append_assoc]
    refine .fraction digits ⟨by simp, ?_⟩
    exact List.forall_mem_append.mpr ⟨fraction.digit, by simpa using digit⟩
  intro stops
  apply follows_if around
  · intro marker rest equal marks
    subst equal
    exact follows_atMarker around (.pointed digits fraction) marks
  · intro plain
    have ahead := around.ahead
    rw [List.append_assoc, List.cons_append] at ahead
    apply follows_finish around (Lexeme.readDouble_whole _)
    rw [readDouble_pointed digits fraction.digit]
    exact tokenAt_verdict ahead digits (Text.stops_cons_iff.mpr (by decide))
      (.fraction fraction stops plain) mode

theorem tokenAt_exponent_run (around : Around expression start pos run after)
    (front : Front .exponent run after) (stops : Text.Stops Char.isDigit after) (mode : Mode)
    : Scan.tokenAt mode expression start = (readDouble run).placed start := by
  have ahead := around.ahead
  cases front with
  | signed mantissa marks signs digits =>
      rw [List.append_assoc] at ahead
      rw [readDouble_signed mantissa marks signs digits]
      split
      · next none =>
        subst none
        exact tokenAt_exponent ahead mantissa marks (.signAlone signs stops) mode
      · next more =>
        exact tokenAt_exponent ahead mantissa marks (.signed signs ⟨more, digits⟩ stops) mode
  | @unsigned _ _ power _ mantissa marks digits started =>
      rw [List.append_assoc] at ahead
      have exponent : Lexeme.Digits power := by
        refine ⟨?_, digits⟩
        intro none
        rw [none] at started
        exact started stops
      rw [readDouble_unsigned mantissa marks exponent]
      exact tokenAt_exponent ahead mantissa marks (.unsigned exponent stops) mode

theorem follows_inExponent
    (around : Around expression start pos run after) (front : Front .exponent run after)
    : Follows mode expression start (inExponent expression start pos) := by
  apply follows_if around
  · intro d rest equal digit
    subst equal
    apply follows_next around
    cases front with
    | signed mantissa marks signs digits =>
        rw [List.append_assoc]
        exact .signed mantissa marks signs
          (List.forall_mem_append.mpr ⟨digits, by simpa using digit⟩)
    | unsigned mantissa marks digits started =>
        rw [List.append_assoc]
        refine .unsigned mantissa marks
          (List.forall_mem_append.mpr ⟨digits, by simpa using digit⟩) ?_
        simpa using started
  · intro stops
    exact follows_finish around (Lexeme.readDouble_whole run)
      (tokenAt_exponent_run around front stops mode)

end States

end KSharp.Cursor
