import KSharp.Proofs.ErrorPlaces
import KSharp.Proofs.LetterCases
import KSharp.Proofs.LexemeSteps

/-! Words: each of them is read to its end and has one of three kinds, by its spelling in any letter
case of ASCII. What is rejected as an identifier is therefore no word, and starts with a digit.
-/

namespace KSharp

-----------------------------------------------------------------------------------------
-- Spellings
-----------------------------------------------------------------------------------------

/-- The spelling of a word in small letters of ASCII. -/
def Text.small (word : Text) : Text := word.map Char.toLower

/-- A character is one of ASCII if its small form is a small letter. -/
theorem toNat_lt_of_isLower {c : Char} (small : c.toLower.isLower) : c.toNat < 128 := by
  apply Nat.lt_of_not_le
  intro beyond
  rw [Unicode.toLower_of_ge beyond] at small
  have bounds := Unicode.isLower_iff.mp small
  omega

namespace Operator

theorem words_letters : ∀ name ∈ words, ∀ d ∈ name, d.isLower ∧ d ≠ 'k' := by
  simp [words]

/-- The letter cases of Unicode spell the same words as those of ASCII. -/
theorem isWordOperator_iff {word : Text} : isWordOperator word ↔ word.small ∈ words := by
  rw [isWordOperator, decide_eq_true_eq]
  constructor
  · intro member
    rwa [Text.small, (Unicode.lowercase_eq_iff (words_letters _ member)).mp rfl]
  · intro member
    rwa [(Unicode.lowercase_eq_iff (words_letters _ member)).mpr rfl]

theorem ascii_of_small {word : Text} (member : word.small ∈ words) : ∀ c ∈ word, c.toNat < 128 := by
  intro c inside
  have letter := words_letters _ member c.toLower (List.mem_map_of_mem inside)
  exact toNat_lt_of_isLower letter.1

end Operator

-----------------------------------------------------------------------------------------
-- Words
-----------------------------------------------------------------------------------------

namespace Lexeme

/-- The spellings of the truth values. -/
def truthValues : List Text := ["true".toList, "false".toList]

/-- The kind and the value of a word: it is an operator if it spells one, and then consists of
ASCII letters, a truth value if it spells one, and an identifier otherwise.
-/
structure Classified (word : Text) (kind : Kind) (value : Value) : Prop where
  operator : kind = .operator ↔ word.small ∈ Operator.words
  boolean : kind = .boolean ↔ word.small ∈ truthValues
  identifier : kind = .identifier ↔ word.small ∉ Operator.words ∧ word.small ∉ truthValues
  ascii : kind = .operator → ∀ c ∈ word, c.toNat < 128
  lowercase : kind = .operator → value = .text word.small
  truth : kind = .boolean → value = .boolean (word.small = "true".toList)
  name : kind = .identifier → value = .text word

/-- No word spells an operator and a truth value, by the truth values. -/
theorem truthValues_apart : ∀ name ∈ truthValues, name ∉ Operator.words := by
  decide

theorem classified_operator {word : Text} (member : word.small ∈ Operator.words)
    : Classified word .operator (.text word.small) := by
  have other : word.small ∉ truthValues := fun truth => truthValues_apart _ truth member
  exact {
    operator := by simp [member]
    boolean := by simp [other]
    identifier := by simp [member]
    ascii := fun _ => Operator.ascii_of_small member
    lowercase := fun _ => rfl
    truth := by simp
    name := by simp
  }

theorem classified_truth {word : Text} (member : word.small ∈ truthValues)
    : Classified word .boolean (.boolean (word.small = "true".toList)) := by
  have other := truthValues_apart _ member
  constructor <;> simp [member, other]

theorem classified_name {word : Text} (operator : word.small ∉ Operator.words)
    (truth : word.small ∉ truthValues)
    : Classified word .identifier (.text word) := by
  constructor <;> simp [operator, truth]

theorem isNameIgnoringCase_iff {name word : Text}
    : isNameIgnoringCase name word ↔ word.small = name :=
  decide_eq_true_iff

/-- Every word is classified and none rejected, by its spelling. -/
theorem classifyWord_classified (word : Text)
    : ∃ kind value, classifyWord word = .found kind word value ∧ Classified word kind value := by
  by_cases operator : word.small ∈ Operator.words
  · have lowered := (Unicode.lowercase_eq_iff (Operator.words_letters _ operator)).mpr rfl
    refine ⟨.operator, .text word.small, ?_, classified_operator operator⟩
    rw [classifyWord, if_pos (Operator.isWordOperator_iff.mpr operator), lowered]
  rw [classifyWord, if_neg (mt Operator.isWordOperator_iff.mp operator)]
  by_cases truth : word.small ∈ truthValues
  · refine ⟨.boolean, .boolean (word.small = "true".toList), ?_, classified_truth truth⟩
    rcases List.mem_cons.mp truth with spelled | spelled
    · simp [isNameIgnoringCase_iff, spelled]
    · simp [isNameIgnoringCase_iff, List.mem_singleton.mp spelled]
  · refine ⟨.identifier, .text word, ?_, classified_name operator truth⟩
    simp only [truthValues, List.mem_cons, List.not_mem_nil, or_false, not_or] at truth
    rw [if_neg (mt isNameIgnoringCase_iff.mp truth.1),
      if_neg (mt isNameIgnoringCase_iff.mp truth.2), symbol]

end Lexeme

-----------------------------------------------------------------------------------------
-- Steps
-----------------------------------------------------------------------------------------

namespace Scan

/-- A step to a word reads the longest run of word characters at its position. -/
structure WordStep (expression : Text) (pos : Nat) (token : Token) : Prop where
  offset : token.offset = pos
  run : Text.LongestRun isWordChar (expression.drop pos) token.raw
  classified : Lexeme.Classified token.raw token.kind token.value

theorem tokenAt_wordStart (mode : Mode) {expression : Text} {pos : Nat} {c : Char}
    (here : expression[pos]? = some c) (start : isWordStart c)
    : ∃ token,
        tokenAt mode expression pos = .token token token.stop
        ∧ WordStep expression pos token := by
  obtain ⟨inside, rfl⟩ := List.getElem?_eq_some_iff.mp here
  have ahead := List.drop_eq_getElem_cons inside
  generalize expression[pos] = c, expression.drop (pos + 1) = rest at ahead start
  have word := isWordChar_of_isWordStart start
  have absent : Trivia.Absent (c :: rest) := by
    refine Trivia.absent_cons (isBlank_of_isWordChar word) ?_ rest
    rintro rfl
    exact absurd start (by decide)
  obtain ⟨kind, value, found, classified⟩ := Lexeme.classifyWord_classified
    (c :: rest.takeWhile isWordChar)
  refine ⟨⟨kind, c :: rest.takeWhile isWordChar, value, pos⟩, ?_, rfl, ⟨?_, ?_⟩, classified⟩
  · rw [tokenAt, ahead, ahead_of_absent absent, Lexeme.read_wordStart mode start, Lexeme.readWord,
      found]
    rfl
  · exact List.forall_mem_cons.mpr ⟨word, List.all_eq_true.mp List.all_takeWhile⟩
  · refine ⟨rest.dropWhile isWordChar, ?_, Text.stops_dropWhile _ _⟩
    rw [ahead, List.cons_append, List.takeWhile_append_dropWhile]

/-- Whatever is rejected as an identifier starts with a digit, as its cause says. -/
theorem startsWithDigit_of_tokenAt {mode expression pos text offset}
    (step : tokenAt mode expression pos = .error (.invalidIdentifier text) offset)
    : text.StartsWithDigit := by
  obtain ⟨trivia, c, rest, -, rejected, -⟩ := ahead_eq_error_iff.mp step
  exact (Lexeme.describes_of_rejected rejected).2.1

end Scan

namespace Lexer

theorem startsWithDigit_of_tokenize {mode expression error text}
    (failed : tokenize mode expression = .error error)
    (cause : error.cause = .invalidIdentifier text)
    : text.StartsWithDigit := by
  cases mode with
  | strict =>
      obtain ⟨-, tokens, run⟩ := failed_of_tokenize_error failed
      obtain ⟨front, c, rest, -, -, -, rejected⟩ := run.rejected
      rw [cause] at rejected
      exact (Lexeme.describes_of_rejected rejected).2.1
  | lenient =>
      obtain ⟨tokens, ending, run⟩ := run_total .lenient .token 0 expression (by simp)
      rw [run.tokenize_lenient] at failed
      cases failed

end Lexer

/-- At a letter or an underscore a step reads the longest word there, in either mode: it is an
operator or a truth value if it spells one in some letter case of ASCII, and an identifier
otherwise. So what is rejected as an identifier starts with a digit.
-/
theorem words_classified (mode : Mode) (expression : Text)
    : (∀ pos c,
        expression[pos]? = some c
        → isWordStart c
        → ∃ token,
            Scan.tokenAt mode expression pos = .token token token.stop
            ∧ Scan.WordStep expression pos token)
      ∧ (∀ pos text offset,
          Scan.tokenAt mode expression pos = .error (.invalidIdentifier text) offset
          → text.StartsWithDigit)
      ∧ ∀ error text,
          tokenize mode expression = .error error
          → error.cause = .invalidIdentifier text
          → text.StartsWithDigit := by
  refine ⟨?_, ?_, ?_⟩
  · intro pos c here start
    exact Scan.tokenAt_wordStart mode here start
  · intro pos text offset step
    exact Scan.startsWithDigit_of_tokenAt step
  · intro error text failed cause
    exact Lexer.startsWithDigit_of_tokenize failed cause

/-- A word with the dotted capital I is no operator, although another letter case of `in` is one. -/
theorem words_classified_dotted
    : let expression := "(İN iN 9x".toList
      let name : Token := ⟨.identifier, "İN".toList, .text "İN".toList, 1⟩
      let operator : Token := ⟨.operator, "iN".toList, .text "in".toList, 4⟩
      Scan.tokenAt .strict expression 1 = .token name 3
        ∧ Scan.WordStep expression 1 name
        ∧ Scan.tokenAt .strict expression 4 = .token operator 6
        ∧ Scan.WordStep expression 4 operator
        ∧ Scan.tokenAt .strict expression 7 = .error (.invalidIdentifier "9x".toList) 7
        ∧ Text.StartsWithDigit "9x".toList := by
  obtain ⟨words, numbers, -⟩ := words_classified .strict "(İN iN 9x".toList
  have name : Scan.tokenAt .strict "(İN iN 9x".toList 1
      = .token ⟨.identifier, "İN".toList, .text "İN".toList, 1⟩ 3 := by
    decide +kernel
  have operator : Scan.tokenAt .strict "(İN iN 9x".toList 4
      = .token ⟨.operator, "iN".toList, .text "in".toList, 4⟩ 6 := by
    decide +kernel
  have rejected : Scan.tokenAt .strict "(İN iN 9x".toList 7
      = .error (.invalidIdentifier "9x".toList) 7 := by
    cbv
  obtain ⟨_, first, nameStep⟩ := words 1 'İ' rfl (by decide +kernel)
  obtain ⟨_, second, operatorStep⟩ := words 4 'i' rfl (by decide +kernel)
  cases name.symm.trans first
  cases operator.symm.trans second
  exact ⟨name, nameStep, operator, operatorStep, rejected, numbers _ _ _ rejected⟩

end KSharp
