import Mathlib
import KSharp.Proofs.EscapeDecoding
import KSharp.Proofs.LenientRecovery
import KSharp.Proofs.LetterCases
import KSharp.Proofs.NumberDecisions
import KSharp.Proofs.OpenLiterals

/-! The law of each kind of token: of which form its source text is, and which value it has by that
text. Every token keeps it, but for the quoted literal that the lenient mode leaves open at the end.
-/

namespace KSharp

-----------------------------------------------------------------------------------------
-- Laws
-----------------------------------------------------------------------------------------

/-- The names that no identifier spells in any letter case. -/
def reservedNames : List Text := "true".toList :: "false".toList :: Operator.words

namespace Lexeme

/-- A point with any digits behind it, or nothing. -/
def Fraction (text : Text) : Prop :=
  text = [] ∨ ∃ part : Text, text = '.' :: part ∧ ∀ c ∈ part, c.isDigit

/-- A marker with a sign or none and digits behind it, or nothing. -/
def Exponent (text : Text) : Prop :=
  text = []
  ∨ ∃ marker sign power,
      text = marker :: (sign ++ power)
      ∧ isExponentMarker marker
      ∧ Sign sign
      ∧ Digits power

/-- The source text of a double: digits, and behind them a fraction, an exponent or both. -/
def DoubleSource (raw : Text) : Prop :=
  ∃ whole fraction exponent,
    raw = whole ++ (fraction ++ exponent)
    ∧ Digits whole
    ∧ Fraction fraction
    ∧ Exponent exponent
    ∧ fraction ++ exponent ≠ []

/-- A closed string literal with its value. In a quoted one escape sequences are decoded; in a
verbatim one, where each longest run of quotes is even, a pair of them becomes one.
-/
inductive ClosedLiteral : Text → Value → Prop where
  | quoted {body} (grammar : QuotedBody body)
    : ClosedLiteral ('"' :: body ++ ['"']) (.text (Escape.meaning body))
  | verbatim {body text} (pairs : VerbatimOpen body)
    (single : Text.Replaced ['"', '"'] ['"'] body text)
    : ClosedLiteral ('@' :: '"' :: body ++ ['"']) (.text text)

end Lexeme

/-- The source text is one character, and the value is that text. -/
def IsMark (c : Char) (raw : Text) (value : Value) : Prop := raw = [c] ∧ value = .text raw

/-- The law of a kind, between the source text of a token and its value. -/
def Kind.Law (kind : Kind) (raw : Text) (value : Value) : Prop :=
  match kind with
  | .identifier => value = .text raw ∧ isWord raw ∧ Unicode.lowercase raw ∉ reservedNames
  | .integer =>
      Lexeme.Digits raw ∧ value = .integer (Text.decimal raw) ∧ Text.decimal raw ≤ 2 ^ 63 - 1
  | .double => Lexeme.DoubleSource raw ∧ value = .double (Binary64.ofLiteral raw)
  | .boolean =>
      ∃ truth : Bool,
        raw.map Char.toLower = (if truth then "true".toList else "false".toList)
        ∧ value = .boolean truth
  | .string => Lexeme.ClosedLiteral raw value
  | .operator => value = .text (Unicode.lowercase raw) ∧ Unicode.lowercase raw ∈ Operator.table
  | .semicolon => IsMark ';' raw value
  | .dot => IsMark '.' raw value
  | .comma => IsMark ',' raw value
  | .leftBracket => IsMark '(' raw value
  | .rightBracket => IsMark ')' raw value
  | .leftIndexer => IsMark '[' raw value
  | .rightIndexer => IsMark ']' raw value
  | .blockStart => IsMark '{' raw value
  | .blockEnd => IsMark '}' raw value
  | .parameter =>
      ∃ name, Parameter.Name name ∧ raw = Parameter.source name ∧ value = .text name
  | .parameterValue => ∃ text, value = .text text ∧ Text.Replaced ['\\', '|'] ['|'] raw text

/-- A quoted literal without a closing quote, with its value. -/
def OpenLiteral (raw : Text) (value : Value) : Prop :=
  ∃ body, raw = '"' :: body ∧ Lexeme.QuotedOpen body ∧ value = .text (Escape.meaning body)

/-- The token keeps the law of its kind, or it is the literal that the lenient mode leaves open at
the end of an expression of the length.
-/
def Token.Lawful (mode : Mode) (length : Nat) (token : Token) : Prop :=
  token.kind.Law token.raw token.value
  ∨ mode = .lenient
    ∧ token.kind = .string
    ∧ token.stop = length
    ∧ OpenLiteral token.raw token.value

-----------------------------------------------------------------------------------------
-- Numbers
-----------------------------------------------------------------------------------------

namespace Lexeme

theorem fraction_of_digits {part : Text} (digits : Digits part) : Fraction ('.' :: part) :=
  Or.inr ⟨part, rfl, digits.digit⟩

/-- A mantissa is digits with a fraction or none. -/
theorem Mantissa.parts {text} (mantissa : Mantissa text)
    : ∃ whole fraction, text = whole ++ fraction ∧ Digits whole ∧ Fraction fraction := by
  cases mantissa with
  | whole digits => exact ⟨_, [], (List.append_nil _).symm, digits, Or.inl rfl⟩
  | pointed digits fraction => exact ⟨_, _, rfl, digits, fraction_of_digits fraction⟩

/-- A number of the grammar that is no integer is a double, by the cases of the grammar. -/
theorem Numeral.doubleSource {raw after} (numeral : Numeral .double raw after)
    : DoubleSource raw := by
  cases numeral with
  | @point whole _ digits stops =>
      refine ⟨whole, ['.'], [], rfl, digits, Or.inr ⟨[], rfl, ?_⟩, Or.inl rfl, by simp⟩
      simp
  | @fraction whole part _ digits fraction stops exponent =>
      refine ⟨whole, '.' :: part, [], ?_, digits, ?_, Or.inl rfl, by simp⟩
      · simp
      · exact fraction_of_digits fraction
  | @exponent before marker sign power _ mantissa marks signs digits stops =>
      obtain ⟨whole, fraction, rfl, integral, pointed⟩ := mantissa.parts
      refine ⟨whole, fraction, marker :: (sign ++ power), ?_, integral, pointed, ?_, by simp⟩
      · rw [List.append_assoc]
      · exact Or.inr ⟨marker, sign, power, rfl, marks, signs, digits⟩

/-- A number of the grammar keeps the law of its kind. -/
theorem Numeral.law {kind raw value after} (numeral : Numeral kind raw after)
    (fits : ofNumeral kind raw = .found kind raw value)
    : kind.Law raw value := by
  have double {raw} (source : DoubleSource raw)
      (found : ofNumeral .double raw = .found .double raw value)
      : Kind.Law .double raw value := by
    cases found
    exact ⟨source, rfl⟩
  cases numeral with
  | integer digits stops member =>
      simp only [ofNumeral, if_true, Lexeme.integer] at fits
      split at fits
      · next small =>
        cases fits
        rw [Text.toNat_eq_decimal] at small ⊢
        exact ⟨digits, rfl, small⟩
      · cases fits
  | point digits stops => exact double (Numeral.point digits stops).doubleSource fits
  | fraction digits fraction stops exponent =>
      exact double (Numeral.fraction digits fraction stops exponent).doubleSource fits
  | exponent mantissa marks signs digits stops =>
      exact double (Numeral.exponent mantissa marks signs digits stops).doubleSource fits

-----------------------------------------------------------------------------------------
-- Words, literals and symbols
-----------------------------------------------------------------------------------------

/-- A word keeps the law of the kind that it is classified as. An identifier spells no truth value
in the letter case of Unicode, since it spells none in that of ASCII.
-/
theorem classifyWord_law {word kind raw value} (start : isWord word)
    (h : classifyWord word = .found kind raw value)
    : kind.Law raw value := by
  have spelled {name : Text} (letters : ∀ d ∈ name, d.isLower ∧ d ≠ 'k')
      : Unicode.lowercase word = name ↔ isNameIgnoringCase name word := by
    rw [Unicode.lowercase_eq_iff letters, isNameIgnoringCase, decide_eq_true_eq]
  unfold classifyWord at h
  split at h
  · next operator =>
    cases h
    have member : Unicode.lowercase word ∈ Operator.words := of_decide_eq_true operator
    exact ⟨rfl, List.mem_append_right Operator.symbols member⟩
  split at h
  · next spells =>
    cases h
    exact ⟨true, of_decide_eq_true spells, rfl⟩
  split at h
  · next spells =>
    cases h
    exact ⟨false, of_decide_eq_true spells, rfl⟩
  · next operator truth falsity =>
    cases h
    refine ⟨rfl, start, ?_⟩
    intro reserved
    rcases List.mem_cons.mp reserved with same | reserved
    · exact truth ((spelled (by simp)).mp same)
    rcases List.mem_cons.mp reserved with same | reserved
    · exact falsity ((spelled (by simp)).mp same)
    · exact operator (decide_eq_true reserved)

/-- Pairs of quotes keep every longest run even, since no single quote could close the body. -/
theorem VerbatimBody.pairs {body} (grammar : VerbatimBody body) : VerbatimOpen body := by
  apply verbatimOpen_of_none
  induction grammar with
  | nil => rfl
  | quotes more ih => simp [verbatimBody?, ih]
  | kept quote more ih =>
      rw [verbatimBody?, if_neg quote, ih, Option.map_none]
      rintro rest rfl _
      exact quote rfl

/-- A symbol keeps the law of its kind: it is an operator of the table, written without letters. -/
theorem symbol_law {raw : Text} (member : raw ∈ Operator.symbols)
    : (if raw = [';'] then Kind.semicolon else .operator).Law raw (.text raw) := by
  split
  · next semicolon => exact ⟨semicolon, rfl⟩
  · have same : ∀ symbol ∈ Operator.symbols, Unicode.lowercase symbol = symbol := by
      decide +kernel
    have lowered := same raw member
    simp only [Kind.Law, lowered]
    exact ⟨trivial, List.mem_append_left Operator.words member⟩

theorem punctuation_law {c : Char} {kind} (alone : Kind.punctuation? c = some kind)
    : kind.Law [c] (.text [c]) := by
  unfold Kind.punctuation? at alone
  split at alone <;> cases alone <;> exact ⟨rfl, rfl⟩

theorem quoted_law {body} (grammar : QuotedBody body)
    : Kind.Law .string ('"' :: body ++ ['"']) (.text (Escape.unescape body)) := by
  rw [Escape.unescape_eq_meaning]
  exact ClosedLiteral.quoted grammar

/-- A lexeme of the grammar keeps the law of its kind, by the cases of the grammar. -/
theorem Reads.law {kind raw value after} (reads : Reads kind raw value after)
    : kind.Law raw value := by
  cases reads with
  | word start inside stops classified =>
      refine classifyWord_law ?_ classified
      rw [isWord, start, Bool.true_and]
      exact List.all_eq_true.mpr inside
  | number numeral fits => exact numeral.law fits
  | quoted grammar => exact quoted_law grammar
  | verbatim grammar closes =>
      exact ClosedLiteral.verbatim grammar.pairs (Text.replaced_replaceAll (by simp) ['"'] _)
  | parameter grammar => exact ⟨_, grammar, rfl, rfl⟩
  | @operator c tail _ _ operator grown stops ordinary kinds =>
      have member := Operator.grow_mem_symbols (Operator.singleton_mem_symbols operator) tail
      rw [grown] at member
      rw [kinds]
      exact symbol_law member
  | punctuation alone => exact punctuation_law alone

/-- What is found in front of a text keeps the law of its kind, or it is a literal that takes the
whole text and stays open. By the first character, which the mode matters for only if it is a quote.
-/
theorem read_law {mode c rest kind raw value} (h : read mode c rest = .found kind raw value)
    : kind.Law raw value
      ∨ mode = .lenient ∧ kind = .string ∧ raw = c :: rest ∧ OpenLiteral raw value := by
  by_cases quote : c = '"'
  · subst quote
    rw [read_quote] at h
    unfold readQuoted at h
    split at h
    · next body read =>
      cases h
      exact Or.inl (quoted_law (quotedBody?_sound read).1)
    · cases h
    · next nothing =>
      cases h
      rw [Escape.unescape_eq_meaning]
      exact Or.inr ⟨rfl, rfl, rfl, rest, rfl, quotedOpen_of_none nothing, rfl⟩
  · rw [read_of_ne_quote quote mode .strict] at h
    obtain ⟨after, -, reads⟩ := read_sound h
    exact Or.inl reads.law

end Lexeme

-----------------------------------------------------------------------------------------
-- Runs
-----------------------------------------------------------------------------------------

namespace Lexer

/-- A step to a token yields a lawful one. An open literal takes the text to its end. -/
theorem Ahead.lawful {expression mode pos text token next} (ahead : Ahead expression pos text)
    (step : Scan.ahead mode pos text = .token token next)
    : token.Lawful mode expression.length := by
  obtain ⟨trivia, c, rest, cut, found, offset, -⟩ := Scan.ahead_eq_token_iff.mp step
  have source := (Trivia.split_between text).1
  simp only [cut] at source
  rcases Lexeme.read_law found with law | ⟨lenient, string, whole, literal⟩
  · exact Or.inl law
  · refine Or.inr ⟨lenient, string, ?_, literal⟩
    rw [Token.stop, offset, whole, ← ahead.length, source, List.length_append, Nat.add_assoc]

/-- A value keeps the law of its kind: pipes behind backslashes are replaced in it. -/
theorem parameterValue_law (raw : Text)
    : Kind.Law .parameterValue raw (.text (Escape.unescapePipes raw)) :=
  ⟨_, rfl, Text.replaced_replaceAll (by simp) ['|'] raw⟩

/-- The tokens of a run are lawful, by induction on the run. -/
theorem Run.lawful {mode phase pos text tokens ending}
    (run : Run mode phase pos text tokens ending)
    {expression} (ahead : Ahead expression pos text)
    : ∀ token ∈ tokens, token.Lawful mode expression.length := by
  induction run with
  | token step more ih =>
      exact List.forall_mem_cons.mpr ⟨ahead.lawful step, ih (ahead.token step)⟩
  | value step more ih =>
      obtain ⟨separator, raw, closing, -, -, rfl, -⟩ := Scan.valueAhead_reads step
      exact List.forall_mem_cons.mpr ⟨Or.inl (parameterValue_law raw), ih (ahead.value step)⟩
  | ended step => simp
  | failed step => simp
  | supplied step => exact List.forall_mem_singleton.mpr (Or.inl (parameterValue_law []))

/-- The tokens of an expression are lawful. -/
theorem lawful_of_tokenize {mode expression tokens} (read : tokenize mode expression = .ok tokens)
    : ∀ token ∈ tokens, token.Lawful mode expression.length := by
  obtain ⟨ending, run⟩ := exists_run_of_tokenize read
  exact run.lawful (.start expression)

/-- Each token of a stream, up to an error if there is one, keeps the law of its kind; in the lenient
mode one may also be a quoted literal that is open at the end of the expression. Witness: the run
from the start.
-/
theorem tokens_lawful (mode : Mode) (expression : Text)
    : ∀ token ∈ (start mode expression).tokens, token.Lawful mode expression.length := by
  intro token member
  obtain ⟨tokens, ending, run, read⟩ := exists_run_of_mem member
  exact run.lawful (.start expression) token read

/-- A value with a pipe behind a backslash holds the pipe alone, and a literal with an escaped quote
stays open behind a verbatim one.
-/
theorem tokens_lawful_open
    : let expression := "|(p)a\\|b|@\"a\"\"\" \"\\\"".toList
      let value : Token := ⟨.parameterValue, "a\\|b".toList, .text "a|b".toList, 4⟩
      let literal : Token := ⟨.string, "\"\\\"".toList, .text ['"'], 16⟩
      value ∈ (start .lenient expression).tokens
        ∧ Text.Replaced ['\\', '|'] ['|'] "a\\|b".toList "a|b".toList
        ∧ literal ∈ (start .lenient expression).tokens
        ∧ literal.Lawful .lenient expression.length := by
  have tokens : (start .lenient "|(p)a\\|b|@\"a\"\"\" \"\\\"".toList).tokens
      = [⟨.parameter, "|(p)".toList, .text ['p'], 0⟩,
          ⟨.parameterValue, "a\\|b".toList, .text "a|b".toList, 4⟩,
          ⟨.string, "@\"a\"\"\"".toList, .text "a\"".toList, 9⟩,
          ⟨.string, "\"\\\"".toList, .text ['"'], 16⟩] := by
    cbv
  intro expression value literal
  obtain ⟨held, left⟩
      : value ∈ (start .lenient expression).tokens
        ∧ literal ∈ (start .lenient expression).tokens := by
    rw [tokens]
    simp [value, literal]
  have lawful := tokens_lawful .lenient expression
  refine ⟨held, ?_, left, lawful literal left⟩
  rcases lawful value held with ⟨text, same, bare⟩ | ⟨-, string, -⟩
  · cases same
    exact bare
  · cases string

end Lexer

end KSharp
