import KSharp.Text
import KSharp.Unicode.Lowercase

/-! The operators of macro expressions: symbols, which grow by longest match, and words. -/

namespace KSharp.Operator

/-- The operators spelt with symbols: assignment, comparison, arithmetic, logic, bits and
last the conditional, lambda and statement separators.
-/
def symbols : List Text :=
  [
    ['='], ['+', '='], ['-', '='], ['*', '='], ['/', '='], ['%', '='], ['&', '='],
    ['|', '='], ['^', '='], ['<', '<', '='], ['>', '>', '='], ['?', '?', '='],
    ['=', '='], ['!', '='], ['<'], ['>'], ['<', '='], ['>', '='],
    ['+'], ['-'], ['*'], ['/'], ['%'], ['+', '+'], ['-', '-'],
    ['!'], ['&', '&'], ['|', '|'],
    ['&'], ['|'], ['^'], ['~'], ['<', '<'], ['>', '>'],
    ['?', '?'], ['?'], [':'], ['=', '>'], [';']
  ]

/-- The operators spelt as words. -/
def words : List Text :=
  [['m', 'o', 'd'], ['a', 'n', 'd'], ['o', 'r'], ['o', 'f'], ['i', 'n']]

/-- All operators. -/
def table : List Text := symbols ++ words

/-- The characters that start a symbol, each of them an operator by itself. -/
def chars : Text :=
  ['-', '+', '*', '/', '%', '>', '<', '!', '=', '&', '|', '~', '^', ':', '?', ';']

/-- Whether the character starts or continues a symbol. -/
def isChar (c : Char) : Bool := c ∈ chars

/-- Whether the text is an operator, in any letter case. -/
def isOperator (text : Text) : Bool := text ∈ table || Unicode.lowercase text ∈ table

/-- Whether the text is an operator spelt as a word, in any letter case. -/
def isWordOperator (text : Text) : Bool := Unicode.lowercase text ∈ words

/-- Whether the text with one more character still starts a symbol. -/
def canGrow (current : Text) (next : Char) : Bool :=
  symbols.any fun symbol => (current ++ [next]).isPrefixOf symbol

/-- The longest growth of `current` into the text ahead that starts a symbol at each step. -/
def grow (current : Text) : Text → Text
  | [] => current
  | c :: rest => if canGrow current c then grow (current ++ [c]) rest else current

end KSharp.Operator
