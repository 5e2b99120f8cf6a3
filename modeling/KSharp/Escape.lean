import KSharp.Text

/-! Escape sequences of string literals, written and read through one ordered table. -/

namespace KSharp.Escape

/-- An escape sequence and the literal text it stands for. -/
structure Sequence where
  escaped : Text
  literal : Text
deriving DecidableEq

/-- The escape sequences in the order in which they are applied. The last one is there
because macros can stand in markup that is itself closed by a percent sign and a brace.
-/
def table : List Sequence :=
  [
    ⟨['\\', '\''], ['\'']⟩,
    ⟨['\\', '"'], ['"']⟩,
    ⟨['\\', 'v'], ['\u000b']⟩,
    ⟨['\\', '0'], ['\u0000']⟩,
    ⟨['\\', 'a'], ['\u0007']⟩,
    ⟨['\\', 'b'], ['\u0008']⟩,
    ⟨['\\', 'f'], ['\u000c']⟩,
    ⟨['\\', 'n'], ['\n']⟩,
    ⟨['\\', 'r'], ['\r']⟩,
    ⟨['\\', 't'], ['\t']⟩,
    ⟨['\\', '%', '}'], ['%', '}']⟩
  ]

/-- A private-use character that stands for a literal backslash while the table is applied,
so that the table never sees that backslash.
-/
def placeholder : Char := '\ue000'

/-- The text with the escape sequences of a string literal decoded; a backslash that starts
none of them is kept. A placeholder in a text with a backslash comes out as a backslash.
-/
def unescape (text : Text) : Text :=
  if '\\' ∈ text then
    let hidden := Text.replaceAll ['\\', '\\'] [placeholder] text
    let decoded := table.foldl (fun t s => Text.replaceAll s.escaped s.literal t) hidden
    Text.replaceAll [placeholder] ['\\'] decoded
  else text

/-- The text with every literal of the table escaped and every backslash doubled, so that
it can stand between the quotes of a string literal.
-/
def escape (text : Text) : Text :=
  let hidden := Text.replaceAll ['\\'] [placeholder] text
  let encoded := table.foldl (fun t s => Text.replaceAll s.literal s.escaped t) hidden
  Text.replaceAll [placeholder] ['\\', '\\'] encoded

/-- The text of a verbatim literal's body: a doubled quote is one quote. -/
def unescapeVerbatim (body : Text) : Text := Text.replaceAll ['"', '"'] ['"'] body

/-- The text with every pipe of a parameter value, written with a backslash, bare. -/
def unescapePipes (raw : Text) : Text := Text.replaceAll ['\\', '|'] ['|'] raw

end KSharp.Escape
