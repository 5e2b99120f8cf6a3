import KSharp.Text

/-! The written form of JSON strings, objects and arrays. -/

namespace KSharp.Json

/-- A character inside a JSON string: a quote, a backslash and the characters below a space
are escaped, the common ones of these by a letter.
-/
def stringChar (c : Char) : Text :=
  if c = '"' then ['\\', '"']
  else if c = '\\' then ['\\', '\\']
  else if c = '\u0008' then ['\\', 'b']
  else if c = '\u000c' then ['\\', 'f']
  else if c = '\n' then ['\\', 'n']
  else if c = '\r' then ['\\', 'r']
  else if c = '\t' then ['\\', 't']
  else if c.toNat < 32 then
    ['\\', 'u', '0', '0', Nat.digitChar (c.toNat / 16), Nat.digitChar (c.toNat % 16)]
  else [c]

/-- A text as a JSON string. -/
def string (text : Text) : Text := '"' :: text.flatMap stringChar ++ ['"']

/-- The white space of a layout: what follows the colon of a field, and what stands before
each item and before the closing bracket at a depth.
-/
structure Layout where
  afterColon : Text
  newline : Nat → Text

/-- No white space at all. -/
def Layout.compact : Layout := ⟨[], fun _ => []⟩

/-- Every item on a line of its own, two spaces further in for each depth. -/
def Layout.pretty : Layout := ⟨[' '], fun depth => '\n' :: List.replicate (2 * depth) ' '⟩

/-- Items between brackets, at the depth of those brackets; without items the brackets
stand together.
-/
def bracketed (layout : Layout) (depth : Nat) (left right : Char) (items : List Text)
    : Text :=
  if items = [] then [left, right]
  else
    left :: List.intercalate [','] (items.map (layout.newline (depth + 1) ++ ·))
      ++ layout.newline depth ++ [right]

/-- An object with fields in the given order. -/
def object (layout : Layout) (depth : Nat) (fields : List (Text × Text)) : Text :=
  bracketed layout depth '{' '}'
    (fields.map fun (name, value) => string name ++ ':' :: layout.afterColon ++ value)

/-- An array. -/
def array (layout : Layout) (depth : Nat) (items : List Text) : Text :=
  bracketed layout depth '[' ']' items

end KSharp.Json
