import KSharp.Character
import KSharp.Escape

/-! Directives: a parameter is a pipe and a name in parentheses, and its value the text up to
the next pipe.
-/

namespace KSharp.Parameter

/-- The name of the parameter in front of a text, if one stands there: the letters, at least
one of them, between a pipe with a parenthesis and the closing parenthesis.
-/
def name? : Text → Option Text
  | '|' :: '(' :: rest =>
    let name := rest.takeWhile isLetter
    if name ≠ [] ∧ (rest.dropWhile isLetter).head? = some ')' then some name else none
  | _ => none

/-- Whether a parameter stands in front of the text. -/
def starts (text : Text) : Bool := (name? text).isSome

/-- The source text of the parameter with a name. -/
def source (name : Text) : Text := '|' :: '(' :: name ++ [')']

/-- The source text of the value in front of a text, up to the first pipe that no backslash
precedes, and what follows it from that pipe on.
-/
def splitValue : Text → Text × Text
  | [] => ([], [])
  | '\\' :: '|' :: rest =>
    let (raw, after) := splitValue rest
    ('\\' :: '|' :: raw, after)
  | c :: rest =>
    if c = '|' then ([], c :: rest)
    else
      let (raw, after) := splitValue rest
      (c :: raw, after)

end KSharp.Parameter
