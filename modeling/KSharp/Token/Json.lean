import KSharp.Binary64.Layout
import KSharp.Json
import KSharp.Token

/-! Tokens as JSON objects. -/

namespace KSharp

/-- A value as JSON. Its type is not recorded: a text is a string, a truth a truth, and a
double differs from an integer by its point or exponent.
-/
def Value.json : Value → Text
  | .text t => Json.string t
  | .integer n => Text.ofInt n
  | .double x => x.json
  | .boolean true => "true".toList
  | .boolean false => "false".toList

namespace Token

/-- A token as a JSON object of its kind, source text, value and offset. -/
def json (layout : Json.Layout) (depth : Nat) (token : Token) : Text :=
  Json.object layout depth [
    ("kind".toList, Json.string token.kind.name),
    ("raw".toList, Json.string token.raw),
    ("value".toList, token.value.json),
    ("offset".toList, Text.ofNat token.offset)
  ]

/-- Tokens as a JSON array. -/
def jsonList (layout : Json.Layout) (tokens : List Token) : Text :=
  Json.array layout 0 (tokens.map (json layout 1))

end Token

end KSharp
