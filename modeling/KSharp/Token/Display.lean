import KSharp.Binary64.Layout
import KSharp.Token

/-! The readable form of tokens, one a line. -/

namespace KSharp

/-- The readable form of a value: a text as it is, numbers in decimal, truths by name. -/
def Value.display : Value → Text
  | .text t => t
  | .integer n => Text.ofInt n
  | .double x => x.display
  | .boolean true => "true".toList
  | .boolean false => "false".toList

namespace Token

/-- What is shown of a token behind its kind: the quoted value of a string or parameter value, the
value of a number or boolean, and otherwise the source text.
-/
def shown (token : Token) : Text :=
  match token.kind with
  | .string | .parameterValue => '"' :: token.value.display ++ ['"']
  | .integer | .double | .boolean => token.value.display
  | _ => token.raw

/-- The readable form of a token: its kind with what is shown of it in parentheses. -/
def display (token : Token) : Text := token.kind.name ++ '(' :: token.shown ++ [')']

/-- The readable form of a token with its offset. -/
def displayAt (token : Token) : Text := token.display ++ " @ ".toList ++ Text.ofNat token.offset

/-- The readable forms of tokens with their offsets, one a line. -/
def displayLines (tokens : List Token) : Text :=
  List.intercalate ['\n'] (tokens.map displayAt)

end Token

end KSharp
