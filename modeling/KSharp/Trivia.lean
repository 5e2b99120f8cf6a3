import KSharp.Character

/-! Trivia, the text between tokens: blanks, line comments and block comments. -/

namespace KSharp.Trivia

/-- Where a scan through trivia stands: outside all comments, in one that a line end closes, or
in one that an asterisk and a slash close.
-/
inductive Region where
  | between
  | line
  | block
deriving DecidableEq

/-- The longest trivia in front of a text, from a region on, and what follows it. A comment
that is never closed takes the rest of the text.
-/
def split : Region → Text → Text × Text
  | _, [] => ([], [])
  | .between, '/' :: '/' :: rest =>
    let (trivia, after) := split .line rest
    ('/' :: '/' :: trivia, after)
  | .between, '/' :: '*' :: rest =>
    let (trivia, after) := split .block rest
    ('/' :: '*' :: trivia, after)
  | .between, c :: rest =>
    if isBlank c then
      let (trivia, after) := split .between rest
      (c :: trivia, after)
    else ([], c :: rest)
  | .line, c :: rest =>
    let (trivia, after) := split (if Text.isLineEnd c then .between else .line) rest
    (c :: trivia, after)
  | .block, '*' :: '/' :: rest =>
    let (trivia, after) := split .between rest
    ('*' :: '/' :: trivia, after)
  | .block, c :: rest =>
    let (trivia, after) := split .block rest
    (c :: trivia, after)

end KSharp.Trivia
