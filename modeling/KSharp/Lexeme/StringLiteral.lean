import KSharp.Escape
import KSharp.Lexeme.Basic

/-! String literals: quoted ones with escapes, and verbatim ones with doubled quotes. -/

namespace KSharp.Lexeme

/-- The body of a quoted literal, from behind its opening quote up to its closing one, if
there is one. A backslash takes the character after it along.
-/
def quotedBody? : Text → Option Text
  | [] => none
  | '\\' :: c :: rest => (quotedBody? rest).map ('\\' :: c :: ·)
  | c :: rest => if c = '"' then some [] else (quotedBody? rest).map (c :: ·)

/-- The lexeme of the quoted literal whose opening quote stands before the text. Where the
closing quote is missing, the lenient mode takes the whole text as the body.
-/
def readQuoted (mode : Mode) (rest : Text) : Lexeme :=
  match quotedBody? rest, mode with
  | some body, _ => .found .string ('"' :: body ++ ['"']) (.text (Escape.unescape body))
  | none, .strict => .rejected .unterminatedString
  | none, .lenient => .found .string ('"' :: rest) (.text (Escape.unescape rest))

/-- The body of a verbatim literal, from behind its opening quote up to the first quote that
is not one of two, if there is one.
-/
def verbatimBody? : Text → Option Text
  | [] => none
  | '"' :: '"' :: rest => (verbatimBody? rest).map ('"' :: '"' :: ·)
  | c :: rest => if c = '"' then some [] else (verbatimBody? rest).map (c :: ·)

/-- The lexeme of the verbatim literal whose at sign and opening quote stand before the text;
without a closing quote it is rejected in either mode.
-/
def readVerbatim (rest : Text) : Lexeme :=
  match verbatimBody? rest with
  | some body =>
    .found .string ('@' :: '"' :: body ++ ['"']) (.text (Escape.unescapeVerbatim body))
  | none => .rejected .unterminatedString

end KSharp.Lexeme
