import KSharp.Lexer
import KSharp.Token.Display

/-! The interactive prompt, which shows the tokens of each line and obeys a few commands. -/

namespace KSharp

/-- A prompt: the mode in force, and the number of the next expression. The number has 32 bits and
wraps around behind the greatest one.
-/
structure Prompt where
  mode : Mode
  number : Int32
deriving DecidableEq, Repr

namespace Prompt

/-- The answer to a line on the two output streams, and the prompt after it, if the session
goes on.
-/
structure Reply where
  output : Text
  errors : Text
  prompt : Option Prompt
deriving DecidableEq

/-- The prompt at the start of a session. -/
def start : Prompt := ⟨.strict, 1⟩

/-- The greeting of a session. -/
def banner : Text :=
  "K# macro tokenizer\nType ':quit' or ':q' to exit, ':help' for help\n\n".toList

/-- The text that asks for a line, with the number padded to three characters. -/
def question (prompt : Prompt) : Text :=
  "kmacro:".toList ++ Text.zeroPadded 3 prompt.number.toInt ++ "> ".toList

/-- The answer to a request for help. -/
def help : Text :=
  ("REPL commands:\n" ++
    "  :quit, :q    Exit the REPL\n" ++
    "  :help, :h    Show this help message\n" ++
    "  :lenient     Stop silently at lexical errors\n" ++
    "  :strict      Report lexical errors (default)\n" ++
    "\nEnter a macro expression to see its tokens.\n").toList

/-- The commands of a prompt. -/
inductive Command where
  | quit
  | help
  | setMode (mode : Mode)
deriving DecidableEq, Repr

/-- The command that a trimmed line gives, if it gives one. -/
def Command.ofText? (text : Text) : Option Command :=
  if text = ":quit".toList ∨ text = ":q".toList then some .quit
  else if text = ":help".toList ∨ text = ":h".toList then some .help
  else if text = ":lenient".toList then some (.setMode .lenient)
  else if text = ":strict".toList then some (.setMode .strict)
  else none

/-- Tokens by number, from a number on, one a line. -/
def numbered (first : Nat) : List Token → Text
  | [] => []
  | token :: rest =>
    Text.padLeft 4 ' ' (Text.ofNat first) ++ ": ".toList ++ token.displayAt ++ ['\n']
      ++ numbered (first + 1) rest

/-- A lexical error below its line, with a caret under the offset. -/
def renderError (error : LexError) : Text :=
  "error: ".toList ++ error.cause.message ++ "\n  ".toList ++ error.expression ++ "\n  ".toList
    ++ List.replicate error.offset ' ' ++ "^\n".toList

/-- The reply to a command. -/
def obey (prompt : Prompt) : Command → Reply
  | .quit => ⟨"Goodbye!\n".toList, [], none⟩
  | .help => ⟨help, [], some prompt⟩
  | .setMode .lenient =>
    ⟨"info: lenient mode\n".toList, [], some { prompt with mode := .lenient }⟩
  | .setMode .strict => ⟨"info: strict mode\n".toList, [], some { prompt with mode := .strict }⟩

/-- The reply to an expression: its tokens or its error. -/
def evaluate (prompt : Prompt) (expression : Text) : Reply :=
  let next := some { prompt with number := prompt.number + 1 }
  match tokenize prompt.mode expression with
  | .ok tokens => ⟨numbered 0 tokens, [], next⟩
  | .error error => ⟨[], renderError error, next⟩

/-- The reply to a line: to its command, if it gives one, and otherwise to its expression,
unless it is blank. Only expressions are counted.
-/
def respond (prompt : Prompt) (line : Text) : Reply :=
  let expression := Text.trimEnd Text.isLineEnd line
  match Command.ofText? (Text.trim isBlank expression) with
  | some command => prompt.obey command
  | none =>
    if expression.all isBlank then ⟨[], [], some prompt⟩ else prompt.evaluate expression

/-- The outputs of a session over lines, which ends with the lines or at a command to quit; the
question is put once more when no line is left.
-/
def session (prompt : Prompt) : List Text → Text × Text
  | [] => (prompt.question, [])
  | line :: rest =>
    let reply := prompt.respond line
    let (output, errors) :=
      match reply.prompt with
      | some next => session next rest
      | none => ([], [])
    (prompt.question ++ reply.output ++ output, reply.errors ++ errors)

/-- The outputs of a whole session over an input, which is cut into lines after each line
feed.
-/
def transcript (input : Text) : Text × Text :=
  let (output, errors) := session start (Text.pieces input)
  (banner ++ output, errors)

end Prompt

end KSharp
