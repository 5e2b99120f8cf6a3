import KSharp.Escape
import KSharp.Prompt
import KSharp.Quoted
import KSharp.Snippet
import KSharp.Token.Json

/-! The command line: its arguments, and what each command prints. -/

namespace KSharp

/-- The form in which tokens are printed. -/
inductive Format where
  | text
  | json
deriving DecidableEq, Repr

/-- Where the expression of a command comes from. -/
inductive Input where
  | expression (text : Text)
  | file (name : Text)
  | missing
deriving DecidableEq, Repr

/-- A command with its arguments. -/
inductive Command where
  | tokens (input : Input) (mode : Mode) (format : Format)
  | check (file : Text)
  | escape (text : Text)
  | unescape (text : Text)
  | prompt
deriving DecidableEq, Repr

namespace Command

-----------------------------------------------------------------------------------------
-- Arguments
-----------------------------------------------------------------------------------------

/-- The arguments of a command line sorted out: what stands by position, and the options. -/
structure Arguments where
  positional : List Text
  file : Option Text
  format : Option Text
  lenient : Bool

/-- The rest of a text behind a front, if it starts with it. -/
def stripFront? : Text → Text → Option Text
  | [], text => some text
  | _ :: _, [] => none
  | a :: front, b :: text => if a = b then stripFront? front text else none

/-- Whether the argument is an option rather than a text. -/
def isOption : Text → Bool
  | '-' :: _ :: _ => true
  | _ => false

/-- The arguments sorted out, if all options are known and have their values. Behind two
dashes all arguments count by position.
-/
def gather : List Text → Option Arguments
  | [] => some ⟨[], none, none, false⟩
  | arg :: rest =>
    if arg = "--".toList then some ⟨rest, none, none, false⟩
    else if arg = "-v".toList ∨ arg = "--verbose".toList then gather rest
    else if arg = "--lenient".toList then
      (gather rest).map fun found => { found with lenient := true }
    else if arg = "-f".toList ∨ arg = "--file".toList then
      match rest with
      | [] => none
      | name :: more => (gather more).map fun found => { found with file := some name }
    else if arg = "--format".toList then
      match rest with
      | [] => none
      | name :: more => (gather more).map fun found => { found with format := some name }
    else
      match stripFront? "--file=".toList arg, stripFront? "--format=".toList arg with
      | some name, _ => (gather rest).map fun found => { found with file := some name }
      | none, some name => (gather rest).map fun found => { found with format := some name }
      | none, none =>
        if isOption arg then none
        else
          (gather rest).map fun found =>
            { found with positional := arg :: found.positional }

/-- The format with a name; without one, tokens are printed as text. -/
def formatOf? : Option Text → Option Format
  | none => some .text
  | some name =>
    if name = "text".toList then some .text
    else if name = "json".toList then some .json
    else none

/-- The input that an expression and a file name give, if they are not both there. -/
def inputOf? : List Text → Option Text → Option Input
  | [], none => some .missing
  | [], some name => some (.file name)
  | [text], none => some (.expression text)
  | _, _ => none

/-- The command that sorted arguments give, if they give one. Options belong to the command
that prints tokens alone.
-/
def ofArguments? (arguments : Arguments) : Option Command :=
  match arguments.positional with
  | [] => none
  | name :: operands =>
    if name = "tokens".toList then do
      let input ← inputOf? operands arguments.file
      let format ← formatOf? arguments.format
      return .tokens input (if arguments.lenient then .lenient else .strict) format
    else if arguments.file.isSome || arguments.format.isSome || arguments.lenient then none
    else
      match operands with
      | [] => if name = "repl".toList then some .prompt else none
      | [operand] =>
        if name = "check".toList then some (.check operand)
        else if name = "escape".toList then some (.escape operand)
        else if name = "unescape".toList then some (.unescape operand)
        else none
      | _ => none

/-- The command that a command line gives, if it gives one. -/
def ofLine? (line : List Text) : Option Command := gather line >>= ofArguments?

-----------------------------------------------------------------------------------------
-- Outcomes
-----------------------------------------------------------------------------------------

/-- What a command leaves: an exit code and the texts on the two output streams. -/
structure Outcome where
  exit : Nat
  output : Text
  errors : Text
deriving DecidableEq

/-- The success that prints a text as a line. -/
def printed (line : Text) : Outcome := ⟨0, line ++ ['\n'], []⟩

/-- The failure that prints a reason behind what was reported before. -/
def failed (reported reason : Text) : Outcome :=
  ⟨1, [], reported ++ "error: ".toList ++ reason ++ ['\n']⟩

/-- The contents of files by name, none where there is no file. -/
abbrev Files := Text → Option ByteArray

/-- Goes on with the source in a file, unless it cannot be read. -/
def withFile (files : Files) (name : Text) (next : Source → Outcome) : Outcome :=
  match Source.ofContent name (files name) with
  | .ok source => next source
  | .error _ => failed [] ("Failed to read source file: ".toList ++ Quoted.text name)

/-- Tokens in a format, as lines. Without tokens, the text format has no line. -/
def printTokens (found : List Token) : Format → Outcome
  | .text => if found = [] then ⟨0, [], []⟩ else printed (Token.displayLines found)
  | .json => printed (Token.jsonList .pretty found)

/-- The tokens of a whole source, or its first error. -/
def runTokens (mode : Mode) (format : Format) (source : Source) : Outcome :=
  match tokenize mode source.text with
  | .ok found => printTokens found format
  | .error error =>
    let log := ErrorLog.empty.add ⟨.lexical error, Source.fileId, 0⟩
    failed (Snippet.renderLog source log) "Lexical analysis failed".toList

/-- The check of each line of a source, with its errors. -/
def runCheck (source : Source) : Outcome :=
  let result := source.checkLines
  let checked := Text.ofNat result.checked
  if result.log.hasErrors then
    failed (Snippet.renderLog source result.log)
      (Text.ofNat result.log.count ++ " of ".toList ++ checked
        ++ " expressions failed lexical analysis".toList)
  else printed ("success: ".toList ++ checked ++ " expressions, no errors found".toList)

/-- What a command leaves, given the files and the text on the standard input. -/
def run (files : Files) (input : Text) : Command → Outcome
  | .tokens (.expression text) mode format => runTokens mode format ⟨"<expression>".toList, text⟩
  | .tokens (.file name) mode format => withFile files name (runTokens mode format)
  | .tokens .missing _ _ => failed [] "Provide an expression or --file".toList
  | .check name => withFile files name runCheck
  | .escape text => printed (Escape.escape text)
  | .unescape text => printed (Escape.unescape text)
  | .prompt =>
    let (output, errors) := Prompt.transcript input
    ⟨0, output, errors⟩

/-- What a command line that gives no command leaves. -/
def misused : Outcome :=
  ⟨2, [], ("error: no such command line\n\n" ++
    "Usage: kmacro [-v] <COMMAND>\n\n" ++
    "Commands:\n" ++
    "  tokens [EXPRESSION] [--file FILE] [--lenient] [--format text|json]\n" ++
    "  check FILE\n" ++
    "  escape TEXT\n" ++
    "  unescape TEXT\n" ++
    "  repl\n").toList⟩

end Command

end KSharp
