import KSharp.Command

/-! The program: arguments, files and standard streams around the commands. -/

namespace KSharp

/-- The content of the file with a name, none if it cannot be read. -/
def contentOf (name : Text) : IO (Option ByteArray) := do
  try
    return some (← IO.FS.readBinFile (String.ofList name))
  catch _ =>
    return none

/-- Writes a text to a stream at once. -/
def write (stream : IO.FS.Stream) (text : Text) : IO Unit := do
  stream.putStr (String.ofList text)
  stream.flush

/-- A session at the prompt, in which each reply is written before the next line is read. -/
partial def interact (stdin stdout stderr : IO.FS.Stream) (prompt : Prompt) : IO Unit := do
  write stdout prompt.question
  let line ← stdin.getLine
  unless line.isEmpty do
    let reply := prompt.respond line.toList
    write stdout reply.output
    write stderr reply.errors
    match reply.prompt with
    | some next => interact stdin stdout stderr next
    | none => return

/-- The file that a command reads, if it reads one. -/
def Command.file? : Command → Option Text
  | .tokens (.file name) _ _ => some name
  | .check name => some name
  | _ => none

/-- Runs a command: a prompt interactively, any other after reading its file. -/
def Command.perform (command : Command) : IO UInt32 := do
  let stdout ← IO.getStdout
  let stderr ← IO.getStderr
  match command with
  | .prompt =>
    write stdout Prompt.banner
    interact (← IO.getStdin) stdout stderr Prompt.start
    return 0
  | _ =>
    let content ← match command.file? with
      | some name => contentOf name
      | none => pure none
    let outcome := command.run (fun _ => content) []
    write stdout outcome.output
    write stderr outcome.errors
    return outcome.exit.toUInt32

end KSharp

def main (args : List String) : IO UInt32 := do
  match KSharp.Command.ofLine? (args.map String.toList) with
  | some command => command.perform
  | none =>
    let outcome := KSharp.Command.misused
    KSharp.write (← IO.getStderr) outcome.errors
    return outcome.exit.toUInt32
