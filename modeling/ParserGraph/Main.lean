import ParserGraph.CommandLine.Session

/-!
# The command line tool

Reads what a command needs, and prints and writes what it answers.
-/

namespace ParserGraph.CommandLine

/-- The text of a file, or why it cannot be read. -/
def readFile (name : String) : IO (Except FileError String) := do
  try
    return .ok (← IO.FS.readFile name)
  catch error =>
    match error with
    | .noFileOrDirectory _ _ _ => return .error .missing
    | .inappropriateType _ 21 _ => return .error .isDirectory
    | .invalidArgument _ _ _ => return .error .nameTooLong
    | _ => return .error .notDirectory

partial def readLines (stream : IO.FS.Stream) (text : String) : IO String := do
  let line ← stream.getLine
  if line.isEmpty then
    return text
  readLines stream (text ++ line)

def observe (command : Command) : IO Sources := do
  let files ← command.files.mapM fun name => return (name, ← readFile name)
  let stdin ← if command.readsInput then readLines (← IO.getStdin) "" else pure ""
  let read (name : String) : Except FileError String :=
    ((files.find? fun file => file.1 == name).map Prod.snd).getD (.error .missing)
  return { read, stdin }

/-- A response is printed, and its files are written. -/
def deliver (response : Response) : IO UInt32 := do
  for (name, text) in response.written do
    IO.FS.writeFile name text
  IO.print response.output
  IO.eprint response.errors
  return response.status

end ParserGraph.CommandLine

open ParserGraph.CommandLine in
/-- Answers the arguments of the command line. -/
def main (arguments : List String) : IO UInt32 := do
  let sources ←
    match readCommand? arguments with
    | some command => observe command
    | none => pure { read := fun _ => .error .missing, stdin := "" }
  deliver (respond sources arguments)
