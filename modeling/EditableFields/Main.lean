import EditableFields.CommandLine.Run

/-! The command line: reads the schema file, and prints or writes what the run gives. -/

namespace EditableFields.CommandLine

/-- A short text for arguments that ask for nothing to be done. -/
def UsageError.text : UsageError → String
  | helpAsked | nothingGiven =>
    "usage: generate --schema FILE [--out FILE] [--tolerate-unsupported] [--runtime PATH]\n" ++
      "         [--camel-case] [--no-docs]\n" ++
      "       classify --schema FILE"
  | versionAsked => "fieldforge 0.1.0"
  | unknownSubcommand => "error: unrecognized subcommand"
  | unknownArgument => "error: unexpected argument"
  | valueNeeded => "error: an option needs a value"
  | valueNotTaken => "error: an option takes no value"
  | optionTwice => "error: an option is given more than once"
  | schemaNeeded => "error: the option --schema is required"

/-- Whether what was asked for is done by showing a text. -/
def UsageError.isAnswer : UsageError → Bool
  | helpAsked | versionAsked => true
  | _ => false

/-- The cause of a failed file operation. -/
def fileError : IO.Error → FileError
  | .noFileOrDirectory .. => .missing
  | e => .other (toString e)

/-- Reads a file. -/
def readFile (path : String) : IO (Except FileError String) := do
  try
    return .ok (← IO.FS.readFile path)
  catch e =>
    return .error (fileError e)

/-- Does what an invocation asks for. -/
def perform (i : Invocation) : IO UInt32 := do
  match i.respond (← readFile i.schemaPath) with
  | .error text =>
    IO.eprintln ("Error: " ++ text)
    return 1
  | .ok (.printed text) =>
    IO.print text
    return 0
  | .ok (.saved path code) =>
    try
      IO.FS.writeFile path code
      return 0
    catch e =>
      IO.eprintln ("Error: " ++ Invocation.writeFailure path (fileError e))
      return 1

end EditableFields.CommandLine

open EditableFields.CommandLine in
/-- Runs the program with its arguments. -/
def main (args : List String) : IO UInt32 := do
  match Invocation.ofArguments args with
  | .ok i => perform i
  | .error e =>
    if e.isAnswer then
      IO.println e.text
      return 0
    else
      IO.eprintln e.text
      return 2
