import EditableFields.Build
import EditableFields.CommandLine.Usage
import EditableFields.Survey

/-!
# Runs

What an invocation does: it reads one schema file, and prints a text or writes one file. A failure
is told by its causes, the nearest first.
-/

namespace EditableFields

/-- The causes of a markup fault, an error's own text first. -/
def SchemaFileError.causes (e : SchemaFileError) : List String :=
  match e with
  | file f => [e.message, f.message]
  | document (.markup f) => [e.message, f.message, f.detail]
  | document _ => [e.message]

/-- The causes of an error, its own text first. -/
def CompilationError.causes (e : CompilationError) : List String :=
  match e with
  | schema s => [e.message, s.message]
  | document _ | generation _ => [e.message]

namespace CommandLine

/-- One text for a failure and its causes. -/
def failure (failed : String) (causes : List String) : String :=
  ": ".intercalate (failed :: causes)

/-- What a run gives. -/
inductive Response where
  | printed (text : String)
  | saved (path code : String)
deriving DecidableEq, Repr

/-- The settings that a schema asks for, changed by options. -/
def configuration (s : Schema) (runtime : Option String) (tolerant camelCase noDocs : Bool) :
    Configuration :=
  let c := Configuration.ofSchema s
  let c := { c with tolerant := c.tolerant || tolerant }
  let c := match runtime with
    | some path => c.withRuntime path
    | none => c
  { c with
    nameCase := if camelCase then .lowerCamel else c.nameCase
    docs := c.docs && !noDocs }

/-- One line for each declared type. -/
def classificationReport (s : Schema) : String :=
  String.join ((Survey.report s.catalog s.catalog.declared .fresh).1.map (· ++ "\n"))

namespace Invocation

/-- The path of the schema file. -/
def schemaPath : Invocation → String
  | generate schema .. => schema
  | classify schema => schema

/-- What to give for a schema. -/
def answer (i : Invocation) (s : Schema) : Except String Response :=
  match i with
  | classify _ => .ok (.printed (classificationReport s))
  | generate _ out runtime tolerant camelCase noDocs =>
    match s.generate (configuration s runtime tolerant camelCase noDocs) with
    | .error e =>
      .error (failure ("failed to generate package '" ++ s.package ++ "'") e.causes)
    | .ok code =>
      match out with
      | some path => .ok (.saved path code)
      | none => .ok (.printed code)

/-- What to give when the schema file was read. -/
def respond (i : Invocation) (content : Except FileError String) : Except String Response :=
  match Schema.ofFile content with
  | .error e => .error (failure ("failed to parse " ++ i.schemaPath) e.causes)
  | .ok s => i.answer s

/-- The text for a file that cannot be written. -/
def writeFailure (path : String) (e : FileError) : String :=
  failure ("failed to write " ++ path) [e.message]

/-- Runs an invocation in a folder: what is printed, and the folder afterwards. -/
def run (i : Invocation) (f : Folder) : Except String (String × Folder) :=
  match i.respond (f.read i.schemaPath) with
  | .error text => .error text
  | .ok (.printed text) => .ok (text, f)
  | .ok (.saved path code) =>
    match f.write path code with
    | .ok f => .ok ("", f)
    | .error e => .error (writeFailure path e)

end Invocation

end CommandLine

end EditableFields
