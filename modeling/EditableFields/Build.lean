import EditableFields.Folder
import EditableFields.Generation

/-!
# Builds

Schemas in files, and the code of a schema file, on its own or in a file that a build writes.
-/

namespace EditableFields

/-- Why no schema is in a file. -/
inductive SchemaFileError where
  | file (e : FileError)
  | document (e : DocumentError)
deriving DecidableEq, Repr

def SchemaFileError.message : SchemaFileError → String
  | file e => "IO error: " ++ e.message
  | document e => e.message

/-- The schema in a file that was read. -/
def Schema.ofFile (content : Except FileError String) : Except SchemaFileError Schema :=
  match content with
  | .error e => .error (.file e)
  | .ok document => (Schema.parse document).mapError .document

/-- Why a schema file yields no code. -/
inductive BuildError where
  | file (e : FileError)
  | compilation (e : CompilationError)
  /-- No directory for output is set. -/
  | noOutput
deriving DecidableEq, Repr

def BuildError.message : BuildError → String
  | file e => "IO error: " ++ e.message
  | compilation e => e.message
  | noOutput => "generation error: OUT_DIR is not set, run from a build script"

/-- What a build does. -/
structure Build where
  /-- The path of the written file. -/
  target : String
  folder : Folder
  /-- What the build system is told. -/
  announcement : String
deriving Repr

namespace Folder

/-- Reads the schema in a file. -/
def schema (f : Folder) (path : String) : Except SchemaFileError Schema :=
  Schema.ofFile (f.read path)

/-- Generates the code of a schema file. -/
def generate (f : Folder) (path : String) : Except BuildError String :=
  match f.read path with
  | .error e => .error (.file e)
  | .ok document => (compileDocument document).mapError .compilation

/-- Writes the code of a schema file to the file `name` of a directory. -/
def compile (f : Folder) (path directory name : String) : Except BuildError Build :=
  match f.generate path with
  | .error e => .error e
  | .ok code =>
    let target := joinPath directory name
    match f.write target code with
    | .error e => .error (.file e)
    | .ok folder => .ok ⟨target, folder, ""⟩

/-- Writes the code of a schema file to the directory that the build system sets, and has it run
again when the schema changes. -/
def build (f : Folder) (path : String) (directory : Option String) (name : String) :
    Except BuildError Build :=
  match directory with
  | none => .error .noOutput
  | some directory =>
    (f.compile path directory name).map fun b =>
      { b with announcement := "cargo:rerun-if-changed=" ++ path ++ "\n" }

end Folder

end EditableFields
