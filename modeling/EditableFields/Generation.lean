import EditableFields.Factory.Source
import EditableFields.Schema.Document
import EditableFields.Schema.Validity

/-!
# Generation

Generated code for the requests of a catalog, of a schema, and of a schema document.
-/

namespace EditableFields

/-- Generates the factories and entry points of requests. The requests are not checked as a schema
is; the first that fails is reported. -/
def Catalog.generate (catalog : Catalog) (c : Configuration) (requests : List Request) :
    Except GenerationError String := do
  let s ← Planning.planRequests c catalog requests .fresh
  return s.source c

/-- Why a schema or document yields no code. -/
inductive CompilationError where
  | document (e : DocumentError)
  | schema (e : SchemaError)
  | generation (e : GenerationError)
deriving DecidableEq, Repr

def CompilationError.message : CompilationError → String
  | document e => "schema parse error: " ++ e.message
  | schema e => "schema error: " ++ e.message
  | generation e => e.message

/-- Checks a schema and generates all that it requests. -/
def Schema.generate (s : Schema) (c : Configuration) : Except CompilationError String :=
  match s.check with
  | .error e => .error (.schema e)
  | .ok () => (s.catalog.generate c s.requests).mapError .generation

/-- Reads a schema document and generates all that it requests, with the settings it asks for. -/
def compileDocument (document : String) : Except CompilationError String :=
  match Schema.parse document with
  | .error e => .error (.document e)
  | .ok s => s.generate (.ofSchema s)

end EditableFields
