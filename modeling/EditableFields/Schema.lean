import EditableFields.Catalog
import EditableFields.Name.Item

/-!
# Schemas

A schema declares types and requests entry points for some of them.
-/

namespace EditableFields

/-- How a generated entry point is exposed. -/
inductive Directive where
  /-- A function of the module, for any type. -/
  | field
  /-- A factory and a function attached to a product or sum. -/
  | factory
deriving DecidableEq, Repr

/-- Request for an entry point for one type. -/
structure Request where
  /-- Qualified name of the subject. -/
  type : String
  /-- Explicit name of the function; without it the name is derived from the subject. -/
  function : Option String
  /-- Whether the label defaults to the function's name. -/
  autoLabel : Bool
  /-- Whether the entry point edits an optional value. -/
  nullable : Bool
  directive : Directive
deriving DecidableEq, Repr

/-- A request with every option at its default. -/
def Request.plain (directive : Directive) (type : String) : Request :=
  ⟨type, none, true, false, directive⟩

/-- Declared types and requests, with the settings that generation starts from. -/
structure Schema where
  package : String
  /-- Path of the runtime library that generated code refers to, where it is not the usual one. -/
  runtime : Option String
  /-- Whether members that cannot be edited are left to the caller. -/
  tolerant : Bool
  /-- Case of derived function names. -/
  nameCase : NameCase
  catalog : Catalog
  /-- Requests in order of declaration. -/
  requests : List Request
deriving Repr

/-- The schema of a package that declares and requests nothing. -/
def Schema.empty (package : String) : Schema :=
  ⟨package, none, false, .snake, .primitives, []⟩

namespace Schema

/-- Declares a type. -/
def addType (s : Schema) (d : Descriptor) : Schema :=
  { s with catalog := s.catalog.add d }

/-- Adds a request at the end. -/
def addRequest (s : Schema) (r : Request) : Schema :=
  { s with requests := s.requests ++ [r] }

end Schema

end EditableFields
