import EditableFields.Schema

/-!
# Configurations

The settings of one generation. A schema seeds them by the attributes of its root; each may be set
anew afterwards.
-/

namespace EditableFields

/-- Settings of one generation. -/
structure Configuration where
  /-- Path of the runtime library that generated code refers to, without separators at its end. -/
  runtime : String
  /-- Whether members that cannot be edited are left to the caller. -/
  tolerant : Bool
  /-- Case of derived function names. -/
  nameCase : NameCase
  /-- Whether generated items are documented. -/
  docs : Bool
deriving DecidableEq, Repr

namespace Configuration

/-- The settings that hold where nothing else is said. -/
def standard : Configuration :=
  ⟨"::fieldforge_core", false, .snake, true⟩

/-- Drops the `::` that a reversed path begins with, as often as it does. -/
def dropSeparators : List Char → List Char
  | ':' :: ':' :: cs => dropSeparators cs
  | cs => cs

/-- Sets the path of the runtime library. -/
def withRuntime (c : Configuration) (path : String) : Configuration :=
  { c with runtime := String.ofList (dropSeparators path.toList.reverse).reverse }

/-- The settings that a schema asks for. -/
def ofSchema (s : Schema) : Configuration :=
  let c := { standard with tolerant := s.tolerant, nameCase := s.nameCase }
  match s.runtime with
  | some path => c.withRuntime path
  | none => c

/-- The path of an item of the runtime library. -/
def item (c : Configuration) (name : String) : String :=
  c.runtime ++ "::" ++ name

end Configuration

end EditableFields
