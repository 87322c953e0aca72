import EditableFields.Descriptor

/-!
# Catalogs

A catalog is an ordered collection of descriptors that is indexed by name. The primitives are
always in it. A later descriptor hides an earlier one of the same name from look-ups, and both
stay in the list of what was declared.
-/

namespace EditableFields

/-- Descriptors in order of addition, primitives first, and where each name is found. -/
structure Catalog where
  types : List Descriptor
  /-- Positions in `types` by name, the latest first. -/
  index : List (String × Nat)
deriving Repr

namespace Catalog

/-- The catalog without any type. -/
def bare : Catalog := ⟨[], []⟩

/-- Adds a descriptor at the end. From now on its name means this descriptor. -/
def add (c : Catalog) (d : Descriptor) : Catalog :=
  ⟨c.types ++ [d], (d.name, c.types.length) :: c.index⟩

/-- Adds descriptors in order. -/
def addAll (c : Catalog) (ds : List Descriptor) : Catalog :=
  ds.foldl add c

/-- The catalog that holds the primitives only, each under its own name. -/
def primitives : Catalog :=
  bare.addAll (Primitive.all.map fun kind => .primitive kind.named)

/-- The catalog of the primitives and the given types. -/
def ofList (ds : List Descriptor) : Catalog :=
  primitives.addAll ds

/-- The descriptor that a name means. -/
def get? (c : Catalog) (name : String) : Option Descriptor :=
  (c.index.lookup name).bind (c.types[·]?)

/-- Whether a name means some descriptor. -/
def has (c : Catalog) (name : String) : Bool :=
  (c.index.lookup name).isSome

/-- The types added to the primitives, in order of addition. -/
def declared (c : Catalog) : List Descriptor :=
  c.types.drop Primitive.all.length

end Catalog

end EditableFields
