import EditableFields.Shape

/-!
# Classifications

A classification says how a type is edited, all it refers to included. It is a finite tree: a
product holds the classifications of its members' types, a sum those of its variants.
-/

namespace EditableFields

/-- A member of a product with what its type was found to be. -/
structure ResolvedMember (κ : Type) where
  name : String
  /-- Qualified name of the declared type. -/
  type : String
  nullable : Bool
  /-- The wrapper that the member's type is, if it only wraps a primitive. -/
  wrapper : Option ValueWrapper
  /-- Classification of the type; for a value wrapper, of the wrapped primitive. -/
  classification : κ
deriving Repr

/-- A variant of a sum with what it was found to be. -/
structure ResolvedVariant (κ : Type) where
  /-- Last segment of the qualified name. -/
  name : String
  /-- Qualified name, `Owner::Variant`. -/
  type : String
  classification : κ
deriving Repr

/-- How a type is edited. -/
inductive Classification where
  | primitive (kind : Primitive)
  /-- A choice of entries, in order of declaration. -/
  | enumeration (entries : List String)
  /-- A constant: a bare path if `valueless`, else an empty marker. -/
  | singleton (valueless : Bool)
  | product (style : ConstructorStyle) (members : List (ResolvedMember Classification))
  | sum (variants : List (ResolvedVariant Classification))
  /-- A type with a factory of its own at a path. -/
  | external (factory : String)
  | unsupported (reason : Refusal)
deriving Repr

instance : Inhabited Classification := ⟨.singleton true⟩

namespace Classification

/-- Name of the classification in diagnostics. -/
def kindName : Classification → String
  | primitive _ => "primitive"
  | enumeration _ => "enum"
  | singleton _ => "singleton"
  | product .. => "product"
  | sum _ => "sum"
  | external _ => "external"
  | unsupported _ => "unsupported"

/-- Whether the type can be edited. -/
def isSupported : Classification → Bool
  | unsupported _ => false
  | _ => true

/-- A member in the text of a product: its name and kind, and a mark if it is optional. -/
def memberText (m : ResolvedMember Classification) : String :=
  m.name ++ ": " ++ m.classification.kindName ++ if m.nullable then "?" else ""

/-- One line about a classification. -/
def text : Classification → String
  | primitive kind => "primitive(" ++ kind.kindName ++ ")"
  | enumeration entries => "enum[" ++ String.intercalate ", " entries ++ "]"
  | singleton true => "singleton"
  | singleton false => "singleton(marker)"
  | product _ members => "product(" ++ String.intercalate ", " (members.map memberText) ++ ")"
  | sum variants => "sum[" ++ String.intercalate " | " (variants.map (·.name)) ++ "]"
  | external factory => "external(" ++ factory ++ ")"
  | unsupported reason => "unsupported: " ++ reason.message

end Classification

end EditableFields
