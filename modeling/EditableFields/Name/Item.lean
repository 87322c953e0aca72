import EditableFields.Name

/-!
# Names of generated items

Every identifier of the generated code is derived here, from names of types and members alone, so
equal input gives equal names.
-/

namespace EditableFields

/-- Case of derived function names. -/
inductive NameCase where
  /-- As in `basic_data`. -/
  | snake
  /-- As in `basicData`. -/
  | lowerCamel
deriving DecidableEq, Repr, Inhabited

namespace NameCase

/-- Converts a name to the case. -/
def apply : NameCase → String → String
  | snake => Name.snake
  | lowerCamel => Name.lowerCamel

/-- Reads a case from its configuration name. -/
def parse? (s : String) : Option NameCase :=
  if s = "snake" || s = "snake_case" then some snake
  else if s = "camel" || s = "lowerCamel" || s = "lowerCamelCase" then some lowerCamel
  else none

end NameCase

/-- Function name and default label of one entry point. -/
structure EntryName where
  /-- Identifier of the generated function, escaped. -/
  function : String
  /-- Label used when the caller passes none; without it the label is required. -/
  label : Option String
deriving DecidableEq, Repr

/-- Names an entry point for a type: an explicit name is used as it is, any other is derived from
the last segment of the type's path. The label is the name before it is escaped. -/
def NameCase.entryName (case : NameCase) (type : String) (explicit : Option String)
    (autoLabel : Bool) : EntryName :=
  let name := explicit.getD (case.apply (Name.simple type))
  ⟨Name.escape name, if autoLabel then some name else none⟩

namespace Name

/-- Name of the factory of a type: `Point` has `PointFieldFactory`. -/
def factoryType (type : String) : String :=
  pascal (simple type) ++ "FieldFactory"

/-- Name of the factory of a product variant: `Circle` of `Shape` has `ShapeCircleFieldFactory`. -/
def variantFactoryType (sum variant : String) : String :=
  pascal (simple sum) ++ pascal (simple variant) ++ "FieldFactory"

/-- What names derived from a member begin with; a positional member has `item_` and its number. -/
def memberStem (member : String) : String :=
  if member.toList.head?.any Char.isDigit then "item_" ++ member else snake member

/-- Name of the accessor of a member. -/
def accessor (member : String) : String :=
  memberStem member ++ "_field"

/-- Name of the factory field that holds the caller's factory for a member. -/
def obligation (member : String) : String :=
  memberStem member ++ "_factory"

/-- Name that the member at `index` is bound to inside generated closures. -/
def binding (index : Nat) : String :=
  "m" ++ toString index

end Name

end EditableFields
