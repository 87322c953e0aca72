import EditableFields.Name

/-!
# Type descriptors

The structural description of the types a schema declares. Descriptors are plain data: what may
be edited, and how, is decided from them elsewhere.
-/

namespace EditableFields

/-- Types every schema knows. -/
inductive Primitive where
  | string
  | int32
  | int64
  | float32
  | float64
  | bool
  | byte
deriving DecidableEq, Repr

namespace Primitive

/-- All primitives, in the order a catalog lists them. -/
def all : List Primitive :=
  [string, int32, int64, float32, float64, bool, byte]

/-- Name of the type in schemas and in generated code. -/
def typeName : Primitive → String
  | string => "String"
  | int32 => "i32"
  | int64 => "i64"
  | float32 => "f32"
  | float64 => "f64"
  | bool => "bool"
  | byte => "u8"

/-- Name of the kind in diagnostics. -/
def kindName : Primitive → String
  | string => "string"
  | int32 => "int32"
  | int64 => "int64"
  | float32 => "float32"
  | float64 => "float64"
  | bool => "bool"
  | byte => "byte"

/-- The primitive with a type name. -/
def ofTypeName? (name : String) : Option Primitive :=
  all.find? (·.typeName == name)

/-- Expression of the generated code for the default value. -/
def defaultExpr : Primitive → String
  | string => "String::new()"
  | int32 | int64 | byte => "0"
  | float32 | float64 => "0.0"
  | bool => "false"

/-- Name of the factory of the primitive's fields in the runtime library. -/
def leafName : Primitive → String
  | string => "StringField"
  | int32 => "I32Field"
  | int64 => "I64Field"
  | float32 => "F32Field"
  | float64 => "F64Field"
  | bool => "BoolField"
  | byte => "U8Field"

end Primitive

/-- A primitive under a name, which may be any. -/
structure NamedPrimitive where
  name : String
  kind : Primitive
deriving DecidableEq, Repr

/-- Name of the kind in diagnostics. -/
def NamedPrimitive.kindName (p : NamedPrimitive) : String :=
  p.kind.kindName

/-- A primitive under its own name. -/
def Primitive.named (kind : Primitive) : NamedPrimitive :=
  ⟨kind.typeName, kind⟩

@[simp] theorem Primitive.name_named (kind : Primitive) : kind.named.name = kind.typeName := rfl

@[simp] theorem Primitive.kind_named (kind : Primitive) : kind.named.kind = kind := rfl

instance : Coe Primitive NamedPrimitive := ⟨Primitive.named⟩

/-- How a product's constructor takes its members. -/
inductive ConstructorStyle where
  /-- By name, in braces. -/
  | named
  /-- By position, in parentheses. -/
  | positional
deriving DecidableEq, Repr

/-- Reads a constructor style from its schema name. -/
def ConstructorStyle.parse? (s : String) : Option ConstructorStyle :=
  if s = "named" then some named
  else if s = "positional" then some positional
  else none

/-- One member of a product. -/
structure Member where
  /-- Name of the member; `0`, `1`, … for positional constructors. -/
  name : String
  /-- Qualified name of the member's type. -/
  type : String
  /-- Whether the member is optional. -/
  nullable : Bool
deriving DecidableEq, Repr

/-- What a product is made of. -/
structure Product where
  /-- Members in constructor order. -/
  members : List Member
  style : ConstructorStyle
  /-- Whether functions can be attached to the type. -/
  companion : Bool
  /-- Whether the product only wraps the value of its one member. -/
  value : Bool
deriving DecidableEq, Repr

/-- Structural description of one type. -/
inductive Descriptor where
  /-- A primitive. Under its own name it is the one that every schema knows. -/
  | primitive (p : NamedPrimitive)
  /-- A choice of named entries. -/
  | enumeration (name : String) (entries : List String)
  /-- A type with one instance: a bare path if `valueless`, else an empty marker. -/
  | singleton (name : String) (valueless : Bool)
  /-- A type with members and a constructor. -/
  | product (name : String) (content : Product)
  /-- A closed choice of variants, each named `Owner::Variant`. -/
  | sum (name : String) (variants : List Descriptor) (companion : Bool)
  /-- A type that cannot be taken apart. -/
  | sealed (name : String)
  /-- A type whose factory exists elsewhere. -/
  | external (name : String) (factory : String)
deriving Repr

namespace Descriptor

/-- Qualified name of the type. -/
def name : Descriptor → String
  | primitive p => p.name
  | enumeration name _ | singleton name _ | product name _ | sum name _ _ | sealed name
  | external name _ => name

/-- Last segment of the qualified name. -/
def simpleName (d : Descriptor) : String :=
  Name.simple d.name

/-- Name of the kind in diagnostics. -/
def kindName : Descriptor → String
  | primitive _ => "primitive"
  | enumeration .. => "enumeration"
  | singleton .. => "singleton"
  | product .. => "product"
  | sum .. => "sum"
  | sealed _ => "opaque"
  | external .. => "external"

/-- Members of a product; no other type has any. -/
def members : Descriptor → List Member
  | product _ content => content.members
  | _ => []

/-- Variants of a sum; no other type has any. -/
def variants : Descriptor → List Descriptor
  | sum _ variants _ => variants
  | _ => []

/-- Sets whether functions can be attached to a product or sum. -/
def withCompanion (companion : Bool) : Descriptor → Descriptor
  | product name content => product name { content with companion }
  | sum name variants _ => sum name variants companion
  | d => d

/-- Sets whether a product is a value wrapper. -/
def withValue (value : Bool) : Descriptor → Descriptor
  | product name content => product name { content with value }
  | d => d

end Descriptor

/-- A product that only wraps one primitive. -/
structure ValueWrapper where
  primitive : Primitive
  /-- Name of the wrapped member. -/
  member : String
  style : ConstructorStyle
deriving DecidableEq, Repr

/-- A value wrapper is a product marked as a value whose one member is a primitive that is not
optional. -/
def Descriptor.valueWrapper? : Descriptor → Option ValueWrapper
  | product _ { members := [member], style, value := true, .. } =>
    if member.nullable then none
    else (Primitive.ofTypeName? member.type).map (⟨·, member.name, style⟩)
  | _ => none

end EditableFields
