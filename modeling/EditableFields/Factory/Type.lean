import EditableFields.Configuration
import EditableFields.Shape

/-!
# Types of factories

A factory makes fields that edit values of one type. The generated code composes factories of the
runtime library, factories it generates itself, and factories that exist elsewhere.
-/

namespace EditableFields

/-- Type of the values that a member holds. -/
inductive ValueType where
  | plain (type : String)
  | optional (type : String)
deriving DecidableEq, Repr

/-- The value type as generated code spells it. -/
def ValueType.text : ValueType → String
  | plain type => type
  | optional type => "Option<" ++ type ++ ">"

/-- Type of a factory. -/
inductive FactoryType where
  | leaf (kind : Primitive)
  /-- A choice of entries of an enumeration. -/
  | choice (type : String)
  /-- A constant of any type. -/
  | fixed
  /-- Optional values of a type, by a factory for the type. -/
  | optional (inner : FactoryType) (type : String)
  /-- A type that wraps a primitive, by a factory for the primitive. -/
  | transform (inner : FactoryType) (type : String) (kind : Primitive)
  /-- A factory that the caller supplies for a type. -/
  | shared (type : String)
  /-- A factory that exists at a path. -/
  | external (path : String)
  /-- A factory that is generated under a name. -/
  | generated (name : String)
deriving DecidableEq, Repr

/-- The factory type as generated code spells it. -/
def FactoryType.text (c : Configuration) : FactoryType → String
  | leaf kind => c.item kind.leafName
  | choice type => c.item "EnumField" ++ "<" ++ type ++ ">"
  | fixed => c.item "FixedField"
  | optional inner type => c.item "NullableField" ++ "<" ++ inner.text c ++ ", " ++ type ++ ">"
  | transform inner type kind =>
    c.item "TransformField" ++ "<" ++ inner.text c ++ ", " ++ type ++ ", " ++ kind.typeName ++ ">"
  | shared type => c.item "SharedFactory" ++ "<" ++ type ++ ">"
  | external path => path
  | generated name => name

/-- Builds a constructor call, or the pattern of one, from accesses and expressions. -/
def construct (path : String) (style : ConstructorStyle) (parts : List (String × String)) :
    String :=
  match style with
  | .named =>
    path ++ " \x7b " ++ String.intercalate ", " (parts.map fun p => p.1 ++ ": " ++ p.2) ++ " \x7d"
  | .positional => path ++ "(" ++ String.intercalate ", " (parts.map (·.2)) ++ ")"

/-- Builds a tuple. One item needs a comma to be a tuple. -/
def tuple : List String → String
  | [item] => "(" ++ item ++ ",)"
  | items => "(" ++ String.intercalate ", " items ++ ")"

/-- The default value that a type has by its own account. -/
def derivedDefault (type : String) : String :=
  "<" ++ type ++ " as ::core::default::Default>::default()"

end EditableFields
