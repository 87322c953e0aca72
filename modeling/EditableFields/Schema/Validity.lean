import EditableFields.Schema

/-!
# Validity of schemas

A schema is refused if it is malformed as data: a name twice in one type, a positional member
with the wrong number, a request for a type that is not declared. A type that is well formed but
cannot be edited is not refused here. The check reports the first fault in order of declaration.
-/

namespace EditableFields

/-- What a type may have two of by one name. -/
inductive Part where
  | entry
  | member
  | variant
deriving DecidableEq, Repr

/-- Name of the part in diagnostics. -/
def Part.name : Part → String
  | entry => "entry"
  | member => "member"
  | variant => "variant"

/-- Why a schema is not valid. -/
inductive SchemaError where
  | typeNotFound (name : String)
  | duplicate (part : Part) (owner name : String)
  | emptyTypeName
  | misnumbered (member owner : String) (index : Nat)
  | emptyFactory (type : String)
  | notIdentifier (function type : String)
deriving DecidableEq, Repr

namespace SchemaError

def message : SchemaError → String
  | typeNotFound name => "type '" ++ name ++ "' not found"
  | duplicate part owner name =>
    "duplicate " ++ part.name ++ " '" ++ name ++ "' in type '" ++ owner ++ "'"
  | emptyTypeName => "validation error: type with empty name"
  | misnumbered member owner index =>
    "validation error: positional member '" ++ member ++ "' of '" ++ owner ++
      "' must be named '" ++ toString index ++ "'"
  | emptyFactory type =>
    "validation error: external type '" ++ type ++ "' has an empty factory path"
  | notIdentifier function type =>
    "validation error: function name '" ++ function ++ "' for type '" ++ type ++
      "' is not a valid identifier"

end SchemaError

/-- The first entry that occurs a second time, with `seen` before the list. -/
def firstRepeated (seen : List String) : List String → Option String
  | [] => none
  | x :: xs => if seen.contains x then some x else firstRepeated (x :: seen) xs

/-- Checks the members of a product from position `index` on. -/
def checkMembers (owner : String) (style : ConstructorStyle) (seen : List String) (index : Nat) :
    List Member → Except SchemaError Unit
  | [] => .ok ()
  | m :: ms =>
    if seen.contains m.name then .error (.duplicate .member owner m.name)
    else if style = .positional && m.name != toString index then
      .error (.misnumbered m.name owner index)
    else checkMembers owner style (m.name :: seen) (index + 1) ms

mutual

/-- Checks one type, and the variants of a sum with it. -/
def Descriptor.check (d : Descriptor) : Except SchemaError Unit :=
  if d.name = "" then .error .emptyTypeName
  else match d with
  | .enumeration name entries =>
    match firstRepeated [] entries with
    | some entry => .error (.duplicate .entry name entry)
    | none => .ok ()
  | .product name content => checkMembers name content.style [] 0 content.members
  | .sum name variants _ => checkVariants name [] variants
  | .external name factory => if factory = "" then .error (.emptyFactory name) else .ok ()
  | .primitive _ | .singleton .. | .sealed _ => .ok ()

/-- Checks the variants of a sum in order, each against the names before it. -/
def checkVariants (owner : String) (seen : List String) :
    List Descriptor → Except SchemaError Unit
  | [] => .ok ()
  | v :: vs =>
    if seen.contains v.name then .error (.duplicate .variant owner v.simpleName)
    else match v.check with
      | .error e => .error e
      | .ok () => checkVariants owner (v.name :: seen) vs

end

/-- Checks types in order. -/
def checkTypes : List Descriptor → Except SchemaError Unit
  | [] => .ok ()
  | d :: ds =>
    match d.check with
    | .error e => .error e
    | .ok () => checkTypes ds

/-- Whether `s` can be a function's name: a letter or underscore, then letters, digits and
underscores. Keywords count as identifiers here, since they are escaped later. -/
def isIdentifier (s : String) : Bool :=
  match s.toList with
  | [] => false
  | c :: rest =>
    (Text.isAlphabetic c || c = '_') && rest.all fun c => Text.isAlphanumeric c || c = '_'

/-- Checks that requests name types of the catalog, and functions by identifiers. -/
def checkRequests (catalog : Catalog) : List Request → Except SchemaError Unit
  | [] => .ok ()
  | r :: rs =>
    if !catalog.has r.type then .error (.typeNotFound r.type)
    else match r.function with
      | some f =>
        if isIdentifier f then checkRequests catalog rs
        else .error (.notIdentifier f r.type)
      | none => checkRequests catalog rs

/-- Checks a schema: its declared types, then its requests. -/
def Schema.check (s : Schema) : Except SchemaError Unit :=
  match checkTypes s.catalog.declared with
  | .error e => .error e
  | .ok () => checkRequests s.catalog s.requests

end EditableFields
