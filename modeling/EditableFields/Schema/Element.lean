import EditableFields.Markup.Event
import EditableFields.Schema

/-!
# Elements of schema documents

What each element of a schema document says by its attributes. The attributes of a tag are read in
order, so the first one with an invalid value is the one reported; what is missing is reported
after that. Attributes of other names are passed over.
-/

namespace EditableFields

/-- Why a document is not a schema. -/
inductive DocumentError where
  | markup (f : Markup.Fault)
  | missingAttribute (element key : String)
  | invalidAttribute (element key value : String)
  | unknownElement (element context : String)
  | duplicateType (name : String)
  | duplicateVariant (name : String)
  | outsideRoot (element : String)
  | noRoot
deriving DecidableEq, Repr

def DocumentError.message : DocumentError → String
  | markup f => "XML parsing error: " ++ f.message
  | missingAttribute element key =>
    "missing required attribute '" ++ key ++ "' on element '" ++ element ++ "'"
  | invalidAttribute element key value =>
    "invalid value '" ++ value ++ "' for attribute '" ++ key ++ "' on element '" ++
      element ++ "'"
  | unknownElement element context =>
    "unknown element '" ++ element ++ "' in context '" ++ context ++ "'"
  | duplicateType name => "duplicate type definition: '" ++ name ++ "'"
  | duplicateVariant name => "duplicate variant definition: '" ++ name ++ "'"
  | outsideRoot element =>
    "invalid schema structure: element '" ++ element ++ "' appears outside fieldSchema"
  | noRoot => "invalid schema structure: No fieldSchema element found"

namespace Element

open Markup (Tag Attribute)

/-- Reads a truth value. -/
def truth (element : String) (a : Attribute) : Except DocumentError Bool :=
  if a.value = "true" then .ok true
  else if a.value = "false" then .ok false
  else .error (.invalidAttribute element a.key a.value)

/-- Reads a value by a parser of its own. -/
def valueBy (parse? : String → Option α) (element : String) (a : Attribute) :
    Except DocumentError α :=
  match parse? a.value with
  | some v => .ok v
  | none => .error (.invalidAttribute element a.key a.value)

/-- What an element needs by an attribute. -/
def require (element key : String) : Option α → Except DocumentError α
  | some v => .ok v
  | none => .error (.missingAttribute element key)

/-- The name of a type: inside a sum, after the sum's own name. -/
def qualify (owner : Option String) (name : String) : String :=
  match owner with
  | some owner => owner ++ "::" ++ name
  | none => name

/-- Takes an attribute of the root. -/
def setRoot (s : Schema) (a : Attribute) : Except DocumentError Schema :=
  match a.key with
  | "package" => .ok { s with package := a.value }
  | "runtime" => .ok { s with runtime := some a.value }
  | "tolerateUnsupported" => do return { s with tolerant := ← truth "fieldSchema" a }
  | "nameCase" => do return { s with nameCase := ← valueBy NameCase.parse? "fieldSchema" a }
  | _ => .ok s

/-- The schema that a root starts, with nothing declared yet. -/
def root (tag : Tag) : Except DocumentError Schema :=
  tag.attributes.foldlM setRoot (.empty "")

/-- What the attributes of a type may say. -/
structure TypeSettings where
  name : Option String := none
  valueless : Bool := true
  factory : Option String := none
  style : ConstructorStyle := .named
  companion : Bool := true
  value : Bool := false
deriving Repr

/-- Takes an attribute of a type without parts. -/
def setSimple (element : String) (s : TypeSettings) (a : Attribute) :
    Except DocumentError TypeSettings :=
  match a.key with
  | "name" => .ok { s with name := some a.value }
  | "valueless" => do return { s with valueless := ← truth element a }
  | "factory" => .ok { s with factory := some a.value }
  | _ => .ok s

/-- A type without parts: a singleton, an external type, or a sealed one. -/
def simple (owner : Option String) (tag : Tag) : Except DocumentError Descriptor := do
  let s ← tag.attributes.foldlM (setSimple tag.name) {}
  let name := qualify owner (← require tag.name "name" s.name)
  match tag.name with
  | "singleton" => return .singleton name s.valueless
  | "external" => return .external name (← require tag.name "factory" s.factory)
  | _ => return .sealed name

/-- Takes an attribute of an enumeration. -/
def setEnumeration (s : TypeSettings) (a : Attribute) : TypeSettings :=
  if a.key = "name" then { s with name := some a.value } else s

/-- The name of an enumeration. -/
def enumeration (owner : Option String) (tag : Tag) : Except DocumentError String := do
  return qualify owner (← require "enum" "name" (tag.attributes.foldl setEnumeration {}).name)

/-- The name of an entry of an enumeration. -/
def entry (owner : String) (tag : Tag) : Except DocumentError String :=
  if tag.name != "entry" then .error (.unknownElement tag.name owner)
  else require "entry" "name" ((tag.attributes.find? (·.key == "name")).map (·.value))

/-- Takes an attribute of a product. -/
def setProduct (s : TypeSettings) (a : Attribute) : Except DocumentError TypeSettings :=
  match a.key with
  | "name" => .ok { s with name := some a.value }
  | "style" => do return { s with style := ← valueBy ConstructorStyle.parse? "product" a }
  | "companion" => do return { s with companion := ← truth "product" a }
  | "value" => do return { s with value := ← truth "product" a }
  | _ => .ok s

/-- The name of a product, and its content without members. -/
def product (owner : Option String) (tag : Tag) : Except DocumentError (String × Product) := do
  let s ← tag.attributes.foldlM setProduct {}
  let name ← require "product" "name" s.name
  return (qualify owner name, ⟨[], s.style, s.companion, s.value⟩)

/-- What the attributes of a member may say. -/
structure MemberSettings where
  name : Option String := none
  type : Option String := none
  nullable : Bool := false
deriving Repr

/-- Takes an attribute of a member. -/
def setMember (s : MemberSettings) (a : Attribute) : Except DocumentError MemberSettings :=
  match a.key with
  | "name" => .ok { s with name := some a.value }
  | "type" => .ok { s with type := some a.value }
  | "nullable" => do return { s with nullable := ← truth "member" a }
  | _ => .ok s

/-- The member at `index` of a product. A positional member without a name has its index for a
name. -/
def member (owner : String) (style : ConstructorStyle) (index : Nat) (tag : Tag) :
    Except DocumentError Member :=
  if tag.name != "member" then .error (.unknownElement tag.name owner)
  else do
    let s ← tag.attributes.foldlM setMember {}
    let name ← match s.name, style with
      | some name, _ => pure name
      | none, .positional => pure (toString index)
      | none, .named => .error (.missingAttribute "member" "name")
    return ⟨name, ← require "member" "type" s.type, s.nullable⟩

/-- Takes an attribute of a sum. -/
def setSum (s : TypeSettings) (a : Attribute) : Except DocumentError TypeSettings :=
  match a.key with
  | "name" => .ok { s with name := some a.value }
  | "companion" => do return { s with companion := ← truth "sum" a }
  | _ => .ok s

/-- The name of a sum, and whether functions can be attached to it. -/
def sum (owner : Option String) (tag : Tag) : Except DocumentError (String × Bool) := do
  let s ← tag.attributes.foldlM setSum {}
  return (qualify owner (← require "sum" "name" s.name), s.companion)

/-- What the attributes of a request may say. -/
structure RequestSettings where
  type : Option String := none
  function : Option String := none
  autoLabel : Bool := true
  nullable : Bool := false
deriving Repr

/-- The element that makes a request. -/
def requestElement : Directive → String
  | .field => "generateField"
  | .factory => "generate"

/-- Takes an attribute of a request. Only a field may be optional. -/
def setRequest (directive : Directive) (s : RequestSettings) (a : Attribute) :
    Except DocumentError RequestSettings :=
  match a.key with
  | "type" => .ok { s with type := some a.value }
  | "name" => .ok { s with function := some a.value }
  | "autoLabel" => do return { s with autoLabel := ← truth (requestElement directive) a }
  | "nullable" =>
    if directive = .field then do
      return { s with nullable := ← truth (requestElement directive) a }
    else .ok s
  | _ => .ok s

/-- The request that an element makes. -/
def request (directive : Directive) (tag : Tag) : Except DocumentError Request := do
  let s ← tag.attributes.foldlM (setRequest directive) {}
  let type ← require (requestElement directive) "type" s.type
  return ⟨type, s.function, s.autoLabel, s.nullable, directive⟩

end Element

end EditableFields
