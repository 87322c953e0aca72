import EditableFields.Descriptor

/-!
# Shapes

The shape of a type says how it would be edited if all it refers to could be. It is decided from
one descriptor alone; the types of members and variants are not looked at.
-/

namespace EditableFields

/-- Most members a product may have. -/
def maxMembers : Nat := 10

/-- Why a type cannot be edited. -/
inductive Refusal where
  | unknownType (name : String)
  | noEntries (name : String)
  | noVariants (name : String)
  /-- Nothing can be attached to the type, which is a product or a sum as `kind` says. -/
  | noCompanion (kind name : String)
  | memberCount (name : String) (count : Nat)
  | sealed (name : String)
  /-- The type is its own descendant. The path leads from a type back to that type. -/
  | circular (path : List String)
  | variantRefused (variant owner : String) (reason : Refusal)
  /-- A variant is neither a product nor a singleton. -/
  | variantKind (variant owner kind : String)
  /-- More types are nested in one another than have names; no type is refused for it. -/
  | tooDeep (name : String)
deriving DecidableEq, Repr

def Refusal.message : Refusal → String
  | unknownType name => "unknown type '" ++ name ++ "'"
  | noEntries name => "enumeration '" ++ name ++ "' has no entries"
  | noVariants name => "sum '" ++ name ++ "' has no variants"
  | noCompanion kind name => kind ++ " '" ++ name ++ "' has no companion slot"
  | memberCount name count =>
    "product '" ++ name ++ "' member count " ++ toString count ++ " out of range 1..=" ++
      toString maxMembers
  | sealed name =>
    "type '" ++ name ++
      "' is opaque: not a primitive, enumeration, singleton, product or sum"
  | circular path => "circular type reference: " ++ String.intercalate " -> " path
  | variantRefused variant owner reason =>
    "variant " ++ variant ++ " of " ++ owner ++ " is unsupported: " ++ reason.message
  | variantKind variant owner kind =>
    "variant " ++ variant ++ " of " ++ owner ++ " is " ++ kind ++
      ", expected product or singleton"
  | tooDeep name => "type '" ++ name ++ "' is nested too deeply"

/-- How a type would be edited, with members and variants not looked into. -/
inductive Shape where
  | primitive (kind : Primitive)
  | enumeration (entries : List String)
  | singleton (valueless : Bool)
  | product (style : ConstructorStyle) (members : List Member)
  | sum (variants : List Descriptor)
  | external (factory : String)
  | unsupported (reason : Refusal)
deriving Repr

/-- Where a type stands: by itself, or as a variant of a sum. -/
inductive Standing where
  | topLevel
  | variant
deriving DecidableEq, Repr

/-- A product needs a companion if it stands by itself, and one to `maxMembers` members. -/
def productShape (standing : Standing) (name : String) (content : Product) : Shape :=
  if standing = .topLevel && !content.companion then .unsupported (.noCompanion "product" name)
  else if content.members.isEmpty || maxMembers < content.members.length then
    .unsupported (.memberCount name content.members.length)
  else .product content.style content.members

/-- A sum needs a companion if it stands by itself, and at least one variant. -/
def sumShape (standing : Standing) (name : String) (variants : List Descriptor)
    (companion : Bool) : Shape :=
  if standing = .topLevel && !companion then .unsupported (.noCompanion "sum" name)
  else if variants.isEmpty then .unsupported (.noVariants name)
  else .sum variants

/-- The shape of a type. A type named like a primitive is that primitive, whatever is declared
under the name. -/
def Descriptor.shape (standing : Standing) (d : Descriptor) : Shape :=
  match Primitive.ofTypeName? d.name with
  | some kind => .primitive kind
  | none =>
    match d with
    | primitive p => .primitive p.kind
    | enumeration name entries =>
      if entries.isEmpty then .unsupported (.noEntries name) else .enumeration entries
    | singleton _ valueless => .singleton valueless
    | product name content => productShape standing name content
    | sum name variants companion => sumShape standing name variants companion
    | external _ factory => .external factory
    | sealed name => .unsupported (.sealed name)

end EditableFields
