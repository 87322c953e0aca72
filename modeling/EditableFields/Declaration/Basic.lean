import EditableFields.Catalog
import EditableFields.Declaration.Pragma
import EditableFields.Declaration.TypeExpr

/-!
# Declarations

Declarations of structs and enums with their pragmas, and the descriptors of the types that they
declare.
-/

namespace EditableFields

/-- Type and pragmas of one declared member. -/
structure DeclaredMember where
  type : TypeExpr
  pragmas : List Pragma
deriving Repr

/-- The members of a struct or of an enum's variant. -/
inductive DeclaredMembers where
  | unit
  | named (members : List (String × DeclaredMember))
  | positional (members : List DeclaredMember)
deriving Repr

/-- One variant of an enum. -/
structure DeclaredVariant where
  name : String
  members : DeclaredMembers
deriving Repr

/-- What is declared. -/
inductive DeclarationBody where
  | record (members : DeclaredMembers)
  | choice (variants : List DeclaredVariant)
  | union
deriving Repr

/-- A declaration of a type. -/
structure Declaration where
  name : String
  /-- Parameters of the type. -/
  generics : List String
  pragmas : List Pragma
  body : DeclarationBody
deriving Repr

/-- The name behind a raw identifier. -/
def Name.unraw (s : String) : String :=
  match s.toList with
  | 'r' :: '#' :: rest => String.ofList rest
  | _ => s

/-- The member that a name and a type describe. It is optional if its type is. -/
def TypeExpr.member (name : String) (e : TypeExpr) : Member :=
  ⟨name, e.content.typeName, e.isOptional⟩

namespace DeclaredMembers

/-- The members in order. -/
def toList : DeclaredMembers → List DeclaredMember
  | unit => []
  | named members => members.map (·.2)
  | positional members => members

/-- How the constructor takes the members. -/
def style : DeclaredMembers → ConstructorStyle
  | positional _ => .positional
  | _ => .named

/-- The members of positional constructors, named by their index from `i` on. -/
def positionalMembers (i : Nat) : List DeclaredMember → List Member
  | [] => []
  | m :: ms => m.type.member (toString i) :: positionalMembers (i + 1) ms

/-- The described members. -/
def members : DeclaredMembers → List Member
  | unit => []
  | named members => members.map fun m => m.2.type.member (Name.unraw m.1)
  | positional members => positionalMembers 0 members

/-- The product of the members. -/
def product (ms : DeclaredMembers) (companion : Bool) : Product :=
  ⟨ms.members, ms.style, companion, false⟩

end DeclaredMembers

/-- Describes a variant: without members it is a singleton, a bare path or an empty marker; any
other is a product of its own, to which no function can be attached. -/
def DeclaredVariant.descriptor (owner : String) (v : DeclaredVariant) : Descriptor :=
  let name := owner ++ "::" ++ v.name
  match v.members with
  | .unit => .singleton name true
  | .named [] => .singleton name false
  | members => .product name (members.product false)

namespace Declaration

/-- Describes the declared type; a union has no description. -/
def descriptor? (d : Declaration) : Option Descriptor :=
  match d.body with
  | .record .unit => some (.singleton d.name true)
  | .record members => some (.product d.name (members.product true))
  | .choice variants => some (.sum d.name (variants.map (·.descriptor d.name)) true)
  | .union => none

end Declaration

end EditableFields
