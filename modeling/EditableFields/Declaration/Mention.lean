import EditableFields.Declaration.Basic

/-!
# Mentioned types

The types that the members of a declaration mention, and what becomes of them. A mentioned type
that no catalog knows is taken for a wrapper where the member says so, for a type with a factory
of its own where it is a plain path, and for a sealed type otherwise.
-/

namespace EditableFields

/-- Why a declaration cannot be described. -/
inductive DeclarationError where
  | generic
  | pragma (e : PragmaError)
  | union
  /-- A variant with parentheses and nothing in them. -/
  | emptyPositionalVariant
deriving DecidableEq, Repr

def DeclarationError.message : DeclarationError → String
  | generic => "PreviewField cannot be derived for generic types"
  | pragma e => e.message
  | union => "PreviewField cannot be derived for unions"
  | emptyPositionalVariant => "empty tuple variants are not supported, use a unit variant"

/-- A type that a member mentions, without the option around it. -/
structure Mention where
  type : TypeExpr
  /-- The primitive that the type is said to wrap. -/
  wrapped : Option Primitive
deriving Repr

/-- Describes a mentioned type. -/
def Mention.descriptor (m : Mention) : Descriptor :=
  match m.type.name?, m.wrapped with
  | none, _ => .sealed m.type.text
  | some name, none => .external name (name ++ "FieldFactory")
  | some name, some p =>
    .product name ⟨[⟨"0", p.typeName, false⟩], .positional, false, true⟩

/-- Adds a mentioned type to a catalog, unless it is `owner` or its name means a type there. -/
def Catalog.mention (owner : String) (c : Catalog) (m : Mention) : Catalog :=
  if m.type.typeName = owner || c.has m.type.typeName then c else c.add m.descriptor

/-- The type that a member mentions. -/
def DeclaredMember.mention (m : DeclaredMember) : Except DeclarationError Mention :=
  match Pragma.wrapped? m.pragmas with
  | .ok wrapped => .ok ⟨m.type.content, wrapped⟩
  | .error e => .error (.pragma e)

/-- The types that members mention. -/
def DeclaredMembers.mentions (ms : DeclaredMembers) : Except DeclarationError (List Mention) :=
  ms.toList.mapM DeclaredMember.mention

/-- The types that a variant mentions. -/
def DeclaredVariant.mentions (v : DeclaredVariant) : Except DeclarationError (List Mention) :=
  match v.members with
  | .positional [] => .error .emptyPositionalVariant
  | members => members.mentions

namespace Declaration

/-- The types that a declaration mentions, in order. -/
def mentions (d : Declaration) : Except DeclarationError (List Mention) :=
  match d.body with
  | .record members => members.mentions
  | .choice variants => (variants.mapM DeclaredVariant.mentions).map List.flatten
  | .union => .error .union

/-- The catalog of the types that a declaration mentions, and of the declared type after them. -/
def catalog (d : Declaration) : Except DeclarationError Catalog :=
  match d.mentions with
  | .error e => .error e
  | .ok mentions =>
    let c := mentions.foldl (Catalog.mention d.name) .primitives
    .ok (d.descriptor?.elim c c.add)

end Declaration

end EditableFields
