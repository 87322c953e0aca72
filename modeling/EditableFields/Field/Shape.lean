import EditableFields.Field.Operations

/-!
# Shapes of fields

The structure of a field and of all it is made of, without the values: what a renderer needs to
choose widgets. Besides it, the text of a field in diagnostics.
-/

namespace EditableFields

/-- Structure of a field. -/
inductive FieldShape where
  | leaf (label : String) (kind : Primitive) (options : Nat)
  | fixed (label : String)
  | combined (label : String) (children : List FieldShape)
  /-- A sum with the tag of its live variant, which is empty if there is none. -/
  | polymorphic (label selected : String) (children : List FieldShape)
  | nullable (label : String) (present : Bool) (inner : FieldShape)
  | transform (label : String) (inner : FieldShape)
deriving Repr

namespace FieldShape

/-- Label of the field. -/
def label : FieldShape → String
  | leaf label _ _ | fixed label | combined label _ | polymorphic label _ _ | nullable label _ _
  | transform label _ => label

/-- Name of the kind of field. -/
def kindName : FieldShape → String
  | leaf .. => "leaf"
  | fixed _ => "fixed"
  | combined .. => "combined"
  | polymorphic .. => "polymorphic"
  | nullable .. => "nullable"
  | transform .. => "transform"

/-- Structures of the fields that the field is made of. -/
def children : FieldShape → List FieldShape
  | leaf .. | fixed _ => []
  | combined _ children => children
  | polymorphic _ _ children => children
  | nullable _ _ inner => [inner]
  | transform _ inner => [inner]

end FieldShape

/-- Full name of a primitive's type. -/
def Primitive.fullName : Primitive → String
  | string => "alloc::string::String"
  | kind => kind.typeName

namespace Field

mutual

/-- The structure of a field. -/
def shape : Field → FieldShape
  | leaf h kind options _ => .leaf h.label kind options.length
  | fixed h _ => .fixed h.label
  | combined h _ _ children => .combined h.label (shapes children)
  | polymorphic h _ selected slots =>
    .polymorphic h.label ((slots[selected]?.map (·.tag)).getD "") (slotShapes slots)
  | nullable h present inner => .nullable h.label present inner.shape
  | transform h _ _ inner => .transform h.label inner.shape

/-- The structures of fields. -/
def shapes : List Field → List FieldShape
  | [] => []
  | f :: fs => f.shape :: shapes fs

/-- The structures of the fields in slots. -/
def slotShapes : List (Slot Field) → List FieldShape
  | [] => []
  | ⟨_, _, field⟩ :: slots => field.shape :: slotShapes slots

end

/-- The text of a record: its name, and its fields in braces. -/
def recordText (name : String) (fields : List (String × String)) : String :=
  name ++ " \x7b " ++ String.intercalate ", " (fields.map fun f => f.1 ++ ": " ++ f.2) ++ " \x7d"

/-- The text of a field in diagnostics. -/
def debug (f : Field) : String :=
  let label := ("label", Text.quoted f.label)
  match f with
  | leaf h _ options value =>
    recordText "Leaf" [label, ("initial_value", h.initial.debug), ("value", value.debug),
      ("options", Value.bracketed (options.map Value.debug)), ("observers", h.observers.debug)]
  | fixed h value =>
    recordText "Fixed" [label, ("initial_value", h.initial.debug), ("value", value.debug),
      ("observers", h.observers.debug)]
  | combined _ _ _ children =>
    let arity := toString children.length
    recordText ("Combined" ++ arity) [label, ("arity", arity)]
  | polymorphic _ _ selected slots =>
    recordText "Polymorphic" [label,
      ("variants", Value.bracketed (slots.map fun s => Text.quoted s.tag)),
      ("selected", toString selected)]
  | nullable _ present _ => recordText "Nullable" [label, ("present", toString present)]
  | transform .. => recordText "Transform" [label]

end Field

end EditableFields
