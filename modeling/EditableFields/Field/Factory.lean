import EditableFields.Field.Shape

/-!
# Factories of fields

A factory makes a field from a label and an initial value. Factories of composed fields are given
the factories of what the fields are made of, and call them when they make a field.
-/

namespace EditableFields

/-- Makes fields that edit values of one type. -/
abbrev FieldFactory := String → Value → Field

/-- One variant of a sum, as a factory of its fields is told. -/
structure Variant where
  tag : String
  /-- Whether a value belongs to the variant. -/
  accepts : Value → Bool
  factory : FieldFactory
  /-- What the variant's field is made with if another variant is selected at first. -/
  default : Value

/-- The header of a new field. -/
def Header.fresh (label : String) (initial : Value) : Header :=
  ⟨label, initial, .empty⟩

namespace FieldFactory

/-- Makes fields for a primitive. -/
def leaf (kind : Primitive) : FieldFactory := fun label v =>
  .leaf (.fresh label v) kind [] v

/-- Makes fields for a choice of values. -/
def choice (kind : Primitive) (entries : List Value) : FieldFactory := fun label v =>
  .leaf (.fresh label v) kind entries v

/-- Makes fields for a constant. -/
def fixed : FieldFactory := fun label v =>
  .fixed (.fresh label v) v

/-- Makes the children of a product, from the one at position `i` on. -/
def makeChildren (part : Nat → Value) (i : Nat) : List (String × FieldFactory) → List Field
  | [] => []
  | (label, factory) :: rest => factory label (part i) :: makeChildren part (i + 1) rest

/-- Makes fields for a product, with a child for each member. -/
def product (members : List (String × FieldFactory)) (combine : List Value → Value)
    (split : Value → Nat → Value) : FieldFactory := fun label v =>
  .combined (.fresh label v) combine split (makeChildren (split v) 0 members)

/-- Makes the slots of a sum, from the one at position `i` on. The selected one starts from the
initial value, the others from defaults of their own. -/
def makeSlots (initial : Value) (selected i : Nat) : List Variant → List (Slot Field)
  | [] => []
  | v :: vs =>
    ⟨v.tag, v.accepts, v.factory v.tag (if i = selected then initial else v.default)⟩ ::
      makeSlots initial selected (i + 1) vs

/-- Makes fields for a sum. The first variant that accepts the initial value is live at first; if
none does, the first of all is. -/
def sum (variants : List Variant) : FieldFactory := fun label v =>
  let selected := (variants.findIdx? (·.accepts v)).getD 0
  .polymorphic (.fresh label v) selected selected (makeSlots v selected 0 variants)

/-- Makes fields for optional values. If there is no initial value, the inner field starts from
`fallback`. -/
def nullable (inner : FieldFactory) (fallback : Value) : FieldFactory := fun label v =>
  .nullable (.fresh label v) v.isPresent (inner label (v.content?.getD fallback))

/-- Makes fields for a type that is edited by fields of another. -/
def transform (inner : FieldFactory) (down up : Value → Value) : FieldFactory := fun label v =>
  .transform (.fresh label v) down up (inner label (down v))

end FieldFactory

end EditableFields
