import EditableFields.Field.Factory

/-!
# Recipes

A recipe describes a factory of fields as data: what is edited, and by which kinds of fields. Its
mappings between types are those that have a name here.
-/

namespace EditableFields

/-- A named mapping between the values of two fields. -/
inductive ValueMap where
  /-- A wrapper around the inner value. -/
  | wrap
  /-- Numbers kept from 0 to 100 on the way in. -/
  | clamp
  /-- The negative of a 64-bit number, both ways. -/
  | negate
  /-- Text with ASCII capitals on the way out. -/
  | upper
deriving DecidableEq, Repr

namespace ValueMap

/-- The mapping to the inner value. -/
def down : ValueMap → Value → Value
  | wrap, v => v.unwrapped
  | clamp, v => .int (max 0 (min 100 v.toInt))
  | negate, v => .int (wrapSigned 64 (-v.toInt))
  | upper, v => v

/-- The mapping from the inner value. -/
def up : ValueMap → Value → Value
  | wrap, v => .wrapped v
  | clamp, v => v
  | negate, v => .int (wrapSigned 64 (-v.toInt))
  | upper, v => .text (String.ofList (v.toText.toList.map Char.toUpper))

end ValueMap

/-- What a variant of a sum is described by, with descriptions `ρ` of its members' fields. -/
structure VariantRecipe (ρ : Type) where
  tag : String
  /-- Labels and recipes of members; a constant has none. -/
  members : Option (List (String × ρ))
  /-- Values that the members start from. -/
  default : List Value
  /-- Parts of a value that belongs to another variant. -/
  fallback : List Value
  /-- Tags of the values that the variant accepts. -/
  accepts : List String
deriving Repr

/-- Description of a factory of fields. -/
inductive Recipe where
  | leaf (kind : Primitive)
  /-- A 32-bit number that starts from twice the initial value. -/
  | doubled
  | choice (kind : Primitive) (entries : List Value)
  | fixed (of : Recipe)
  | product (members : List (String × Recipe))
  | sum (variants : List (VariantRecipe Recipe))
  | nullable (of : Recipe) (fallback : Value)
  | transform (of : Recipe) (map : ValueMap)
  /-- The same as another recipe, with its kind of field hidden. -/
  | shared (of : Recipe)
deriving Repr

/-- The part of a list at a position. -/
def listPart (v : Value) (i : Nat) : Value :=
  match v with
  | .list items => items.getD i .absent
  | _ => .absent

/-- Whether a value has one of some tags. -/
def hasTagIn (tags : List String) : Value → Bool
  | .tagged tag _ => tags.contains tag
  | _ => false

/-- The part of a value of the variant `tag` at a position; any other value has the parts of
`fallback`. -/
def variantPart (tag : String) (fallback : List Value) (v : Value) (i : Nat) : Value :=
  match v with
  | .tagged t fields => if t = tag then fields.getD i .absent else fallback.getD i .absent
  | _ => fallback.getD i .absent

namespace Recipe

mutual

/-- The factory that a recipe describes. -/
def factory : Recipe → FieldFactory
  | leaf kind => .leaf kind
  | doubled => fun label v => FieldFactory.leaf .int32 label (.int (wrapSigned 32 (v.toInt * 2)))
  | choice kind entries => .choice kind entries
  | fixed _ => .fixed
  | product members => .product (memberFactories members) .list listPart
  | sum vs => .sum (variants vs)
  | nullable of fallback => .nullable of.factory fallback
  | transform of map => .transform of.factory map.down map.up
  | shared of => of.factory

/-- The factories of members with their labels. -/
def memberFactories : List (String × Recipe) → List (String × FieldFactory)
  | [] => []
  | (label, r) :: rs => (label, r.factory) :: memberFactories rs

/-- The variants that recipes of variants describe. The field of a variant with members edits the
sum itself. -/
def variants : List (VariantRecipe Recipe) → List Variant
  | [] => []
  | ⟨tag, none, _, _, accepts⟩ :: vs =>
    ⟨tag, hasTagIn accepts, .fixed, .tagged tag []⟩ :: variants vs
  | ⟨tag, some members, default, fallback, accepts⟩ :: vs =>
    ⟨tag, hasTagIn accepts,
      .product (memberFactories members) (.tagged tag) (variantPart tag fallback),
      .tagged tag default⟩ :: variants vs

end

/-- The text of the factory that a recipe describes, in diagnostics. Factories of products and sums
are closures and show nothing. -/
def debug : Recipe → String
  | leaf kind => kind.leafName
  | choice _ entries =>
    Field.recordText "EnumField" [("entries", Value.bracketed (entries.map Value.debug))]
  | fixed _ => "FixedField"
  | nullable of _ => Field.recordText "NullableField" [("inner", of.debug)]
  | transform of _ => Field.recordText "TransformField" [("inner", of.debug)]
  | shared _ => "SharedFactory"
  | doubled | product _ | sum _ => "FnFactory"

end Recipe

/-- The text of a variant in diagnostics. -/
def Variant.debug (v : Variant) : String :=
  Field.recordText "Variant" [("tag", Text.quoted v.tag)]

end EditableFields
