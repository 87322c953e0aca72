import EditableFields.Field.Recipe
import EditableFields.Proofs.Field.Origin

/-!
# Fields: reset restores what was created

A field from a factory is what it was made as (`Created.asMade_eq`), and reset brings every field
to that, observers aside. So after any operations reset gives the field as it was created, with
everything that is hidden in it (`reset_restores`): the fields of the variants that are not live,
and what is inside an optional value that is absent.
-/

namespace EditableFields

namespace Field

/-! ## Created fields -/

/-- A field as the library's factories make it, with any factories of such fields for what it is
made of. -/
inductive Created : Field → Prop where
  | leaf (kind : Primitive) (label : String) (v : Value) :
    Created (FieldFactory.leaf kind label v)
  | choice (kind : Primitive) (entries : List Value) (label : String) (v : Value) :
    Created (FieldFactory.choice kind entries label v)
  | fixed (label : String) (v : Value) : Created (FieldFactory.fixed label v)
  | product {members : List (String × FieldFactory)}
    (parts : ∀ m ∈ members, ∀ label v, Created (m.2 label v))
    (combine : List Value → Value) (split : Value → Nat → Value) (label : String) (v : Value) :
    Created (FieldFactory.product members combine split label v)
  | sum {variants : List Variant} (parts : ∀ x ∈ variants, ∀ label v, Created (x.factory label v))
    (label : String) (v : Value) : Created (FieldFactory.sum variants label v)
  | nullable {inner : FieldFactory} (part : ∀ label v, Created (inner label v))
    (fallback : Value) (label : String) (v : Value) :
    Created (FieldFactory.nullable inner fallback label v)
  | transform {inner : FieldFactory} (part : ∀ label v, Created (inner label v))
    (down up : Value → Value) (label : String) (v : Value) :
    Created (FieldFactory.transform inner down up label v)

/-- A created field that has the label that its factory was given, and so have all that it is made
of. -/
inductive CreatedAs : String → Field → Prop where
  | leaf (kind : Primitive) (label : String) (v : Value) :
    CreatedAs label (FieldFactory.leaf kind label v)
  | choice (kind : Primitive) (entries : List Value) (label : String) (v : Value) :
    CreatedAs label (FieldFactory.choice kind entries label v)
  | fixed (label : String) (v : Value) : CreatedAs label (FieldFactory.fixed label v)
  | product {members : List (String × FieldFactory)}
    (parts : ∀ m ∈ members, ∀ label v, CreatedAs label (m.2 label v))
    (combine : List Value → Value) (split : Value → Nat → Value) (label : String) (v : Value) :
    CreatedAs label (FieldFactory.product members combine split label v)
  | sum {variants : List Variant}
    (parts : ∀ x ∈ variants, ∀ label v, CreatedAs label (x.factory label v))
    (label : String) (v : Value) : CreatedAs label (FieldFactory.sum variants label v)
  | nullable {inner : FieldFactory} (part : ∀ label v, CreatedAs label (inner label v))
    (fallback : Value) (label : String) (v : Value) :
    CreatedAs label (FieldFactory.nullable inner fallback label v)
  | transform {inner : FieldFactory} (part : ∀ label v, CreatedAs label (inner label v))
    (down up : Value → Value) (label : String) (v : Value) :
    CreatedAs label (FieldFactory.transform inner down up label v)

theorem CreatedAs.created {label : String} {f : Field} (h : f.CreatedAs label) : f.Created := by
  induction h with
  | leaf | choice | fixed => constructor
  | product _ combine split label v ih => exact .product ih combine split label v
  | sum _ label v ih => exact .sum ih label v
  | nullable _ fallback label v ih => exact .nullable ih fallback label v
  | transform _ down up label v ih => exact .transform ih down up label v

theorem CreatedAs.label_eq {label : String} {f : Field} (h : f.CreatedAs label) :
    f.label = label := by
  cases h <;> rfl

open FieldFactory in
theorem map_asMade_makeChildren {members : List (String × FieldFactory)}
    (h : ∀ m ∈ members, ∀ label v, (m.2 label v).asMade = m.2 label v) (part : Nat → Value)
    (i : Nat) : (makeChildren part i members).map asMade = makeChildren part i members := by
  induction members generalizing i with
  | nil => rfl
  | cons m members ih =>
    obtain ⟨hm, hmembers⟩ := List.forall_mem_cons.1 h
    rw [makeChildren, List.map_cons, hm, ih hmembers]

open FieldFactory in
theorem map_asMade_makeSlots {variants : List Variant}
    (h : ∀ x ∈ variants, ∀ label v, (x.factory label v).asMade = x.factory label v)
    (initial : Value) (selected i : Nat) :
    (makeSlots initial selected i variants).map (·.map asMade) =
      makeSlots initial selected i variants := by
  induction variants generalizing i with
  | nil => rfl
  | cons x variants ih =>
    obtain ⟨hx, hvariants⟩ := List.forall_mem_cons.1 h
    rw [makeSlots, List.map_cons, ih hvariants, Slot.map, hx]

/-- A field is created as it was made. -/
theorem Created.asMade_eq {f : Field} (h : f.Created) : f.asMade = f := by
  induction h with
  | leaf | choice | fixed => rfl
  | product _ combine split label v ih =>
    rw [FieldFactory.product, asMade_combined, map_asMade_makeChildren ih]
    rfl
  | sum _ label v ih =>
    rw [FieldFactory.sum, asMade_polymorphic, map_asMade_makeSlots ih]
    rfl
  | nullable _ fallback label v ih =>
    rw [FieldFactory.nullable, asMade_nullable, ih]
    rfl
  | transform _ down up label v ih =>
    rw [FieldFactory.transform, asMade_transform, ih]
    rfl

/-! ## Reset -/

theorem value_unobserved (f : Field) : f.unobserved.value = f.value := by
  induction f with
  | leaf | fixed => rfl
  | combined h combine split children ih =>
    rw [unobserved, value, value, values_eq_map, values_eq_map, allUnobserved_eq, List.map_map]
    exact congrArg combine (List.map_congr_left ih)
  | polymorphic h first selected slots ih =>
    rw [unobserved, value, value, slotValue?_eq, slotValue?_eq, slotsUnobserved_eq,
      List.getElem?_map]
    cases hs : slots[selected]? with
    | none => rfl
    | some s => exact ih s (List.mem_of_getElem? hs)
  | nullable h present inner ih => rw [unobserved, value, value, ih]
  | transform h down up inner ih => rw [unobserved, value, value, ih]

theorem shape_unobserved (f : Field) : f.unobserved.shape = f.shape := by
  induction f with
  | leaf | fixed => rfl
  | combined h combine split children ih =>
    rw [unobserved, shape, shape, shapes_eq_map, shapes_eq_map, allUnobserved_eq, List.map_map]
    exact congrArg _ (List.map_congr_left ih)
  | polymorphic h first selected slots ih =>
    rw [unobserved, shape, shape, slotShapes_eq_map, slotShapes_eq_map, slotsUnobserved_eq,
      List.getElem?_map, Option.map_map, List.map_map]
    exact congrArg _ (List.map_congr_left ih)
  | nullable h present inner ih => rw [unobserved, shape, shape, ih]; rfl
  | transform h down up inner ih => rw [unobserved, shape, shape, ih]; rfl

/-- The initial value of a field is the one it was made with. -/
theorem initial_asMade (f : Field) : f.asMade.initial = f.initial := by
  cases f <;> rfl

/-- Reset brings a created field back to how it was made, in all that it is made of, whatever was
done to it; and its initial value never changed. -/
theorem reset_restores {f : Field} (created : f.Created) (ops : List Operation) :
    (f.after ops).reset.1.unobserved = f ∧ (f.after ops).reset.1.shape = f.shape ∧
      (f.after ops).reset.1.value = f.value ∧ (f.after ops).initial = f.initial := by
  have made : (f.after ops).reset.1.unobserved = f :=
    (f.asMade_after ops).trans created.asMade_eq
  refine ⟨made, ?_, ?_, ?_⟩
  · rw [← shape_unobserved, made]
  · rw [← value_unobserved, made]
  · rw [← initial_asMade, asMade_after, created.asMade_eq]

end Field

namespace Recipe

open EditableFields.Field

mutual

/-- The fields that recipes describe are created so, with the labels that are asked for. -/
theorem createdAs : ∀ (r : Recipe) (label : String) (v : Value),
    (r.factory label v).CreatedAs label
  | leaf kind, label, v => .leaf kind label v
  | doubled, label, _ => .leaf .int32 label _
  | choice kind entries, label, v => .choice kind entries label v
  | fixed _, label, v => .fixed label v
  | product members, label, v => .product (memberFactories_createdAs members) _ _ label v
  | sum vs, label, v => .sum (variants_createdAs vs) label v
  | nullable of fallback, label, v => .nullable (createdAs of) fallback label v
  | transform of _, label, v => .transform (createdAs of) _ _ label v
  | shared of, label, v => createdAs of label v

theorem memberFactories_createdAs : ∀ (members : List (String × Recipe)),
    ∀ m ∈ memberFactories members, ∀ label v, (m.2 label v).CreatedAs label
  | [] => List.forall_mem_nil _
  | (_, r) :: rs => List.forall_mem_cons.2 ⟨createdAs r, memberFactories_createdAs rs⟩

theorem variants_createdAs : ∀ (vs : List (VariantRecipe Recipe)),
    ∀ x ∈ variants vs, ∀ label v, (x.factory label v).CreatedAs label
  | [] => List.forall_mem_nil _
  | ⟨_, none, _, _, _⟩ :: vs => List.forall_mem_cons.2 ⟨.fixed, variants_createdAs vs⟩
  | ⟨_, some members, _, _, _⟩ :: vs =>
    List.forall_mem_cons.2
      ⟨.product (memberFactories_createdAs members) _ _, variants_createdAs vs⟩

end

theorem created (r : Recipe) (label : String) (v : Value) : (r.factory label v).Created :=
  (createdAs r label v).created

end Recipe

namespace Field

/-- A way of contact: none, or a mail address. -/
def contactRecipe : Recipe :=
  .sum [⟨"None", none, [], [], ["None"]⟩,
    ⟨"Mail", some [("address", .leaf .string)], [.text "?"], [.text "?"], ["Mail"]⟩]

/-- A card of a person: a name, an age if it is known, a role and a way of contact. -/
def card : Field :=
  (Recipe.product
    [("name", .leaf .string),
      ("age", .nullable (.transform (.leaf .int64) .wrap) (.wrapped (.int 0))),
      ("role", .choice .string [.text "guest", .text "owner"]),
      ("contact", contactRecipe)]).factory
    "card" (.list [.text "Ada", .absent, .text "guest", .tagged "None" []])

/-- The card is filled in: some of it while it is hidden, and some in vain. -/
def cardEdits : List Operation :=
  [.subscribe "form",
    .editChildren [(0, .set (.text "Eve")), (1, .editInner [.set (.wrapped (.int 36))]),
      (3, .selectVariant "Mail"), (3, .editActive [.editChildren [(0, .set (.text "eve@home"))]])],
    .editChildren [(1, .setPresent true), (2, .select 1), (2, .select 7),
      (3, .selectVariant "Fax")]]

theorem card_created : card.Created :=
  Recipe.created _ _ _

/-- The card is restored after it was filled in. -/
theorem reset_restores_card :
    card.Created ∧
      (card.after cardEdits).value =
        .list [.text "Eve", .present (.wrapped (.int 36)), .text "owner",
          .tagged "Mail" [.text "eve@home"]] ∧
      (card.after cardEdits).reset.1.unobserved = card ∧
      (card.after cardEdits).reset.1.shape = card.shape ∧
      (card.after cardEdits).reset.1.value = card.value ∧
      (card.after cardEdits).initial = card.initial :=
  ⟨card_created, rfl, reset_restores card_created cardEdits⟩

end Field

end EditableFields
