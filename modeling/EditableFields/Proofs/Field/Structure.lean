import EditableFields.Proofs.Field.Depth
import EditableFields.Proofs.Field.Reset
import Mathlib.Logic.Relation

/-!
# Fields: the structure stays

What a field looks like is settled when it is made, but for which variants are selected and which
optional values are there: the rest of its shape is that of the field as it was made
(`outline_asMade`). And what is selected is always a variant, at every depth: the live slot is one
of the slots, and the fields in slots have the tags of their variants for labels (`Tagged`).
-/

namespace EditableFields

namespace FieldShape

mutual

/-- The same structure, but for what is selected and what is there. -/
def outline : FieldShape → FieldShape
  | leaf label kind options => leaf label kind options
  | fixed label => fixed label
  | combined label children => combined label (outlines children)
  | polymorphic label _ children => polymorphic label "" (outlines children)
  | nullable label _ inner => nullable label false inner.outline
  | transform label inner => transform label inner.outline

def outlines : List FieldShape → List FieldShape
  | [] => []
  | s :: ss => s.outline :: outlines ss

end

theorem outlines_eq_map (ss : List FieldShape) : outlines ss = ss.map outline := by
  induction ss with
  | nil => rfl
  | cons s ss ih => rw [outlines, ih, List.map_cons]

/-- One shape is a part of another, at some depth. -/
def Within : FieldShape → FieldShape → Prop :=
  Relation.ReflTransGen fun part whole => part ∈ whole.children

end FieldShape

namespace Field

theorem label_shape (f : Field) : f.shape.label = f.label := by
  cases f <;> rfl

theorem label_asMade (f : Field) : f.asMade.label = f.label := by
  cases f <;> rfl

/-! ## Outlines -/

/-- The outline of a field's shape is settled when it is made. -/
theorem outline_asMade (f : Field) : f.asMade.shape.outline = f.shape.outline := by
  induction f with
  | leaf | fixed => rfl
  | combined h combine split children ih =>
    simp only [asMade_combined, shape, shapes_eq_map, FieldShape.outline,
      FieldShape.outlines_eq_map, List.map_map]
    exact congrArg _ (List.map_congr_left ih)
  | polymorphic h first selected slots ih =>
    simp only [asMade_polymorphic, shape, slotShapes_eq_map, FieldShape.outline,
      FieldShape.outlines_eq_map, List.map_map]
    exact congrArg _ (List.map_congr_left ih)
  | nullable h present inner ih =>
    simp only [asMade_nullable, shape, FieldShape.outline, ih]
    rfl
  | transform h down up inner ih =>
    simp only [asMade_transform, shape, FieldShape.outline, ih]
    rfl

theorem outline_after (f : Field) (ops : List Operation) :
    (f.after ops).shape.outline = f.shape.outline := by
  rw [← outline_asMade, asMade_after, outline_asMade]

/-! ## Selected variants -/

/-- The fields of the variants of a sum have their tags for labels. -/
def Tagged : Field → Prop
  | polymorphic _ _ _ slots => ∀ s ∈ slots, s.field.label = s.tag
  | _ => True

/-- Whether fields are labelled with tags is settled when they are made. -/
theorem tagged_asMade_iff (f : Field) : f.asMade.Tagged ↔ f.Tagged := by
  cases f with
  | leaf | fixed | nullable | transform => exact Iff.rfl
  | combined => rw [asMade_combined]; exact Iff.rfl
  | polymorphic h first selected slots =>
    rw [asMade_polymorphic, Tagged, Tagged, List.forall_mem_map]
    refine forall₂_congr fun s _ => ?_
    rw [Slot.map, label_asMade]

/-- What is selected in a sum is one of its variants, by the label of its field. -/
structure Selects (f : Field) : Prop where
  inRange : f.InRange
  tagged : f.Tagged

theorem Selects.after (f : Field) (ops : List Operation) (h : f.Selects) :
    (f.after ops).Selects where
  inRange := h.inRange.after ops
  tagged := by
    rw [← tagged_asMade_iff, asMade_after, tagged_asMade_iff]
    exact h.tagged

theorem Selects.exists_label {f : Field} (h : f.Selects) {label selected : String}
    {variants : List FieldShape} (hshape : f.shape = .polymorphic label selected variants)
    (hne : variants ≠ []) : ∃ s ∈ variants, s.label = selected := by
  cases f with
  | polymorphic header first live slots =>
    rw [shape, slotShapes_eq_map] at hshape
    obtain ⟨-, rfl, rfl⟩ := FieldShape.polymorphic.inj hshape
    have hslots : slots ≠ [] := by simpa using hne
    have hlive : live < slots.length := (h.inRange hslots).2
    have hmem : slots[live] ∈ slots := List.getElem_mem hlive
    refine ⟨slots[live].field.shape, List.mem_map_of_mem hmem, ?_⟩
    rw [label_shape, h.tagged _ hmem, List.getElem?_eq_getElem hlive]
    rfl
  | _ => cases hshape

/-! ## Created fields -/

open FieldFactory in
theorem exists_member_of_mem_makeChildren {members : List (String × FieldFactory)}
    {part : Nat → Value} {i : Nat} {f : Field} (hf : f ∈ makeChildren part i members) :
    ∃ m ∈ members, ∃ v, f = m.2 m.1 v := by
  induction members generalizing i with
  | nil => cases hf
  | cons m members ih =>
    rw [makeChildren, List.mem_cons] at hf
    rcases hf with rfl | hf
    · exact ⟨m, List.mem_cons_self, _, rfl⟩
    · obtain ⟨m', hm', v, rfl⟩ := ih hf
      exact ⟨m', List.mem_cons_of_mem _ hm', v, rfl⟩

theorem exists_variant_of_mem_makeSlots {variants : List Variant} {initial : Value}
    {selected i : Nat} {s : Slot Field}
    (hs : s ∈ FieldFactory.makeSlots initial selected i variants) :
    ∃ x ∈ variants, ∃ v, s = ⟨x.tag, x.accepts, x.factory x.tag v⟩ := by
  rw [makeSlots_eq, List.mem_mapIdx] at hs
  obtain ⟨j, hj, rfl⟩ := hs
  exact ⟨variants[j], List.getElem_mem hj, _, rfl⟩

theorem CreatedAs.selects {label : String} {f : Field} (created : f.CreatedAs label) :
    f.Selects where
  inRange := created.created.inRange
  tagged := by
    cases created with
    | sum parts label v =>
      intro s hs
      obtain ⟨x, hx, w, rfl⟩ := exists_variant_of_mem_makeSlots hs
      exact (parts x hx x.tag w).label_eq
    | _ => trivial

/-- In a created field, all that it is made of is created so. -/
theorem CreatedAs.everywhere {label : String} {f : Field} (created : f.CreatedAs label) :
    f.Everywhere Selects := by
  induction created with
  | leaf kind label v => exact .intro (CreatedAs.leaf kind label v).selects (List.forall_mem_nil _)
  | choice kind entries label v =>
    exact .intro (CreatedAs.choice kind entries label v).selects (List.forall_mem_nil _)
  | fixed label v => exact .intro (CreatedAs.fixed label v).selects (List.forall_mem_nil _)
  | product parts combine split label v ih =>
    refine .intro (CreatedAs.product parts combine split label v).selects fun g hg => ?_
    obtain ⟨m, hm, w, rfl⟩ := exists_member_of_mem_makeChildren hg
    exact ih m hm m.1 w
  | sum parts label v ih =>
    refine .intro (CreatedAs.sum parts label v).selects fun g hg => ?_
    obtain ⟨s, hs, rfl⟩ := List.mem_map.1 hg
    obtain ⟨x, hx, w, rfl⟩ := exists_variant_of_mem_makeSlots hs
    exact ih x hx x.tag w
  | nullable part fallback label v ih =>
    exact .intro (CreatedAs.nullable part fallback label v).selects
      (List.forall_mem_singleton.2 (ih label _))
  | transform part down up label v ih =>
    exact .intro (CreatedAs.transform part down up label v).selects
      (List.forall_mem_singleton.2 (ih label _))

/-- What holds everywhere in a field holds of a field of each shape within its shape. -/
theorem Everywhere.exists_of_within {P : Field → Prop} {f : Field} (h : f.Everywhere P)
    {part : FieldShape} (within : part.Within f.shape) : ∃ g, P g ∧ g.shape = part := by
  -- From the part up to the whole: with each step the field is one that the former is made of.
  generalize hwhole : f.shape = whole at within
  induction within generalizing f with
  | refl =>
    cases h with
    | intro here _ => exact ⟨f, here, hwhole⟩
  | tail _ hchild ih =>
    cases h with
    | intro _ parts =>
      rw [← hwhole, children_shape] at hchild
      obtain ⟨g, hg, hshape⟩ := List.mem_map.1 hchild
      exact ih (parts g hg) hshape

/-- Operations change nothing in the shape of a field but what is selected and what is there, and
what is selected is always the label of a variant, at every depth. -/
theorem shape_after {label : String} {f : Field} (created : f.CreatedAs label)
    (ops : List Operation) :
    (f.after ops).shape.outline = f.shape.outline ∧
      ∀ {name selected variants},
        (FieldShape.polymorphic name selected variants).Within (f.after ops).shape →
        variants ≠ [] → ∃ s ∈ variants, s.label = selected := by
  refine ⟨f.outline_after ops, fun {_ _ _} within hne => ?_⟩
  obtain ⟨g, hg, hshape⟩ := (created.everywhere.after Selects.after ops).exists_of_within within
  exact hg.exists_label hshape hne

/-- Filling in the card shows the age and selects another way of contact, and the card stays the
same but for that. -/
theorem shape_after_card :
    card.CreatedAs "card" ∧ (card.after cardEdits).shape.outline = card.shape.outline ∧
      (FieldShape.polymorphic "contact" "Mail"
        [.fixed "None", .combined "Mail" [.leaf "address" .string 0]]).Within
          (card.after cardEdits).shape ∧
      ∃ s ∈ [FieldShape.fixed "None", .combined "Mail" [.leaf "address" .string 0]],
        s.label = "Mail" := by
  have created : card.CreatedAs "card" := Recipe.createdAs _ _ _
  have within : (FieldShape.polymorphic "contact" "Mail"
      [.fixed "None", .combined "Mail" [.leaf "address" .string 0]]).Within
        (card.after cardEdits).shape := by
    refine Relation.ReflTransGen.single ?_
    exact List.mem_of_getElem? (i := 3) rfl
  exact ⟨created, (shape_after created cardEdits).1, within,
    (shape_after created cardEdits).2 within (List.cons_ne_nil _ _)⟩

end Field

end EditableFields
