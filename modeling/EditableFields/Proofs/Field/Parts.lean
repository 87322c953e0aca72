import EditableFields.Field.Shape
import Mathlib.Data.List.Basic

/-!
# Parts of fields

A field is made of fields, in a list or in slots, and what is done to it is done to all of them or
to one. Here the recursions over parts are said with the functions of lists, so that facts about a
field follow from the same facts about its parts (`Field.induction`).
-/

namespace EditableFields

/-- Replaces the field in a slot. -/
def Slot.map {φ ψ : Type} (g : φ → ψ) (s : Slot φ) : Slot ψ :=
  ⟨s.tag, s.accepts, g s.field⟩

namespace Field

/-- What follows for a field from its parts holds of every field. -/
@[elab_as_elim, induction_eliminator]
theorem induction {P : Field → Prop}
    (leaf : ∀ h kind options value, P (.leaf h kind options value))
    (fixed : ∀ h value, P (.fixed h value))
    (combined : ∀ h combine split children, (∀ f ∈ children, P f) →
      P (.combined h combine split children))
    (polymorphic : ∀ h first selected slots, (∀ s ∈ slots, P s.field) →
      P (.polymorphic h first selected slots))
    (nullable : ∀ h present inner, P inner → P (.nullable h present inner))
    (transform : ∀ h down up inner, P inner → P (.transform h down up inner))
    (f : Field) : P f :=
  @Field.rec P (fun fs => ∀ f ∈ fs, P f) (fun slots => ∀ s ∈ slots, P s.field)
    (fun s => P s.field) leaf fixed combined polymorphic nullable transform
    (List.forall_mem_nil _) (fun _ _ hf hfs => List.forall_mem_cons.2 ⟨hf, hfs⟩)
    (List.forall_mem_nil _) (fun _ _ hs hslots => List.forall_mem_cons.2 ⟨hs, hslots⟩)
    (fun _ _ _ hf => hf) f

/-! ## Values and shapes -/

theorem values_eq_map (fs : List Field) : values fs = fs.map value := by
  induction fs with
  | nil => rfl
  | cons f fs ih => rw [values, ih, List.map_cons]

theorem slotValue?_eq (slots : List (Slot Field)) (i : Nat) :
    slotValue? slots i = slots[i]?.map (·.field.value) := by
  induction slots generalizing i with
  | nil => rfl
  | cons s slots ih =>
    cases i with
    | zero => rfl
    | succ i => rw [slotValue?, ih, List.getElem?_cons_succ]

theorem shapes_eq_map (fs : List Field) : shapes fs = fs.map shape := by
  induction fs with
  | nil => rfl
  | cons f fs ih => rw [shapes, ih, List.map_cons]

theorem slotShapes_eq_map (slots : List (Slot Field)) :
    slotShapes slots = slots.map (·.field.shape) := by
  induction slots with
  | nil => rfl
  | cons s slots ih => rw [slotShapes, ih, List.map_cons]

/-! ## Setting and resetting -/

theorem setAll_fst (part : Nat → Value) (i : Nat) (fs : List Field) :
    (setAll part i fs).1 = fs.mapIdx fun j f => (f.set (part (i + j))).1 := by
  induction fs generalizing i with
  | nil => rfl
  | cons f fs ih =>
    simp only [setAll, ih, List.mapIdx_cons, Nat.add_zero]
    simp only [Nat.add_assoc, Nat.add_comm 1]

theorem setSlot_fst (v : Value) (i : Nat) (slots : List (Slot Field)) :
    (setSlot v i slots).1 = slots.modify i (·.map fun f => (f.set v).1) := by
  induction slots generalizing i with
  | nil => cases i <;> rfl
  | cons s slots ih =>
    cases i with
    | zero => rfl
    | succ i => simp only [setSlot, List.modify_succ_cons, ih]

theorem resetAll_fst (fs : List Field) : (resetAll fs).1 = fs.map fun f => f.reset.1 := by
  induction fs with
  | nil => rfl
  | cons f fs ih => simp only [resetAll, ih, List.map_cons]

theorem resetSlots_fst (slots : List (Slot Field)) :
    (resetSlots slots).1 = slots.map (·.map fun f => f.reset.1) := by
  induction slots with
  | nil => rfl
  | cons s slots ih => simp only [resetSlots, ih, List.map_cons, Slot.map]

theorem resetSlot_fst (i : Nat) (slots : List (Slot Field)) :
    (resetSlot i slots).1 = slots.modify i (·.map fun f => f.reset.1) := by
  induction slots generalizing i with
  | nil => cases i <;> rfl
  | cons s slots ih =>
    cases i with
    | zero => rfl
    | succ i => simp only [resetSlot, List.modify_succ_cons, ih]

/-! ## What changes of parts keep -/

section Keep

variable {α β : Type} {g : α → β}

/-- Changing a part at its place is changing the part at that place. -/
theorem set_eq_modify {l : List α} {i : Nat} {a : α} (h : l[i]? = some a) (change : α → α) :
    l.set i (change a) = l.modify i change := by
  rw [List.modify_eq_set_getElem?, h]
  rfl

theorem map_modify_of_forall {change : α → α} {l : List α} (h : ∀ a ∈ l, g (change a) = g a)
    (i : Nat) : (l.modify i change).map g = l.map g := by
  refine List.ext_getElem (by simp) fun j _ hj => ?_
  rw [List.length_map] at hj
  rw [List.getElem_map, List.getElem_map, List.getElem_modify]
  split
  · exact h _ (List.getElem_mem hj)
  · rfl

theorem map_setAll {g : Field → β} {fs : List Field} (h : ∀ f ∈ fs, ∀ v, g (f.set v).1 = g f)
    (part : Nat → Value) (i : Nat) : (setAll part i fs).1.map g = fs.map g := by
  rw [setAll_fst]
  refine List.ext_getElem (by simp) fun j _ hj => ?_
  rw [List.length_map] at hj
  rw [List.getElem_map, List.getElem_map, List.getElem_mapIdx]
  exact h _ (List.getElem_mem hj) _

end Keep

end Field

end EditableFields
