import EditableFields.Field.Factory
import EditableFields.Proofs.Field.Operation
import EditableFields.Proofs.Field.Parts

/-!
# Fields: what they were made as

However a field is changed, it can be brought back to what it was made as. `unobserved` leaves
observers aside, everywhere in a field, and `asMade` is what reset then gives: every value and
selection is the first one again. No operation changes what a field was made as (`asMade_run`), and
so no run of operations does (`asMade_after`). What depends on that only, such as which values a
field can be set to or which variants it has, is therefore settled once and for all.
-/

namespace EditableFields

/-- The same without observers. -/
def Header.unobserved (h : Header) : Header :=
  .fresh h.label h.initial

namespace Field

mutual

/-- The same field, with no observers of it and of what it is made of. -/
def unobserved : Field → Field
  | leaf h kind options value => leaf h.unobserved kind options value
  | fixed h value => fixed h.unobserved value
  | combined h combine split children =>
    combined h.unobserved combine split (allUnobserved children)
  | polymorphic h first selected slots =>
    polymorphic h.unobserved first selected (slotsUnobserved slots)
  | nullable h present inner => nullable h.unobserved present inner.unobserved
  | transform h down up inner => transform h.unobserved down up inner.unobserved

def allUnobserved : List Field → List Field
  | [] => []
  | f :: fs => f.unobserved :: allUnobserved fs

def slotsUnobserved : List (Slot Field) → List (Slot Field)
  | [] => []
  | ⟨tag, accepts, field⟩ :: slots => ⟨tag, accepts, field.unobserved⟩ :: slotsUnobserved slots

end

theorem allUnobserved_eq (fs : List Field) : allUnobserved fs = fs.map unobserved := by
  induction fs with
  | nil => rfl
  | cons f fs ih => rw [allUnobserved, ih, List.map_cons]

theorem slotsUnobserved_eq (slots : List (Slot Field)) :
    slotsUnobserved slots = slots.map (·.map unobserved) := by
  induction slots with
  | nil => rfl
  | cons s slots ih => rw [slotsUnobserved, ih, List.map_cons, Slot.map]

/-- The same field with other observers of it; those of what it is made of stay. -/
def observedBy (f : Field) (observers : Observers String) : Field :=
  f.withHeader { f.header with observers }

/-- The field as it was made: nothing set, selected or hidden since, and nobody observing. -/
def asMade (f : Field) : Field :=
  f.reset.1.unobserved

section

variable (h : Header)

theorem asMade_fixed (v : Value) : (fixed h v).asMade = fixed h.unobserved h.initial := rfl

theorem asMade_combined (combine : List Value → Value) (split : Value → Nat → Value)
    (children : List Field) :
    (combined h combine split children).asMade =
      combined h.unobserved combine split (children.map asMade) := by
  simp only [asMade, reset, announce, unobserved, allUnobserved_eq, resetAll_fst, List.map_map]
  rfl

theorem asMade_polymorphic (first selected : Nat) (slots : List (Slot Field)) :
    (polymorphic h first selected slots).asMade =
      polymorphic h.unobserved first first (slots.map (·.map asMade)) := by
  simp only [asMade, reset, announce, unobserved, slotsUnobserved_eq, resetSlots_fst, List.map_map]
  rfl

theorem asMade_nullable (present : Bool) (inner : Field) :
    (nullable h present inner).asMade =
      nullable h.unobserved h.initial.isPresent inner.asMade := rfl

theorem asMade_transform (down up : Value → Value) (inner : Field) :
    (transform h down up inner).asMade = transform h.unobserved down up inner.asMade := rfl

end

/-- What the fields in slots are made as is kept where it is kept of each field. -/
theorem map_asMade_modify {change : Field → Field} {slots : List (Slot Field)}
    (h : ∀ s ∈ slots, (change s.field).asMade = s.field.asMade) (i : Nat) :
    (slots.modify i (·.map change)).map (·.map asMade) = slots.map (·.map asMade) :=
  map_modify_of_forall (fun s hs => congrArg (Slot.mk s.tag s.accepts) (h s hs)) i

/-! ## Operations keep what a field is made as -/

theorem asMade_observedBy (f : Field) (observers : Observers String) :
    (f.observedBy observers).asMade = f.asMade := by
  cases f <;> rfl

theorem asMade_set (f : Field) (v : Value) : (f.set v).1.asMade = f.asMade := by
  induction f generalizing v with
  | leaf h kind options value => rfl
  | fixed h value => rfl
  | combined h combine split children ih =>
    simp only [set, announce, asMade_combined, map_setAll ih]
  | polymorphic h first selected slots ih =>
    rw [set]
    split
    · rfl
    · rename_i i _
      simp only [announce, asMade_polymorphic, setSlot_fst]
      rw [map_asMade_modify fun s hs => ih s hs v]
  | nullable h present inner ih =>
    cases v <;> simp only [set, announce, asMade_nullable, ih]
  | transform h down up inner ih =>
    simp only [set, announce, asMade_transform, ih]

theorem asMade_reset (f : Field) : f.reset.1.asMade = f.asMade := by
  induction f with
  | leaf h kind options value => rfl
  | fixed h value => rfl
  | combined h combine split children ih =>
    simp only [reset, announce, asMade_combined, resetAll_fst, List.map_map]
    exact congrArg _ (List.map_congr_left ih)
  | polymorphic h first selected slots ih =>
    simp only [reset, announce, asMade_polymorphic, resetSlots_fst, List.map_map]
    exact congrArg _ (List.map_congr_left fun s hs =>
      congrArg (Slot.mk s.tag s.accepts) (ih s hs))
  | nullable h present inner ih => simp only [reset, announce, asMade_nullable, ih]
  | transform h down up inner ih => simp only [reset, announce, asMade_transform, ih]

theorem asMade_select (f : Field) (i : Nat) :
    (f.unlessRefused (f.select i)).1.asMade = f.asMade := by
  cases f with
  | leaf h kind options value =>
    rw [select]
    split
    · rfl
    · split <;> rfl
  | _ => rfl

theorem asMade_selectVariant (f : Field) (tag : String) :
    (f.unlessRefused (f.selectVariant tag)).1.asMade = f.asMade := by
  cases f with
  | polymorphic h first selected slots =>
    rw [selectVariant]
    split
    · rfl
    · split
      · rfl
      · simp only [unlessRefused, announce, asMade_polymorphic, resetSlot_fst]
        rw [map_asMade_modify fun s _ => s.field.asMade_reset]
  | _ => rfl

theorem asMade_setPresent (f : Field) (present : Bool) :
    (f.setPresent present).1.asMade = f.asMade := by
  cases f with
  | nullable h now inner =>
    rw [setPresent]
    split <;> rfl
  | _ => rfl

theorem asMade_editChildren (f : Field) {edit : List Field → Edited (List Field) Unit}
    (h : ∀ fs, (edit fs).state.map asMade = fs.map asMade) :
    (f.unlessMissing (f.editChildren edit)).1.asMade = f.asMade := by
  cases f with
  | combined _ combine split children =>
    simp only [editChildren, unlessMissing, announce, asMade_combined, h]
  | _ => rfl

section

variable {edit : Field → Edited Field Unit} (h : ∀ g, (edit g).state.asMade = g.asMade)
include h

theorem asMade_editActive (f : Field) :
    (f.unlessMissing (f.editActive edit)).1.asMade = f.asMade := by
  cases f with
  | polymorphic _ first selected slots =>
    rw [editActive]
    split
    · rfl
    · rename_i s hs
      have kept : (slots.set selected (s.map fun g => (edit g).state)).map (·.map asMade) =
          slots.map (·.map asMade) := by
        rw [set_eq_modify hs (·.map fun g => (edit g).state),
          map_asMade_modify fun s _ => h s.field]
      simp only [unlessMissing, announce, asMade_polymorphic]
      exact congrArg _ kept
  | _ => rfl

theorem asMade_editInner (f : Field) :
    (f.unlessMissing (f.editInner edit)).1.asMade = f.asMade := by
  cases f with
  | nullable _ present inner =>
    simp only [editInner, unlessMissing, announce, asMade_nullable, h]
  | transform _ down up inner =>
    simp only [editInner, unlessMissing, announce, asMade_transform, h]
  | _ => rfl

end

end Field

namespace Operation

open EditableFields.Field

mutual

theorem asMade_run : ∀ (op : Operation) (f : Field), (op.run f).1.asMade = f.asMade
  | set v, f => by rw [run, asMade_set]
  | reset, f => by rw [run, asMade_reset]
  | subscribe observer, f => by
    rw [run]
    exact asMade_observedBy f _
  | unsubscribe id, f => by
    rw [run]
    exact asMade_observedBy f _
  | select i, f => by rw [run, asMade_select]
  | selectVariant tag, f => by rw [run, asMade_selectVariant]
  | setPresent present, f => by rw [run, asMade_setPresent]
  | editChildren edits, f => by
    rw [run]
    exact asMade_editChildren f fun fs => map_asMade_runEach edits fs
  | editActive edits, f => by
    rw [run]
    exact asMade_editActive (fun g => asMade_runAll edits g) f
  | editInner edits, f => by
    rw [run]
    exact asMade_editInner (fun g => asMade_runAll edits g) f

theorem asMade_runAll : ∀ (ops : List Operation) (f : Field),
    (runAll ops f).1.asMade = f.asMade
  | [], f => by rw [runAll]
  | op :: ops, f => by rw [runAll, asMade_runAll ops, asMade_run op]

theorem map_asMade_runEach : ∀ (edits : List (Nat × Operation)) (fs : List Field),
    (runEach edits fs).1.map asMade = fs.map asMade
  | [], fs => by rw [runEach]
  | (i, op) :: edits, fs => by
    rw [runEach]
    split
    · exact map_asMade_runEach edits fs
    · rename_i f hf
      rw [map_asMade_runEach edits, set_eq_modify hf fun f => (op.run f).1,
        map_modify_of_forall fun f _ => asMade_run op f]

end

end Operation

namespace Field

/-- Whatever is done to a field, it stays one that was made so. -/
theorem asMade_after (f : Field) (ops : List Operation) : (f.after ops).asMade = f.asMade :=
  Operation.asMade_runAll ops f

end Field

end EditableFields
