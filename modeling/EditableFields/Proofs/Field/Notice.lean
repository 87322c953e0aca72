import EditableFields.Proofs.Field.Selection

/-!
# Fields: calls of observers

An operation that changes a field calls its observers, each once and with the new value, after all
that it calls within the field (`Notifies`). The operations by which nothing changes are listed
(`Idle`), and they call nobody. Every operation on a created field is one or the other
(`notifies_unless_idle`): what a sum or a choice refuses, what is selected or shown already, what
no variant accepts, and an edit of no variant are the only ways to be idle.
-/

namespace EditableFields

open EditableFields.Field

namespace Operation

/-- What may be done to a field of a kind to change it. -/
inductive Suits : Operation → Field → Prop where
  | set {v f} : Suits (.set v) f
  | reset {f} : Suits .reset f
  | select {i h kind options v} : Suits (.select i) (.leaf h kind options v)
  | selectVariant {tag h first selected slots} :
    Suits (.selectVariant tag) (.polymorphic h first selected slots)
  | setPresent {present h now inner} : Suits (.setPresent present) (.nullable h now inner)
  | editChildren {edits h combine split children} :
    Suits (.editChildren edits) (.combined h combine split children)
  | editActive {edits h first selected slots} :
    Suits (.editActive edits) (.polymorphic h first selected slots)
  | editNullable {edits h now inner} : Suits (.editInner edits) (.nullable h now inner)
  | editTransform {edits h down up inner} : Suits (.editInner edits) (.transform h down up inner)

/-- The operations by which nothing changes. -/
inductive Idle : Operation → Field → Prop where
  | select {i f e} (refused : f.select i = .error e) : Idle (.select i) f
  | selectVariant {tag f e} (refused : f.selectVariant tag = .error e) :
    Idle (.selectVariant tag) f
  | live {tag h first selected slots} (live : slots.findIdx? (·.tag == tag) = some selected) :
    Idle (.selectVariant tag) (.polymorphic h first selected slots)
  | setPresent {h now inner} : Idle (.setPresent now) (.nullable h now inner)
  | set {v h first selected slots} (ignored : ∀ s ∈ slots, s.accepts v = false) :
    Idle (.set v) (.polymorphic h first selected slots)
  | editActive {edits h first selected} :
    Idle (.editActive edits) (.polymorphic h first selected [])

/-- The operation calls every observer of the field once, in the order of their subscriptions and
with the value after it. All else that it calls, it also calls if nobody observes the field. -/
def Notifies (op : Operation) (f : Field) : Prop :=
  (op.run f).2 =
    (op.run (f.observedBy .empty)).2 ++ f.header.observers.notify (op.run f).1.value

theorem notifies_of_announce {op : Operation} {f g : Field} {calls : List FieldCall}
    (h : op.run f = g.announce calls)
    (hempty : op.run (f.observedBy .empty) = (g.observedBy .empty).announce calls)
    (hobservers : g.header.observers = f.header.observers) : op.Notifies f := by
  have hcalls : ((g.observedBy .empty).announce calls).2 = calls := by
    cases g <;> exact List.append_nil _
  rw [Notifies, h, hempty, hcalls, announce, hobservers]

theorem run_of_idle {op : Operation} {f : Field} (idle : op.Idle f) : op.run f = (f, []) := by
  cases idle with
  | select refused => rw [run, refused, unlessRefused]
  | selectVariant refused => rw [run, refused, unlessRefused]
  | live live => simp only [run, Field.selectVariant, live, if_true, unlessRefused]
  | setPresent => simp only [run, Field.setPresent, if_true]
  | set ignored =>
    simp only [run, Field.set, accepting?, List.findIdx?_eq_none_iff.2 ignored]
  | editActive => rfl

section Changes

/-! The operations that may change nothing, where they do not. -/

variable (h : Header)

theorem notifies_set_sum {first selected : Nat} {slots : List (Slot Field)} {v : Value}
    (changes : ¬ (set v).Idle (polymorphic h first selected slots)) :
    (set v).Notifies (polymorphic h first selected slots) := by
  cases haccepting : accepting? slots v with
  | none => exact absurd (.set (List.findIdx?_eq_none_iff.1 haccepting)) changes
  | some i =>
    have run_eq (h : Header) : (set v).run (polymorphic h first selected slots) =
        (polymorphic h first i (setSlot v i slots).1).announce (setSlot v i slots).2 := by
      simp only [run, Field.set, haccepting]
    exact notifies_of_announce (run_eq h) (run_eq _) rfl

theorem notifies_select {kind : Primitive} {options : List Value} {v : Value} {i : Nat}
    (changes : ¬ (select i).Idle (leaf h kind options v)) :
    (select i).Notifies (leaf h kind options v) := by
  by_cases hempty : options.isEmpty = true
  · exact absurd (.select (if_pos hempty)) changes
  cases hoption : options[i]? with
  | none =>
    have refused : (leaf h kind options v).select i =
        .error (.optionOutOfRange h.label i options.length) := by
      rw [Field.select, if_neg hempty, hoption]
    exact absurd (.select refused) changes
  | some w =>
    have run_eq (h : Header) : (select i).run (leaf h kind options v) =
        (leaf h kind options w).announce [] := by
      rw [run, Field.select, if_neg hempty, hoption, unlessRefused]
    exact notifies_of_announce (run_eq h) (run_eq _) rfl

theorem notifies_selectVariant {first selected : Nat} {slots : List (Slot Field)} {tag : String}
    (changes : ¬ (selectVariant tag).Idle (polymorphic h first selected slots)) :
    (selectVariant tag).Notifies (polymorphic h first selected slots) := by
  cases hnamed : slots.findIdx? (·.tag == tag) with
  | none =>
    have refused : (polymorphic h first selected slots).selectVariant tag =
        .error (.unknownVariant h.label tag) := by
      rw [Field.selectVariant, hnamed]
    exact absurd (.selectVariant refused) changes
  | some i =>
    have hother : i ≠ selected := by
      rintro rfl
      exact changes (.live hnamed)
    have run_eq (h : Header) : (selectVariant tag).run (polymorphic h first selected slots) =
        (polymorphic h first i (resetSlot i slots).1).announce (resetSlot i slots).2 := by
      simp only [run, Field.selectVariant, hnamed, if_neg hother, unlessRefused]
    exact notifies_of_announce (run_eq h) (run_eq _) rfl

theorem notifies_setPresent {now present : Bool} {inner : Field}
    (changes : ¬ (setPresent present).Idle (nullable h now inner)) :
    (setPresent present).Notifies (nullable h now inner) := by
  have hother : now ≠ present := by
    rintro rfl
    exact changes .setPresent
  have run_eq (h : Header) : (setPresent present).run (nullable h now inner) =
      (nullable h present inner).announce [] := by
    rw [run, Field.setPresent, if_neg hother]
  exact notifies_of_announce (run_eq h) (run_eq _) rfl

theorem notifies_editActive {first selected : Nat} {slots : List (Slot Field)}
    {edits : List Operation} (hrange : (polymorphic h first selected slots).InRange)
    (changes : ¬ (editActive edits).Idle (polymorphic h first selected slots)) :
    (editActive edits).Notifies (polymorphic h first selected slots) := by
  have hne : slots ≠ [] := by
    rintro rfl
    exact changes .editActive
  obtain ⟨s, hs⟩ : ∃ s, slots[selected]? = some s :=
    ⟨_, List.getElem?_eq_getElem (hrange hne).2⟩
  have run_eq (h : Header) : (editActive edits).run (polymorphic h first selected slots) =
      (polymorphic h first selected (slots.set selected (s.map (·.after edits)))).announce
        (runAll edits s.field).2 := by
    rw [run, Field.editActive, hs]
    rfl
  exact notifies_of_announce (run_eq h) (run_eq _) rfl

end Changes

theorem notifies_of_not_idle {op : Operation} {f : Field} (hrange : f.InRange)
    (suits : op.Suits f) (changes : ¬ op.Idle f) : op.Notifies f := by
  cases suits with
  | @set v f =>
    cases f with
    | polymorphic h first selected slots => exact notifies_set_sum h changes
    | nullable h now inner => cases v <;> exact notifies_of_announce rfl rfl rfl
    | _ => exact notifies_of_announce rfl rfl rfl
  | reset => cases f <;> exact notifies_of_announce rfl rfl rfl
  | select => exact notifies_select _ changes
  | selectVariant => exact notifies_selectVariant _ changes
  | setPresent => exact notifies_setPresent _ changes
  | editActive => exact notifies_editActive _ hrange changes
  | editChildren | editNullable | editTransform => exact notifies_of_announce rfl rfl rfl

end Operation

/-- An operation on a created field, after whatever was done to it, either changes nothing and
calls nobody, which is so exactly of the idle ones, or calls every observer of the field once. -/
theorem Field.notifies_unless_idle {f : Field} (created : f.Created) (ops : List Operation)
    {op : Operation} (suits : op.Suits (f.after ops)) :
    (op.Idle (f.after ops) → op.run (f.after ops) = (f.after ops, [])) ∧
      (¬ op.Idle (f.after ops) → op.Notifies (f.after ops)) :=
  ⟨Operation.run_of_idle, Operation.notifies_of_not_idle (created.inRange.after ops) suits⟩

namespace Field

/-- A field of a way of contact. -/
def contact : Field :=
  contactRecipe.factory "contact" (.tagged "None" [])

/-- Two observe the field, and one the address in it, once that is what it is. -/
def contactEdits : List Operation :=
  [.subscribe "form", .subscribe "log", .selectVariant "Mail",
    .editActive [.editChildren [(0, .subscribe "address")]]]

/-- Gives the address. -/
def addressEdit : Operation :=
  .editActive [.editChildren [(0, .set (.text "eve@home"))]]

/-- Selecting what is live calls nobody. An edit of the address calls who observes the address, and
then all who observe the field. -/
theorem notifies_unless_idle_contact :
    contact.Created ∧
      (Operation.selectVariant "Mail").Suits (contact.after contactEdits) ∧
      (Operation.selectVariant "Mail").run (contact.after contactEdits) =
        (contact.after contactEdits, []) ∧
      addressEdit.Suits (contact.after contactEdits) ∧
      addressEdit.Notifies (contact.after contactEdits) ∧
      (addressEdit.run (contact.after contactEdits)).2 =
        [⟨"address", .text "eve@home"⟩, ⟨"form", .tagged "Mail" [.text "eve@home"]⟩,
          ⟨"log", .tagged "Mail" [.text "eve@home"]⟩] := by
  have created : contact.Created := Recipe.created _ _ _
  refine ⟨created, .selectVariant, ?_, .editActive, ?_, rfl⟩
  · exact (notifies_unless_idle created contactEdits .selectVariant).1 (.live rfl)
  · exact (notifies_unless_idle created contactEdits .editActive).2 nofun

end Field

end EditableFields
