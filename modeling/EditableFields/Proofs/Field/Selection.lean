import EditableFields.Proofs.Field.Reset

/-!
# Fields: which variant is live

`Turn` says once what an operation can do to a sum: which variant is live after it, and what became
of the slots. Everything about sums is proved by its cases, first of all that the live variant is
one of the variants (`InRange.after`).
-/

namespace EditableFields

namespace Field

/-- What an operation on a sum does to which variant is live and to the slots. -/
inductive Turn (first selected : Nat) (slots : List (Slot Field)) :
    Operation → Nat → List (Slot Field) → Prop where
  /-- Any operation may do nothing, but an edit only if there is no live variant. -/
  | stay {op} (idle : ∀ edits, op = .editActive edits → slots[selected]? = none) :
    Turn first selected slots op selected slots
  | set {v i} (accepting : accepting? slots v = some i) :
    Turn first selected slots (.set v) i (slots.modify i (·.map fun f => (f.set v).1))
  | reset : Turn first selected slots .reset first (slots.map (·.map fun f => f.reset.1))
  | select {tag i} (named : slots.findIdx? (·.tag == tag) = some i) (other : i ≠ selected) :
    Turn first selected slots (.selectVariant tag) i
      (slots.modify i (·.map fun f => f.reset.1))
  | edit {edits s} (live : slots[selected]? = some s) :
    Turn first selected slots (.editActive edits) selected
      (slots.modify selected (·.map (·.after edits)))

/-- What an operation makes of a sum is a sum again. -/
theorem run_polymorphic (op : Operation) (h : Header) (first selected : Nat)
    (slots : List (Slot Field)) :
    ∃ h' selected' slots', (op.run (polymorphic h first selected slots)).1 =
        polymorphic h' first selected' slots' ∧
      Turn first selected slots op selected' slots' := by
  have stay {op : Operation} (hop : ∀ edits, op ≠ .editActive edits) :
      Turn first selected slots op selected slots :=
    .stay fun edits heq => absurd heq (hop edits)
  cases op with
  | set v =>
    rw [Operation.run, Field.set]
    split
    · exact ⟨h, selected, slots, rfl, stay (by simp)⟩
    · rename_i i haccepting
      exact ⟨h, i, _, by simp only [announce, setSlot_fst], .set haccepting⟩
  | reset =>
    exact ⟨h, first, _, by simp only [Operation.run, Field.reset, announce, resetSlots_fst], .reset⟩
  | subscribe observer => exact ⟨_, selected, slots, rfl, stay (by simp)⟩
  | unsubscribe id => exact ⟨_, selected, slots, rfl, stay (by simp)⟩
  | select i => exact ⟨h, selected, slots, rfl, stay (by simp)⟩
  | selectVariant tag =>
    rw [Operation.run, Field.selectVariant]
    split
    · exact ⟨h, selected, slots, rfl, stay (by simp)⟩
    · rename_i i hnamed
      split
      · exact ⟨h, selected, slots, rfl, stay (by simp)⟩
      · rename_i hother
        exact ⟨h, i, _, by simp only [unlessRefused, announce, resetSlot_fst],
          .select hnamed hother⟩
  | setPresent present => exact ⟨h, selected, slots, rfl, stay (by simp)⟩
  | editChildren edits => exact ⟨h, selected, slots, rfl, stay (by simp)⟩
  | editActive edits =>
    rw [Operation.run, Field.editActive]
    split
    · rename_i hnone
      exact ⟨h, selected, slots, rfl, .stay fun _ _ => hnone⟩
    · rename_i s hs
      refine ⟨h, selected, _, ?_, .edit hs⟩
      rw [← set_eq_modify hs]
      rfl
  | editInner edits => exact ⟨h, selected, slots, rfl, stay (by simp)⟩

/-- The live variant is one of the variants, if there are any, and so is the one live at first. -/
def InRange : Field → Prop
  | polymorphic _ first selected slots =>
    slots ≠ [] → first < slots.length ∧ selected < slots.length
  | _ => True

theorem Turn.inRange {first selected selected' : Nat} {slots slots' : List (Slot Field)}
    {op : Operation} (turn : Turn first selected slots op selected' slots') {h h' : Header}
    (hrange : (polymorphic h first selected slots).InRange) :
    (polymorphic h' first selected' slots').InRange := by
  intro hne
  have hlength : slots'.length = slots.length := by cases turn <;> simp
  have hne' : slots ≠ [] := by
    rintro rfl
    exact hne (List.eq_nil_of_length_eq_zero hlength)
  obtain ⟨hfirst, hselected⟩ := hrange hne'
  rw [hlength]
  refine ⟨hfirst, ?_⟩
  cases turn with
  | stay | edit => exact hselected
  | set accepting => exact (List.findIdx?_eq_some_iff_getElem.1 accepting).1
  | reset => exact hfirst
  | select named => exact (List.findIdx?_eq_some_iff_getElem.1 named).1

/-- What is made as a sum is made so is a sum with the same variants. -/
theorem eq_polymorphic_of_asMade {f : Field} {h : Header} {first selected : Nat}
    {slots : List (Slot Field)} (heq : f.asMade = (polymorphic h first selected slots).asMade) :
    ∃ h' selected' slots', f = polymorphic h' first selected' slots' ∧
      slots'.map (·.map asMade) = slots.map (·.map asMade) := by
  rw [asMade_polymorphic] at heq
  cases f with
  | polymorphic h' first' selected' slots' =>
    rw [asMade_polymorphic] at heq
    obtain ⟨-, rfl, -, hslots⟩ := polymorphic.inj heq
    exact ⟨h', selected', slots', rfl, hslots⟩
  | combined => rw [asMade_combined] at heq; cases heq
  | _ => cases heq

theorem InRange.run {f : Field} (hrange : f.InRange) (op : Operation) : (op.run f).1.InRange := by
  cases hg : (op.run f).1 with
  | polymorphic h first selected slots =>
    have hmade : f.asMade = (polymorphic h first selected slots).asMade := by
      rw [← hg, Operation.asMade_run]
    obtain ⟨h₀, selected₀, slots₀, rfl, -⟩ := eq_polymorphic_of_asMade hmade
    obtain ⟨h', selected', slots', heq, turn⟩ := run_polymorphic op h₀ first selected₀ slots₀
    rw [hg] at heq
    obtain ⟨rfl, -, rfl, rfl⟩ := polymorphic.inj heq
    exact turn.inRange hrange
  | _ => trivial

theorem InRange.after {f : Field} (hrange : f.InRange) (ops : List Operation) :
    (f.after ops).InRange := by
  induction ops generalizing f with
  | nil => exact hrange
  | cons op ops ih => exact ih (hrange.run op)

theorem makeSlots_eq (initial : Value) (selected i : Nat) (variants : List Variant) :
    FieldFactory.makeSlots initial selected i variants = variants.mapIdx fun j x =>
      ⟨x.tag, x.accepts, x.factory x.tag (if i + j = selected then initial else x.default)⟩ := by
  induction variants generalizing i with
  | nil => rfl
  | cons x variants ih =>
    rw [FieldFactory.makeSlots, ih, List.mapIdx_cons]
    simp only [Nat.add_zero, Nat.add_assoc, Nat.add_comm 1]

theorem inRange_sum (variants : List Variant) (label : String) (v : Value) :
    (FieldFactory.sum variants label v).InRange := by
  intro hne
  rw [makeSlots_eq] at hne ⊢
  rw [List.length_mapIdx, and_self]
  have hpos : 0 < variants.length := List.length_pos_of_ne_nil (by simpa using hne)
  cases hfind : variants.findIdx? (·.accepts v) with
  | none => exact hpos
  | some i => exact (List.findIdx?_eq_some_iff_getElem.1 hfind).1

theorem Created.inRange {f : Field} (created : f.Created) : f.InRange := by
  cases created with
  | sum => exact inRange_sum _ _ _
  | _ => trivial

end Field

end EditableFields
