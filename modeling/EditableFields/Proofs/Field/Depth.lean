import EditableFields.Proofs.Field.Presence
import EditableFields.Proofs.Field.Selection

/-!
# Fields: at every depth

Whatever is done to a field, what happens to the fields it is made of is that operations are done to
them (`stemsFrom_after`). So what no operations take from a field they take from no field in it
either: it stays true of it and of all that it is made of, at every depth (`Everywhere.after`).
-/

namespace EditableFields

namespace Field

/-- The fields that a field is made of. -/
def parts : Field → List Field
  | leaf .. | fixed .. => []
  | combined _ _ _ children => children
  | polymorphic _ _ _ slots => slots.map (·.field)
  | nullable _ _ inner => [inner]
  | transform _ _ _ inner => [inner]

theorem parts_asMade (f : Field) : f.asMade.parts = f.parts.map asMade := by
  cases f with
  | leaf | fixed | nullable | transform => rfl
  | combined h combine split children => rw [asMade_combined, parts, parts]
  | polymorphic h first selected slots =>
    rw [asMade_polymorphic, parts, parts, List.map_map, List.map_map]
    rfl

theorem children_shape (f : Field) : f.shape.children = f.parts.map shape := by
  cases f with
  | leaf | fixed | nullable | transform => rfl
  | combined h combine split children =>
    rw [shape, FieldShape.children, shapes_eq_map, parts]
  | polymorphic h first selected slots =>
    rw [shape, FieldShape.children, slotShapes_eq_map, parts, List.map_map]
    rfl

/-! ## Operations reach parts as operations -/

/-- The field is what operations make of one of these fields. -/
def StemsFrom (fs : List Field) (g : Field) : Prop :=
  ∃ f ∈ fs, ∃ ops, f.after ops = g

theorem stemsFrom_of_mem {fs : List Field} {g : Field} (hg : g ∈ fs) : StemsFrom fs g :=
  ⟨g, hg, [], rfl⟩

theorem StemsFrom.trans {fs gs : List Field} {g : Field} (h : StemsFrom gs g)
    (hgs : ∀ g ∈ gs, StemsFrom fs g) : StemsFrom fs g := by
  obtain ⟨f, hf, ops, rfl⟩ := h
  obtain ⟨e, he, before, rfl⟩ := hgs f hf
  exact ⟨e, he, before ++ ops, e.after_append before ops⟩

theorem stemsFrom_setAll (part : Nat → Value) (i : Nat) (fs : List Field) :
    ∀ g ∈ (setAll part i fs).1, StemsFrom fs g := by
  intro g hg
  rw [setAll_fst, List.mem_mapIdx] at hg
  obtain ⟨j, hj, rfl⟩ := hg
  exact ⟨fs[j], List.getElem_mem hj, [.set (part (i + j))], rfl⟩

theorem stemsFrom_resetAll (fs : List Field) : ∀ g ∈ (resetAll fs).1, StemsFrom fs g := by
  intro g hg
  rw [resetAll_fst] at hg
  obtain ⟨f, hf, rfl⟩ := List.mem_map.1 hg
  exact ⟨f, hf, [.reset], rfl⟩

theorem stemsFrom_set {fs : List Field} {i : Nat} {f : Field} (hf : fs[i]? = some f)
    (op : Operation) : ∀ g ∈ fs.set i (op.run f).1, StemsFrom fs g := by
  intro g hg
  rcases List.mem_or_eq_of_mem_set hg with hg | rfl
  · exact stemsFrom_of_mem hg
  · exact ⟨f, List.mem_of_getElem? hf, [op], rfl⟩

theorem stemsFrom_runEach (edits : List (Nat × Operation)) (fs : List Field) :
    ∀ g ∈ (Operation.runEach edits fs).1, StemsFrom fs g := by
  induction edits generalizing fs with
  | nil =>
    intro g hg
    exact stemsFrom_of_mem (by simpa only [Operation.runEach] using hg)
  | cons edit edits ih =>
    obtain ⟨i, op⟩ := edit
    rw [Operation.runEach]
    split
    · exact ih fs
    · rename_i f hf
      intro g hg
      exact (ih _ g hg).trans (stemsFrom_set hf op)

/-- The fields in slots of which one is changed as by operations. -/
theorem stemsFrom_modify {slots : List (Slot Field)} {change : Field → Field}
    (h : ∀ f, ∃ ops : List Operation, f.after ops = change f) (i : Nat) :
    ∀ g ∈ (slots.modify i (·.map change)).map (·.field), StemsFrom (slots.map (·.field)) g := by
  intro g hg
  obtain ⟨s, hs, rfl⟩ := List.mem_map.1 hg
  obtain ⟨j, hj, rfl⟩ := List.getElem_of_mem hs
  rw [List.length_modify] at hj
  rw [List.getElem_modify]
  split
  · obtain ⟨ops, hops⟩ := h slots[j].field
    exact ⟨_, List.mem_map_of_mem (List.getElem_mem hj), ops, hops⟩
  · exact stemsFrom_of_mem (List.mem_map_of_mem (List.getElem_mem hj))

theorem Turn.stemsFrom {first selected selected' : Nat} {slots slots' : List (Slot Field)}
    {op : Operation} (turn : Turn first selected slots op selected' slots') :
    ∀ g ∈ slots'.map (·.field), StemsFrom (slots.map (·.field)) g := by
  cases turn with
  | stay => exact fun g => stemsFrom_of_mem
  | @set v => exact stemsFrom_modify (fun f => ⟨[.set v], rfl⟩) _
  | reset =>
    intro g hg
    rw [List.map_map] at hg
    obtain ⟨s, hs, rfl⟩ := List.mem_map.1 hg
    exact ⟨s.field, List.mem_map_of_mem hs, [.reset], rfl⟩
  | select => exact stemsFrom_modify (fun f => ⟨[.reset], rfl⟩) _
  | @edit edits => exact stemsFrom_modify (fun f => ⟨edits, rfl⟩) _

/-- A field that is made of no fields stays so. -/
theorem parts_run_eq_nil {f : Field} (h : f.parts = []) (op : Operation) :
    (op.run f).1.parts = [] := by
  have hmade : (op.run f).1.asMade.parts = f.asMade.parts := by rw [Operation.asMade_run]
  rw [parts_asMade, parts_asMade, h] at hmade
  exact List.map_eq_nil_iff.1 hmade

theorem stemsFrom_run (op : Operation) (f : Field) :
    ∀ g ∈ (op.run f).1.parts, StemsFrom f.parts g := by
  have keep {f : Field} : ∀ g ∈ f.parts, StemsFrom f.parts g := fun g => stemsFrom_of_mem
  have inside {inner : Field} (ops : List Operation) :
      ∀ g ∈ [inner.after ops], StemsFrom [inner] g := by
    intro g hg
    exact ⟨inner, List.mem_singleton_self _, ops, (List.mem_singleton.1 hg).symm⟩
  cases f with
  | leaf | fixed =>
    intro g hg
    rw [parts_run_eq_nil rfl] at hg
    cases hg
  | combined h combine split children =>
    cases op with
    | set v => exact stemsFrom_setAll (split v) 0 children
    | reset => exact stemsFrom_resetAll children
    | editChildren edits => exact stemsFrom_runEach edits children
    | _ => exact keep
  | polymorphic h first selected slots =>
    obtain ⟨h', selected', slots', heq, turn⟩ := run_polymorphic op h first selected slots
    rw [heq]
    exact turn.stemsFrom
  | nullable h now inner =>
    obtain ⟨h', -, heq⟩ := op.run_nullable h now inner
    rw [heq]
    exact inside op.projected
  | transform h down up inner =>
    cases op with
    | set v => exact inside [.set (down v)]
    | reset => exact inside [.reset]
    | editInner edits => exact inside edits
    | _ => exact keep

/-- Whatever is done to a field, what it is made of stems from what it was made of. -/
theorem stemsFrom_after (ops : List Operation) (f : Field) :
    ∀ g ∈ (f.after ops).parts, StemsFrom f.parts g := by
  induction ops generalizing f with
  | nil => exact fun g => stemsFrom_of_mem
  | cons op ops ih =>
    intro g hg
    exact (ih (op.run f).1 g hg).trans (stemsFrom_run op f)

/-! ## What holds everywhere -/

/-- This is so of a field, and of all that it is made of, at every depth. -/
inductive Everywhere (P : Field → Prop) : Field → Prop where
  | intro {f} (here : P f) (parts : ∀ g ∈ f.parts, Everywhere P g) : Everywhere P f

/-- What no operations take from a field they take from none at any depth. -/
theorem Everywhere.after {P : Field → Prop} (keep : ∀ f ops, P f → P (f.after ops)) {f : Field}
    (h : f.Everywhere P) (ops : List Operation) : (f.after ops).Everywhere P := by
  induction h generalizing ops with
  | intro here _ ih =>
    refine .intro (keep _ ops here) fun g hg => ?_
    obtain ⟨p, hp, edits, rfl⟩ := stemsFrom_after ops _ g hg
    exact ih p hp edits

end Field

end EditableFields
