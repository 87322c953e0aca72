import EditableFields.Field.Recipe
import EditableFields.Proofs.Field.Selection
import Mathlib.Data.List.Induction

/-!
# Fields: sums of constants and products

The variants of generated sums are constants and products, and a product makes values of its own
variant only (`Variant.Generated`). Whatever is done to such a field, the variant that is live
accepts its value: by setting, selecting and resetting always, and by an edit of the live field
unless that is a constant and is left at a value of another variant. Nothing stops the latter
(`exists_edit_off_variant`), so the variant and the value of a field stay together exactly as long
as it does not happen (`onVariant_iff_heeds`).
-/

namespace EditableFields

/-- A variant as generated code declares it: a constant, or a product that makes values of the
variant only. It accepts its own default. -/
inductive Variant.Generated : Variant → Prop where
  | constant {tag accepts default} (own : accepts default = true) :
    Generated ⟨tag, accepts, .fixed, default⟩
  | product {tag accepts members combine split default} (own : accepts default = true)
    (makes : ∀ parts : List Value, parts.length = members.length →
      accepts (combine parts) = true) :
    Generated ⟨tag, accepts, .product members combine split, default⟩

theorem Variant.Generated.own {x : Variant} (generated : x.Generated) :
    x.accepts x.default = true := by
  cases generated with
  | constant own => exact own
  | product own => exact own

namespace Field

/-- A field of a generated variant: a constant that was made with a value of the variant, or a
product that makes such values only. -/
inductive Serves (accepts : Value → Bool) : Field → Prop where
  | constant {h v} (own : accepts h.initial = true) : Serves accepts (.fixed h v)
  | product {h combine split children}
    (makes : ∀ parts : List Value, parts.length = children.length →
      accepts (combine parts) = true) :
    Serves accepts (.combined h combine split children)

namespace Serves

variable {accepts : Value → Bool} {f g : Field}

/-- Whom a field serves is settled when it is made. -/
theorem of_asMade (serves : Serves accepts f) (heq : g.asMade = f.asMade) : Serves accepts g := by
  cases serves with
  | @constant h v own =>
    cases g with
    | fixed h' w =>
      rw [asMade_fixed, asMade_fixed] at heq
      obtain ⟨-, hinitial⟩ := fixed.inj heq
      exact .constant (by rwa [hinitial])
    | _ => cases heq
  | @product h combine split children makes =>
    cases g with
    | combined h' combine' split' children' =>
      rw [asMade_combined, asMade_combined] at heq
      obtain ⟨-, rfl, -, hchildren⟩ := combined.inj heq
      have hlength : children'.length = children.length := by
        simpa using congrArg List.length hchildren
      exact .product (by rwa [hlength])
    | _ => cases heq

/-- A product has a value of its variant, and so has a constant that is at one. -/
theorem accepts_value (serves : Serves accepts f)
    (constant : ∀ h v, f = .fixed h v → accepts v = true) : accepts f.value = true := by
  cases serves with
  | constant => exact constant _ _ rfl
  | product makes =>
    rw [value, values_eq_map]
    exact makes _ (List.length_map _)

theorem accepts_reset (serves : Serves accepts f) : accepts f.reset.1.value = true := by
  cases serves with
  | constant own => exact own
  | product makes =>
    exact ((product makes).of_asMade (asMade_reset _)).accepts_value fun _ _ heq => by cases heq

theorem accepts_set (serves : Serves accepts f) {v : Value} (hv : accepts v = true) :
    accepts (f.set v).1.value = true := by
  cases serves with
  | constant => exact hv
  | product makes =>
    exact ((product makes).of_asMade (asMade_set _ v)).accepts_value fun _ _ heq => by cases heq

end Serves

end Field

/-! ## Edits of constants -/

namespace Operation

open EditableFields.Field

/-- The value that operations leave a constant at, if they set it and do not reset it after. -/
def lastSet? (ops : List Operation) : Option Value :=
  ops.foldl (fun last op => match op with | set v => some v | reset => none | _ => last) none

theorem lastSet?_concat (ops : List Operation) (op : Operation) :
    lastSet? (ops ++ [op]) =
      match op with | set v => some v | reset => none | _ => lastSet? ops := by
  rw [lastSet?, List.foldl_append]
  rfl

theorem run_fixed (op : Operation) (h : Header) (w : Value) :
    ∃ h', h'.initial = h.initial ∧ (op.run (fixed h w)).1 =
      fixed h' (match op with | set v => v | reset => h.initial | _ => w) := by
  cases op <;> exact ⟨_, by rfl, rfl⟩

/-- Operations leave a constant at the value they set it to, and else where it was or at the value
it was made with. -/
theorem fixed_after (ops : List Operation) (h : Header) (w : Value) :
    ∃ h' v, h'.initial = h.initial ∧ (fixed h w).after ops = fixed h' v ∧
      (v ∈ lastSet? ops ∨ lastSet? ops = none ∧ (v = w ∨ v = h.initial)) := by
  -- On how many operations have been done; each case is about the last of them.
  induction ops using List.reverseRecOn with
  | nil => exact ⟨h, w, rfl, rfl, .inr ⟨rfl, .inl rfl⟩⟩
  | append_singleton ops op ih =>
    obtain ⟨h', v, hinitial, hafter, hv⟩ := ih
    obtain ⟨h'', hinitial', hrun⟩ := op.run_fixed h' v
    rw [after_concat, hafter, hrun, lastSet?_concat]
    refine ⟨h'', _, hinitial'.trans hinitial, rfl, ?_⟩
    cases op with
    | set u => exact .inl rfl
    | reset => exact .inr ⟨rfl, .inr hinitial⟩
    | _ => exact hv

/-- An edit that sets the field of a live constant leaves it at a value of its variant. -/
def Heeds (op : Operation) (f : Field) : Prop :=
  ∀ edits s h w v, op = editActive edits → f.liveSlot? = some s → s.field = fixed h w →
    lastSet? edits = some v → s.accepts v = true

theorem heeds_editActive_iff {edits : List Operation} {f : Field} {s : Slot Field}
    (live : f.liveSlot? = some s) : (editActive edits).Heeds f ↔
      ∀ h w v, s.field = fixed h w → lastSet? edits = some v → s.accepts v = true := by
  constructor
  · intro heeds h w v
    exact heeds edits s h w v rfl live
  · intro heeds edits' s' h w v heq live'
    obtain rfl := editActive.inj heq
    obtain rfl := Option.some.inj (live.symm.trans live')
    exact heeds h w v

theorem heeds_of_ne {op : Operation} {f : Field} (hop : ∀ edits, op ≠ editActive edits) :
    op.Heeds f :=
  fun edits _ _ _ _ heq _ _ _ => absurd heq (hop edits)

end Operation

namespace Field

/-! ## The live variant -/

/-- The variant that is live accepts the value of the field. -/
def OnVariant (f : Field) : Prop :=
  ∃ s, f.liveSlot? = some s ∧ s.accepts f.value = true

section

variable {h : Header} {first selected : Nat} {slots : List (Slot Field)}

theorem onVariant_polymorphic_iff : (polymorphic h first selected slots).OnVariant ↔
    ∃ s, slots[selected]? = some s ∧ s.accepts s.field.value = true := by
  refine exists_congr fun s => and_congr_right fun hs => ?_
  rw [value, slotValue?_eq, show slots[selected]? = some s from hs]
  rfl

theorem onVariant_modify {change : Field → Field} {i : Nat} {s : Slot Field}
    (hs : slots[i]? = some s) :
    (polymorphic h first i (slots.modify i (·.map change))).OnVariant ↔
      s.accepts (change s.field).value = true := by
  simp [onVariant_polymorphic_iff, hs, Slot.map]

/-- A constant is at a value of its variant after an edit exactly if it was not set to another. -/
theorem accepts_fixed_after_iff {accepts : Value → Bool} {w : Value}
    (own : accepts h.initial = true) (accepted : accepts w = true) (edits : List Operation) :
    accepts ((fixed h w).after edits).value = true ↔
      ∀ v, Operation.lastSet? edits = some v → accepts v = true := by
  obtain ⟨h', v, -, hafter, hv⟩ := Operation.fixed_after edits h w
  rw [hafter, value]
  rcases hv with hlast | ⟨hnone, rfl | rfl⟩
  · constructor
    · intro haccepts u hu
      obtain rfl : v = u := Option.some.inj (hlast.symm.trans hu)
      exact haccepts
    · exact fun heeds => heeds v hlast
  · simp [hnone, accepted]
  · simp [hnone, own]

/-- If the live variant accepts the value of the field, an edit of it leads to a value that it
accepts exactly if no constant is left at another. -/
theorem accepts_after_iff (edits : List Operation) {s : Slot Field}
    (hs : slots[selected]? = some s) (serves : Serves s.accepts s.field)
    (accepted : s.accepts s.field.value = true) :
    s.accepts (s.field.after edits).value = true ↔
      (Operation.editActive edits).Heeds (polymorphic h first selected slots) := by
  have hlive : (polymorphic h first selected slots).liveSlot? = some s := hs
  rw [Operation.heeds_editActive_iff hlive]
  obtain ⟨tag, accepts, field⟩ := s
  cases serves with
  | constant own =>
    refine (accepts_fixed_after_iff own accepted edits).trans ?_
    constructor
    · rintro heeds h' w' v - hlast
      exact heeds v hlast
    · exact fun heeds v hlast => heeds _ _ v rfl hlast
  | @product h combine split children makes =>
    have hmade := asMade_after (combined h combine split children) edits
    refine iff_of_true ?_ nofun
    refine ((Serves.product makes).of_asMade hmade).accepts_value fun h' v hfixed => ?_
    rw [hfixed, asMade_combined] at hmade
    cases hmade

/-- If the live variant accepts the value of a field, it does so after an operation exactly if
that is not an edit by which a constant leaves its variant. -/
theorem onVariant_run_iff (op : Operation) (hrange : (polymorphic h first selected slots).InRange)
    (serves : ∀ s ∈ slots, Serves s.accepts s.field)
    (on : (polymorphic h first selected slots).OnVariant) :
    (op.run (polymorphic h first selected slots)).1.OnVariant ↔
      op.Heeds (polymorphic h first selected slots) := by
  obtain ⟨h', selected', slots', heq, turn⟩ := run_polymorphic op h first selected slots
  obtain ⟨s, hs, accepted⟩ := onVariant_polymorphic_iff.1 on
  rw [heq]
  cases turn with
  | stay idle =>
    refine iff_of_true (onVariant_polymorphic_iff.2 ⟨s, hs, accepted⟩) ?_
    rintro edits - - - - hop - - -
    rw [idle edits hop] at hs
    cases hs
  | set accepting =>
    obtain ⟨hlt, haccepts, -⟩ := List.findIdx?_eq_some_iff_getElem.1 accepting
    refine iff_of_true ?_ (Operation.heeds_of_ne (by simp))
    exact (onVariant_modify (List.getElem?_eq_getElem hlt)).2
      ((serves _ (List.getElem_mem hlt)).accepts_set haccepts)
  | reset =>
    have hlt := (hrange (List.ne_nil_of_mem (List.mem_of_getElem? hs))).1
    have hfirst : (slots.map (·.map fun f => f.reset.1))[first]? =
        some (slots[first].map fun f => f.reset.1) := by simp [hlt]
    refine iff_of_true ?_ (Operation.heeds_of_ne (by simp))
    exact onVariant_polymorphic_iff.2
      ⟨_, hfirst, (serves _ (List.getElem_mem hlt)).accepts_reset⟩
  | select named =>
    obtain ⟨hlt, -, -⟩ := List.findIdx?_eq_some_iff_getElem.1 named
    refine iff_of_true ?_ (Operation.heeds_of_ne (by simp))
    exact (onVariant_modify (List.getElem?_eq_getElem hlt)).2
      (serves _ (List.getElem_mem hlt)).accepts_reset
  | edit live =>
    exact (onVariant_modify hs).trans
      (accepts_after_iff _ hs (serves s (List.mem_of_getElem? hs)) accepted)

/-- Which variants the fields in slots serve is settled when they are made. -/
theorem serves_of_map_asMade {slots' : List (Slot Field)}
    (heq : slots'.map (·.map asMade) = slots.map (·.map asMade))
    (serves : ∀ s ∈ slots, Serves s.accepts s.field) : ∀ s ∈ slots', Serves s.accepts s.field := by
  intro s hs
  have hmem : s.map asMade ∈ slots.map (·.map asMade) := heq ▸ List.mem_map_of_mem hs
  obtain ⟨t, ht, hts⟩ := List.mem_map.1 hmem
  obtain ⟨-, haccepts, hfield⟩ := Slot.mk.inj hts
  rw [← haccepts]
  exact (serves t ht).of_asMade hfield.symm

end

end Field

/-! ## Generated sums -/

theorem FieldFactory.length_makeChildren (part : Nat → Value) (i : Nat)
    (members : List (String × FieldFactory)) :
    (makeChildren part i members).length = members.length := by
  induction members generalizing i with
  | nil => rfl
  | cons m members ih => rw [makeChildren, List.length_cons, ih, List.length_cons]

namespace Variant.Generated

variable {x : Variant} (generated : x.Generated) {start : Value}
  (hstart : x.accepts start = true) (label : String)
include generated hstart

theorem serves : Field.Serves x.accepts (x.factory label start) := by
  cases generated with
  | constant => exact .constant hstart
  | product own makes =>
    refine .product fun parts hparts => makes parts ?_
    rw [hparts, FieldFactory.length_makeChildren]

theorem accepts_value : x.accepts (x.factory label start).value = true := by
  refine (generated.serves hstart label).accepts_value fun h v heq => ?_
  cases generated with
  | constant =>
    cases heq
    exact hstart
  | product => cases heq

end Variant.Generated

namespace Field

section

variable {variants : List Variant} (generated : ∀ x ∈ variants, x.Generated) {initial : Value}
  {k : Nat} (hk : variants.findIdx? (·.accepts initial) = some k)
include generated hk

/-- The field of each variant is made with a value of it. -/
theorem serves_makeSlots : ∀ s ∈ FieldFactory.makeSlots initial k 0 variants,
    Serves s.accepts s.field := by
  intro s hs
  rw [makeSlots_eq, List.mem_mapIdx] at hs
  obtain ⟨j, hj, rfl⟩ := hs
  have hx := generated _ (List.getElem_mem hj)
  refine hx.serves ?_ _
  split
  · obtain ⟨hlt, haccepts, -⟩ := List.findIdx?_eq_some_iff_getElem.1 hk
    obtain rfl : j = k := by omega
    exact haccepts
  · exact hx.own

theorem onVariant_sum (label : String) : (FieldFactory.sum variants label initial).OnVariant := by
  obtain ⟨hlt, haccepts, -⟩ := List.findIdx?_eq_some_iff_getElem.1 hk
  rw [FieldFactory.sum, hk, Option.getD_some, onVariant_polymorphic_iff, makeSlots_eq]
  refine ⟨⟨variants[k].tag, variants[k].accepts, variants[k].factory variants[k].tag initial⟩,
    by simp [hlt], (generated _ (List.getElem_mem hlt)).accepts_value haccepts _⟩

/-- If the live variant accepts the value of the field after some operations, it does so after one
more exactly if that is not an edit by which a constant leaves its variant. -/
theorem onVariant_concat_iff (label : String) (before : List Operation) (op : Operation)
    (on : ((FieldFactory.sum variants label initial).after before).OnVariant) :
    ((FieldFactory.sum variants label initial).after (before ++ [op])).OnVariant ↔
      op.Heeds ((FieldFactory.sum variants label initial).after before) := by
  have hsum : FieldFactory.sum variants label initial =
      polymorphic (.fresh label initial) k k (FieldFactory.makeSlots initial k 0 variants) := by
    rw [FieldFactory.sum, hk, Option.getD_some]
  have hrange := (inRange_sum variants label initial).after before
  have hmade := asMade_after (FieldFactory.sum variants label initial) before
  rw [hsum] at on hrange hmade ⊢
  obtain ⟨h, selected, slots, heq, hslots⟩ := eq_polymorphic_of_asMade hmade
  rw [after_concat]
  rw [heq] at on hrange ⊢
  exact onVariant_run_iff op hrange
    (serves_of_map_asMade hslots (serves_makeSlots generated hk)) on

end

/-- Exactly as long as no edit leaves a live constant at a value of another variant, the variant
that is live in a generated sum accepts the value of the field after every operation. -/
theorem onVariant_iff_heeds {variants : List Variant} (generated : ∀ x ∈ variants, x.Generated)
    {initial : Value} (accepted : ∃ x ∈ variants, x.accepts initial = true) (label : String)
    (ops : List Operation) :
    (∀ before, before <+: ops →
        ((FieldFactory.sum variants label initial).after before).OnVariant) ↔
      ∀ before op, before ++ [op] <+: ops →
        op.Heeds ((FieldFactory.sum variants label initial).after before) := by
  obtain ⟨k, hk⟩ : ∃ k, variants.findIdx? (·.accepts initial) = some k := by
    rw [← Option.isSome_iff_exists, List.findIdx?_isSome]
    simpa using accepted
  constructor
  · intro on before op hprefix
    have onBefore := on before ((List.prefix_append _ _).trans hprefix)
    exact (onVariant_concat_iff generated hk label before op onBefore).1 (on _ hprefix)
  · intro heeds before
    -- On how many operations have been done; each case is about the last of them.
    induction before using List.reverseRecOn with
    | nil => exact fun _ => onVariant_sum generated hk label
    | append_singleton before op ih =>
      intro hprefix
      have onBefore := ih ((List.prefix_append _ _).trans hprefix)
      exact (onVariant_concat_iff generated hk label before op onBefore).2
        (heeds before op hprefix)

/-- A dot, which is a constant, or a circle of some radius. -/
def dotOrCircle : List Variant :=
  Recipe.variants [⟨"Dot", none, [], [], ["Dot"]⟩,
    ⟨"Circle", some [("radius", .leaf .int32)], [.int 1], [.int 1], ["Circle"]⟩]

theorem generated_dotOrCircle : ∀ x ∈ dotOrCircle, x.Generated :=
  List.forall_mem_cons.2 ⟨.constant rfl,
    List.forall_mem_singleton.2 (.product rfl fun _ _ => rfl)⟩

/-- A circle that is set to a dot while it is live stays a circle. -/
theorem onVariant_iff_heeds_circle :
    (∀ x ∈ dotOrCircle, x.Generated) ∧ (∃ x ∈ dotOrCircle, x.accepts (.tagged "Dot" []) = true) ∧
      ∀ before, before <+: [.selectVariant "Circle", .editActive [.set (.tagged "Dot" [])]] →
        ((FieldFactory.sum dotOrCircle "shape" (.tagged "Dot" [])).after before).OnVariant := by
  have accepted : ∃ x ∈ dotOrCircle, x.accepts (.tagged "Dot" []) = true :=
    ⟨_, List.mem_cons_self, rfl⟩
  refine ⟨generated_dotOrCircle, accepted,
    (onVariant_iff_heeds generated_dotOrCircle accepted "shape" _).2 ?_⟩
  rintro before op ⟨after, heq⟩
  rcases before with _ | ⟨first, _ | ⟨second, before⟩⟩
  · obtain ⟨rfl, -⟩ := List.cons.inj heq
    exact Operation.heeds_of_ne (by simp)
  · obtain ⟨rfl, rfl, -⟩ := by simpa using heq
    rintro edits s h w v - hlive hfield -
    cases hlive
    cases hfield
  · simp at heq

/-- A dot that is set to a circle while it is live is at a circle, and it is still the dot that is
live. -/
theorem exists_edit_off_variant :
    (∀ x ∈ dotOrCircle, x.Generated) ∧
      dotOrCircle.Pairwise (fun x y => ∀ v, ¬ (x.accepts v = true ∧ y.accepts v = true)) ∧
      (∃ x ∈ dotOrCircle, x.accepts (.tagged "Dot" []) = true) ∧
      ∃ f, f = (FieldFactory.sum dotOrCircle "shape" (.tagged "Dot" [])).after
          [.editActive [.set (.tagged "Circle" [.int 2])]] ∧
        f.value = .tagged "Circle" [.int 2] ∧ f.selectedTag? = some "Dot" ∧ ¬ f.OnVariant := by
  refine ⟨generated_dotOrCircle, ?_, ⟨_, List.mem_cons_self, rfl⟩, _, rfl, rfl, rfl, ?_⟩
  · refine List.pairwise_pair.2 fun v => ?_
    rintro ⟨hdot, hcircle⟩
    cases v with
    | tagged tag fields =>
      obtain rfl : tag = "Dot" := by simpa [hasTagIn] using hdot
      cases hcircle
    | _ => cases hdot
  · rintro ⟨s, hlive, haccepts⟩
    cases hlive
    cases haccepts

end Field

end EditableFields
