import EditableFields.Proofs.Field.Reset
import EditableFields.Proofs.Field.Selection

/-!
# Fields: switching variants

The fields of the variants that are not live stay as they are, with all that was done to them, until
their variant is selected. Then they start anew: `Switched` says what selecting a variant makes of a
sum. What the selected field starts from depends on how the sum was made only (`newField`), so the
value of the sum is then the same whatever was done before (`switched_after`).
-/

namespace EditableFields

namespace Field

/-- The position of the live variant of a sum. -/
def liveIndex? : Field → Option Nat
  | polymorphic _ _ selected _ => some selected
  | _ => none

/-- The position of the variant that is live in a new sum. -/
def firstLive (variants : List Variant) (initial : Value) : Nat :=
  (variants.findIdx? (·.accepts initial)).getD 0

/-- The field of the variant at a position in a new sum: made with the initial value if the variant
is live at first, and else with its default. -/
def newField (variants : List Variant) (initial : Value) (i : Nat) (x : Variant) : Field :=
  x.factory x.tag (if i = firstLive variants initial then initial else x.default)

/-- The slots of a new sum. -/
def newSlots (variants : List Variant) (initial : Value) : List (Slot Field) :=
  variants.mapIdx fun i x => ⟨x.tag, x.accepts, newField variants initial i x⟩

theorem makeSlots_eq_newSlots (variants : List Variant) (initial : Value) :
    FieldFactory.makeSlots initial (firstLive variants initial) 0 variants =
      newSlots variants initial := by
  rw [makeSlots_eq]
  simp only [Nat.zero_add]
  rfl

theorem sum_eq (variants : List Variant) (label : String) (initial : Value) :
    FieldFactory.sum variants label initial =
      polymorphic (.fresh label initial) (firstLive variants initial) (firstLive variants initial)
        (newSlots variants initial) := by
  rw [← makeSlots_eq_newSlots]
  rfl

/-- What selecting the variant at `i` makes of a sum `f`: that variant is live, with the field
`made` anew but for observers, and the others have the fields they had. -/
structure Switched (f g : Field) (i : Nat) (made : Field) : Prop where
  live : g.liveIndex? = some i
  anew : ∃ s, g.slots[i]? = some s ∧ s.field.unobserved = made
  others : ∀ j, j ≠ i → g.slots[j]? = f.slots[j]?
  value : g.value = made.value

/-- Selecting a variant that is not live switches to it. -/
theorem switched_selectVariant {h : Header} {first selected i : Nat} {slots : List (Slot Field)}
    {tag : String} {s : Slot Field} (named : slots.findIdx? (·.tag == tag) = some i)
    (hs : slots[i]? = some s) (other : i ≠ selected) :
    ∃ g calls, (polymorphic h first selected slots).selectVariant tag = .ok (g, calls) ∧
      Switched (polymorphic h first selected slots) g i s.field.asMade := by
  have hreset : (slots.modify i (·.map fun f => f.reset.1))[i]? =
      some (s.map fun f => f.reset.1) := by
    rw [List.getElem?_modify_eq, hs]
    rfl
  have hselect : (polymorphic h first selected slots).selectVariant tag =
      .ok (polymorphic h first i (slots.modify i (·.map fun f => f.reset.1)),
        ((polymorphic h first i (resetSlot i slots).1).announce (resetSlot i slots).2).2) := by
    simp only [selectVariant, named, if_neg other, announce, resetSlot_fst]
  refine ⟨_, _, hselect, rfl, ⟨_, hreset, rfl⟩, fun j hj => ?_, ?_⟩
  · exact List.getElem?_modify_ne _ _ hj.symm
  · rw [value, slotValue?_eq, hreset, asMade, value_unobserved]
    rfl

/-- Slots that are made as a new sum's have the tags of its variants. -/
theorem findIdx?_tag_eq {variants : List Variant} {initial : Value} {slots : List (Slot Field)}
    (hslots : slots.map (·.map asMade) = newSlots variants initial) (tag : String) :
    slots.findIdx? (·.tag == tag) = variants.findIdx? (·.tag == tag) := by
  have htags : slots.map (·.tag) = variants.map (·.tag) := by
    calc slots.map (·.tag) = (slots.map (·.map asMade)).map (·.tag) := by
          rw [List.map_map]
          rfl
      _ = (newSlots variants initial).map (·.tag) := by rw [hslots]
      _ = variants.map (·.tag) := List.ext_getElem (by simp [newSlots]) (by simp [newSlots])
  have hfind := congrArg (List.findIdx? (· == tag)) htags
  rwa [List.findIdx?_map, List.findIdx?_map] at hfind

section

variable {variants : List Variant} (parts : ∀ x ∈ variants, ∀ label v, (x.factory label v).Created)
include parts

/-- Whatever was done to a sum, its slots are those of a new one, but for what was done to the
fields in them. -/
theorem exists_sum_after (label : String) (initial : Value) (ops : List Operation) :
    ∃ h selected slots, (FieldFactory.sum variants label initial).after ops =
        polymorphic h (firstLive variants initial) selected slots ∧
      slots.map (·.map asMade) = newSlots variants initial := by
  have hmade := asMade_after (FieldFactory.sum variants label initial) ops
  rw [sum_eq] at hmade ⊢
  obtain ⟨h, selected, slots, hafter, hslots⟩ := eq_polymorphic_of_asMade hmade
  have hnew : (newSlots variants initial).map (·.map asMade) = newSlots variants initial := by
    rw [← makeSlots_eq_newSlots]
    exact map_asMade_makeSlots (fun x hx label v => (parts x hx label v).asMade_eq) _ _ _
  exact ⟨h, selected, slots, hafter, hslots.trans hnew⟩

/-- Whatever was done to a sum, one of its variants is live, and selecting another switches to that
variant as it was made, with the value that it then has. -/
theorem switched_after (label : String) (initial : Value) (ops : List Operation) :
    ∃ selected, ((FieldFactory.sum variants label initial).after ops).liveIndex? = some selected ∧
      (variants ≠ [] →
        selected < ((FieldFactory.sum variants label initial).after ops).slots.length) ∧
      ∀ {tag i x}, variants.findIdx? (·.tag == tag) = some i → variants[i]? = some x →
        i ≠ selected →
        (FieldFactory.sum variants label initial).slots[i]? =
            some ⟨x.tag, x.accepts, newField variants initial i x⟩ ∧
          ∃ g calls,
            ((FieldFactory.sum variants label initial).after ops).selectVariant tag =
              .ok (g, calls) ∧
            Switched ((FieldFactory.sum variants label initial).after ops) g i
              (newField variants initial i x) := by
  obtain ⟨h, selected, slots, hafter, hslots⟩ := exists_sum_after parts label initial ops
  have hrange := (inRange_sum variants label initial).after ops
  rw [hafter] at hrange ⊢
  refine ⟨selected, rfl, fun hne => ?_, fun {tag i x} named hx other => ?_⟩
  · have hlength : slots.length = variants.length := by
      simpa [newSlots] using congrArg List.length hslots
    have hpos : 0 < slots.length := hlength ▸ List.length_pos_of_ne_nil hne
    exact (hrange (List.ne_nil_of_length_pos hpos)).2
  · have hnew : (newSlots variants initial)[i]? =
        some ⟨x.tag, x.accepts, newField variants initial i x⟩ := by
      simp [newSlots, hx]
    have hnamed : slots.findIdx? (·.tag == tag) = some i := by
      rw [findIdx?_tag_eq hslots, named]
    obtain ⟨s, hs, hmade⟩ : ∃ s, slots[i]? = some s ∧
        s.map asMade = ⟨x.tag, x.accepts, newField variants initial i x⟩ := by
      rw [← hslots, List.getElem?_map] at hnew
      exact Option.map_eq_some_iff.1 hnew
    refine ⟨by rw [sum_eq]; exact hnew, ?_⟩
    have hfield : s.field.asMade = newField variants initial i x := congrArg Slot.field hmade
    rw [← hfield]
    exact switched_selectVariant hnamed hs other

end

/-- Ways of contact: none, a mail address, or a number with a note. -/
def waysOfContact : List Variant :=
  Recipe.variants [⟨"None", none, [], [], ["None"]⟩,
    ⟨"Mail", some [("address", .leaf .string)], [.text "?"], [.text "?"], ["Mail"]⟩,
    ⟨"Phone", some [("number", .leaf .int64), ("note", .nullable (.leaf .string) (.text ""))],
      [.int 0, .absent], [.int 0, .absent], ["Phone"]⟩]

/-- A mail address that is given up for a number, and set again. -/
def contactHistory : List Operation :=
  [.selectVariant "Phone",
    .editActive [.editChildren [(0, .set (.int 12)), (1, .set (.present (.text "home")))]],
    .set (.tagged "Mail" [.text "eve@home"])]

/-- The number that was given is forgotten when the number is selected again, and the address that
was set is kept. -/
theorem switched_after_contact :
    (∀ x ∈ waysOfContact, ∀ label v, (x.factory label v).Created) ∧
      waysOfContact.findIdx? (·.tag == "Phone") = some 2 ∧
      ∃ f g calls, f = (FieldFactory.sum waysOfContact "contact"
          (.tagged "Mail" [.text "ada@home"])).after contactHistory ∧
        f.value = .tagged "Mail" [.text "eve@home"] ∧ f.liveIndex? = some 1 ∧
        f.selectVariant "Phone" = .ok (g, calls) ∧ g.liveIndex? = some 2 ∧
        g.value = .tagged "Phone" [.int 0, .absent] ∧ g.slots[1]? = f.slots[1]? := by
  have parts : ∀ x ∈ waysOfContact, ∀ label v, (x.factory label v).Created := fun x hx label v =>
    (Recipe.variants_createdAs _ x hx label v).created
  obtain ⟨selected, hlive, -, switch⟩ :=
    switched_after parts "contact" (.tagged "Mail" [.text "ada@home"]) contactHistory
  obtain rfl : 1 = selected := Option.some.inj hlive
  have named : waysOfContact.findIdx? (·.tag == "Phone") = some 2 := by decide
  obtain ⟨-, g, calls, hselect, switched⟩ := switch named rfl (by decide)
  exact ⟨parts, named, _, g, calls, rfl, rfl, hlive, hselect, switched.live, switched.value,
    switched.others 1 (by decide)⟩

end Field

end EditableFields
