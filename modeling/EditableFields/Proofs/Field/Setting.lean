import EditableFields.Proofs.Field.Reset

/-!
# Fields: setting and reading back

A field that is set to a value has that value, if the value fits the field (`Fits`): a product must
be the one that its parts make, a sum is held by the first variant that accepts it, and so on. The
state of the field does not matter (`Fits.value_set`), and which values fit does not change with it
(`fits_asMade_iff`), so this is so after any operations (`value_set_after`).
-/

namespace EditableFields

namespace Field

/-- Which values a field can hold: those that it has again when it is set to them. -/
inductive Fits : Field → Value → Prop where
  | leaf {h kind options w v} : Fits (.leaf h kind options w) v
  | fixed {h w v} : Fits (.fixed h w) v
  /-- The value is made of its parts, and each child can hold its part. -/
  | combined {h combine split children v}
    (whole : combine ((List.range children.length).map (split v)) = v)
    (parts : ∀ i f, children[i]? = some f → Fits f (split v i)) :
    Fits (.combined h combine split children) v
  /-- The field of the first variant that accepts the value can hold it. -/
  | polymorphic {h start selected slots s v} (first : slots.find? (·.accepts v) = some s)
    (part : Fits s.field v) : Fits (.polymorphic h start selected slots) v
  | absent {h now inner} : Fits (.nullable h now inner) .absent
  | present {h now inner v} (content : Fits inner v) : Fits (.nullable h now inner) (.present v)
  /-- The value is got back from the inner one, which the inner field can hold. -/
  | transform {h down up inner v} (whole : up (down v) = v) (part : Fits inner (down v)) :
    Fits (.transform h down up inner) v

section

variable {h : Header} {v : Value}

theorem fits_combined_iff {combine : List Value → Value} {split : Value → Nat → Value}
    {children : List Field} : (combined h combine split children).Fits v ↔
      combine ((List.range children.length).map (split v)) = v ∧
        ∀ i (f : Field), children[i]? = some f → f.Fits (split v i) :=
  ⟨fun | .combined whole parts => ⟨whole, parts⟩, fun ⟨whole, parts⟩ => .combined whole parts⟩

theorem fits_polymorphic_iff {start selected : Nat} {slots : List (Slot Field)} :
    (polymorphic h start selected slots).Fits v ↔
      ∃ s, slots.find? (·.accepts v) = some s ∧ s.field.Fits v :=
  ⟨fun | .polymorphic first part => ⟨_, first, part⟩,
    fun ⟨_, first, part⟩ => .polymorphic first part⟩

theorem fits_nullable_iff {now : Bool} {inner : Field} : (nullable h now inner).Fits v ↔
    v = .absent ∨ ∃ content, v = .present content ∧ inner.Fits content := by
  constructor
  · intro fits
    cases fits with
    | absent => exact .inl rfl
    | present content => exact .inr ⟨_, rfl, content⟩
  · rintro (rfl | ⟨content, rfl, fits⟩)
    · exact .absent
    · exact .present fits

theorem fits_transform_iff {down up : Value → Value} {inner : Field} :
    (transform h down up inner).Fits v ↔ up (down v) = v ∧ inner.Fits (down v) :=
  ⟨fun | .transform whole part => ⟨whole, part⟩, fun ⟨whole, part⟩ => .transform whole part⟩

end

theorem find?_accepts_eq_some_iff {slots : List (Slot Field)} {v : Value} {s : Slot Field} :
    slots.find? (·.accepts v) = some s ↔
      ∃ i, accepting? slots v = some i ∧ slots[i]? = some s := by
  simp only [accepting?, List.find?_eq_some_iff_getElem, List.findIdx?_eq_some_iff_getElem]
  constructor
  · rintro ⟨hs, i, hi, rfl, before⟩
    exact ⟨i, ⟨hi, hs, fun j hj => by simpa using before j hj⟩, List.getElem?_eq_getElem hi⟩
  · rintro ⟨i, ⟨hi, hs, before⟩, heq⟩
    obtain rfl : slots[i] = s := by simpa [hi] using heq
    exact ⟨hs, i, hi, rfl, fun j hj => by simpa using before j hj⟩

/-- A field that is set to a value it can hold has that value. -/
theorem Fits.value_set {f : Field} {v : Value} (fits : f.Fits v) : (f.set v).1.value = v := by
  induction fits with
  | leaf | fixed | absent => rfl
  | @combined h combine split children v whole parts ih =>
    have hvalues : (children.mapIdx fun i f => (f.set (split v (0 + i))).1).map value =
        (List.range children.length).map (split v) := by
      refine List.ext_getElem (by simp) fun i _ hi => ?_
      have hi' : i < children.length := by simpa using hi
      simpa using ih i children[i] (List.getElem?_eq_getElem hi')
    simp only [set, announce, value, values_eq_map, setAll_fst, hvalues, whole]
  | @polymorphic h start selected slots s v first part ih =>
    obtain ⟨i, haccepting, hs⟩ := find?_accepts_eq_some_iff.1 first
    simp only [set, haccepting, announce, value, slotValue?_eq, setSlot_fst, List.getElem?_modify,
      hs]
    exact ih
  | present _ ih => simp only [set, announce, value, ih, if_true]
  | transform whole _ ih => simp only [set, announce, value, ih, whole]

/-- Which values a field can hold is settled when it is made. -/
theorem fits_asMade_iff {f : Field} {v : Value} : f.asMade.Fits v ↔ f.Fits v := by
  induction f generalizing v with
  | leaf h kind options w => exact ⟨fun _ => .leaf, fun _ => .leaf⟩
  | fixed h w => exact ⟨fun _ => .fixed, fun _ => .fixed⟩
  | combined h combine split children ih =>
    rw [asMade_combined, fits_combined_iff, fits_combined_iff, List.length_map]
    refine and_congr_right fun _ => ⟨fun parts i f hf => ?_, fun parts i g hg => ?_⟩
    · have hmade : (children.map asMade)[i]? = some f.asMade := by rw [List.getElem?_map, hf]; rfl
      exact (ih f (List.mem_of_getElem? hf)).1 (parts i _ hmade)
    · obtain ⟨f, hf, rfl⟩ : ∃ f, children[i]? = some f ∧ f.asMade = g := by simpa using hg
      exact (ih f (List.mem_of_getElem? hf)).2 (parts i f hf)
  | polymorphic h start selected slots ih =>
    have hfind : (slots.map (·.map asMade)).find? (·.accepts v) =
        (slots.find? (·.accepts v)).map (·.map asMade) := List.find?_map
    rw [asMade_polymorphic, fits_polymorphic_iff, fits_polymorphic_iff, hfind]
    cases hfirst : slots.find? (·.accepts v) with
    | none => simp
    | some s => simpa [Slot.map] using ih s (List.mem_of_find?_eq_some hfirst)
  | nullable h now inner ih => simp only [asMade_nullable, fits_nullable_iff, ih]
  | transform h down up inner ih => simp only [asMade_transform, fits_transform_iff, ih]

/-- Whatever was done to a field, setting it to a value that it can hold sets its value. -/
theorem value_set_after {f : Field} {v : Value} (fits : f.Fits v) (ops : List Operation) :
    ((f.after ops).set v).1.value = v := by
  have fits' : (f.after ops).Fits v := by
    rw [← fits_asMade_iff, asMade_after, fits_asMade_iff]
    exact fits
  exact fits'.value_set

/-- Another person's card. -/
def otherCard : Value :=
  .list [.text "Bo", .present (.wrapped (.int 7)), .text "owner", .tagged "Mail" [.text "bo@home"]]

/-- A card that was filled in is set to another one. -/
theorem value_set_after_card :
    card.Fits otherCard ∧ (card.after cardEdits).value.equal otherCard = false ∧
      ((card.after cardEdits).set otherCard).1.value = otherCard := by
  have contact : ∀ i (f : Field), [FieldFactory.leaf .string "address" (.text "?")][i]? = some f →
      f.Fits (variantPart "Mail" [.text "?"] (.tagged "Mail" [.text "bo@home"]) i) := by
    rintro (_ | i) f hf
    · cases hf
      exact .leaf
    · cases hf
  have fits : card.Fits otherCard := by
    refine .combined rfl ?_
    rintro (_ | _ | _ | _ | i) f hf
    · cases hf
      exact .leaf
    · cases hf
      exact .present (.transform rfl .leaf)
    · cases hf
      exact .leaf
    · cases hf
      exact .polymorphic rfl (.combined rfl contact)
    · cases hf
  exact ⟨fits, rfl, value_set_after fits cardEdits⟩

end Field

end EditableFields
