import EditableFields.Proofs.Document.Renaming

/-!
# Documents: texts are opaque

The readers compare the texts of a document and put names of sums in front of those of their
variants, and do nothing else with them. So each of them gives for a document with renamed texts
what it gives for the document, renamed (`Schema.renamed_ofEvents`): one lemma for each reader, by
induction on its rounds where it has any.
-/

namespace EditableFields

open Markup (Attribute Event Tag)

namespace Document

/-- What a reader gives, with the events that it leaves. -/
def carry {α β : Type} (f : String → String) (g : α → β) (p : α × List Event) : β × List Event :=
  (g p.1, p.2.map (·.mapText f))

section Readers

variable {f : String → String}

theorem opening_mapText (tag : Tag) (isEmpty : Bool) :
    (tag.opening isEmpty).mapText f = (tag.mapText f).opening isEmpty := by
  cases isEmpty <;> rfl

theorem skip_renamed (depth : Nat) (es : List Event) :
    Renamed f (List.map (·.mapText f)) (skip depth es) (skip depth (es.map (·.mapText f))) := by
  induction es generalizing depth with
  | nil => cases depth <;> exact .ok rfl
  | cons e es ih =>
    cases e with
    | start tag => exact ih (depth + 1)
    | empty tag => exact ih depth
    | close name =>
      cases depth with
      | zero => exact .ok rfl
      | succ depth => exact ih depth
    | filler sort => exact ih depth
    | fault e => cases depth <;> exact .error rfl

theorem skipAfter_renamed (isEmpty : Bool) (es : List Event) :
    Renamed f (List.map (·.mapText f)) (skipAfter isEmpty es)
      (skipAfter isEmpty (es.map (·.mapText f))) := by
  cases isEmpty with
  | true => exact .ok rfl
  | false => exact skip_renamed 0 es

section Parts

variable {α β : Type} {g : α → β} {part : Nat → Tag → Except DocumentError α}
  {part' : Nat → Tag → Except DocumentError β}
  (hpart : ∀ index tag, Renamed f g (part index tag) (part' index (tag.mapText f)))
include hpart

theorem partsWithin_renamed (rounds index : Nat) (es : List Event) :
    Renamed f (carry f (List.map g)) (partsWithin part rounds index es)
      (partsWithin part' rounds index (es.map (·.mapText f))) := by
  induction rounds generalizing index es with
  | zero => exact .ok rfl
  | succ rounds ih =>
    cases es with
    | nil => exact .ok rfl
    | cons e es =>
      have taken (tag : Tag) (isEmpty : Bool) :
          Renamed f (carry f (List.map g))
            (partsWithin part (rounds + 1) index (tag.opening isEmpty :: es))
            (partsWithin part' (rounds + 1) index
              ((tag.mapText f).opening isEmpty :: es.map (·.mapText f))) := by
        rw [partsWithin_opening, partsWithin_opening]
        refine (hpart index tag).bind ?_
        rintro p _ rfl
        refine (skipAfter_renamed isEmpty es).bind ?_
        rintro rest _ rfl
        exact (ih (index + 1) rest).map fun _ => rfl
      cases e with
      | start tag => exact taken tag false
      | empty tag => exact taken tag true
      | close name => exact .ok rfl
      | filler sort => exact ih index es
      | fault e => exact .error rfl

theorem parts_renamed (isEmpty : Bool) (es : List Event) :
    Renamed f (carry f (List.map g)) (parts part isEmpty es)
      (parts part' isEmpty (es.map (·.mapText f))) := by
  cases isEmpty with
  | true => exact .ok rfl
  | false =>
    have h := partsWithin_renamed hpart es.length 0 es
    unfold parts
    rw [List.length_map]
    exact h

end Parts

variable (hf : Renaming f)
include hf

theorem typeWith_renamed
    {read : String → List Event → Except DocumentError (List Descriptor × List Event)}
    {es : List Event}
    (hread : ∀ name, Renamed f (carry f (variantsMapText f)) (read name es)
      (read (f name) (es.map (·.mapText f))))
    (owner : Option String) (tag : Tag) (isEmpty : Bool) :
    Renamed f (carry f (Descriptor.mapText f)) (typeWith read owner tag isEmpty es)
      (typeWith read (owner.map f) (tag.mapText f) isEmpty (es.map (·.mapText f))) := by
  have htag : (tag.mapText f).name = tag.name := rfl
  have simple : Renamed f (carry f (Descriptor.mapText f))
      (Element.simple owner tag >>= fun d => skipAfter isEmpty es >>= fun es => .ok (d, es))
      (Element.simple (owner.map f) (tag.mapText f) >>= fun d =>
        skipAfter isEmpty (es.map (·.mapText f)) >>= fun es => .ok (d, es)) := by
    refine (Element.simple_renamed hf owner tag).bind ?_
    rintro d _ rfl
    exact (skipAfter_renamed isEmpty es).map fun _ => rfl
  unfold typeWith
  rw [htag]
  split
  · refine (Element.enumeration_renamed hf owner tag).bind ?_
    rintro name _ rfl
    exact (parts_renamed (fun _ => Element.entry_renamed name) isEmpty es).map fun _ => rfl
  · refine (Element.product_renamed hf owner tag).bind ?_
    rintro ⟨name, content⟩ _ rfl
    exact (parts_renamed (Element.member_renamed hf name content.style) isEmpty es).map fun _ => rfl
  · refine (Element.sum_renamed hf owner tag).bind ?_
    rintro ⟨name, companion⟩ _ rfl
    cases isEmpty with
    | true => exact .ok rfl
    | false =>
      exact (hread name).map fun _ => rfl
  · exact simple
  · exact simple
  · exact simple
  · refine .error ?_
    cases owner with
    | none => exact congrArg (DocumentError.unknownElement tag.name) hf.context.symm
    | some owner => rfl

theorem contains_map (seen : List String) (name : String) :
    (seen.map f).contains (f name) = seen.contains name := by
  rw [Bool.eq_iff_iff, List.contains_iff_mem, List.contains_iff_mem, List.mem_map]
  constructor
  · rintro ⟨name', hmem, hname⟩
    exact hf.injective hname ▸ hmem
  · exact fun hmem => ⟨name, hmem, rfl⟩

theorem variantsWithin_renamed (rounds : Nat) (seen : List String) (owner : String)
    (es : List Event) :
    Renamed f (carry f (variantsMapText f)) (variantsWithin rounds seen owner es)
      (variantsWithin rounds (seen.map f) (f owner) (es.map (·.mapText f))) := by
  induction rounds generalizing seen owner es with
  | zero => exact .ok rfl
  | succ rounds ih =>
    cases es with
    | nil => exact .ok rfl
    | cons e es =>
      have taken (tag : Tag) (isEmpty : Bool) :
          Renamed f (carry f (variantsMapText f))
            (variantsWithin (rounds + 1) seen owner (tag.opening isEmpty :: es))
            (variantsWithin (rounds + 1) (seen.map f) (f owner)
              ((tag.mapText f).opening isEmpty :: es.map (·.mapText f))) := by
        rw [variantsWithin_opening, variantsWithin_opening]
        refine (typeWith_renamed hf (fun name => ih [] name es) (some owner) tag isEmpty).bind ?_
        rintro ⟨v, rest⟩ _ rfl
        have hname : (carry f (Descriptor.mapText f) (v, rest)).1.name = f v.name :=
          Descriptor.name_mapText f v
        rw [hname, contains_map hf]
        split
        · exact .error rfl
        · exact (ih (v.name :: seen) owner rest).map fun _ => rfl
      cases e with
      | start tag => exact taken tag false
      | empty tag => exact taken tag true
      | close name => exact .ok rfl
      | filler sort => exact ih seen owner es
      | fault e => exact .error rfl

theorem type_renamed (owner : Option String) (tag : Tag) (isEmpty : Bool) (es : List Event) :
    Renamed f (carry f (Descriptor.mapText f)) (type owner tag isEmpty es)
      (type (owner.map f) (tag.mapText f) isEmpty (es.map (·.mapText f))) := by
  refine typeWith_renamed hf (fun name => ?_) owner tag isEmpty
  unfold variants
  rw [List.length_map]
  exact variantsWithin_renamed hf es.length [] name es

theorem declare_renamed (s : Schema) (d : Descriptor) :
    Renamed f (Schema.mapText f) (declare s d) (declare (s.mapText f) (d.mapText f)) := by
  have hhas : (s.mapText f).catalog.has (f d.name) = s.catalog.has d.name :=
    Catalog.has_mapText hf s.catalog d.name
  unfold declare
  rw [Descriptor.name_mapText, hhas]
  split
  · exact .error rfl
  · exact .ok (Schema.addType_mapText s d)

theorem typesWithin_renamed (rounds : Nat) (s : Schema) (es : List Event) :
    Renamed f (carry f (Schema.mapText f)) (typesWithin rounds s es)
      (typesWithin rounds (s.mapText f) (es.map (·.mapText f))) := by
  induction rounds generalizing s es with
  | zero => exact .ok rfl
  | succ rounds ih =>
    cases es with
    | nil => exact .ok rfl
    | cons e es =>
      have taken (tag : Tag) (isEmpty : Bool) :
          Renamed f (carry f (Schema.mapText f))
            (typesWithin (rounds + 1) s (tag.opening isEmpty :: es))
            (typesWithin (rounds + 1) (s.mapText f)
              ((tag.mapText f).opening isEmpty :: es.map (·.mapText f))) := by
        rw [typesWithin_opening, typesWithin_opening]
        refine (type_renamed hf none tag isEmpty es).bind ?_
        rintro ⟨d, rest⟩ _ rfl
        refine (declare_renamed hf s d).bind ?_
        rintro s' _ rfl
        exact ih s' rest
      cases e with
      | start tag => exact taken tag false
      | empty tag => exact taken tag true
      | close name => exact .ok rfl
      | filler sort => exact ih s es
      | fault e => exact .error rfl

omit hf in
theorem started_renamed (element : String) (schema : Option Schema) :
    Renamed f (Schema.mapText f) (started element schema)
      (started element (schema.map (·.mapText f))) := by
  cases schema with
  | none => exact .error rfl
  | some s => exact .ok rfl

theorem takeTag_renamed (schema : Option Schema) (tag : Tag) (isEmpty : Bool) (es : List Event) :
    Renamed f (carry f (Option.map (·.mapText f))) (takeTag schema tag isEmpty es)
      (takeTag (schema.map (·.mapText f)) (tag.mapText f) isEmpty (es.map (·.mapText f))) := by
  have htag : (tag.mapText f).name = tag.name := rfl
  unfold takeTag
  rw [htag]
  split
  · exact (Element.root_renamed hf tag).map fun _ => rfl
  · split
    · refine (started_renamed tag.name schema).bind ?_
      rintro s _ rfl
      have htypes := typesWithin_renamed hf es.length s es
      unfold types
      rw [List.length_map]
      exact htypes.map fun _ => rfl
    · split
      next d _ =>
        refine (started_renamed tag.name schema).bind ?_
        rintro s _ rfl
        refine (Element.request_renamed d tag).bind ?_
        rintro r _ rfl
        refine (skipAfter_renamed isEmpty es).bind ?_
        rintro rest _ rfl
        exact .ok (congrArg (fun s => (some s, _)) (Schema.addRequest_mapText s r))
      next => exact .ok rfl

theorem sectionsWithin_renamed (rounds : Nat) (schema : Option Schema) (es : List Event) :
    Renamed f (Option.map (·.mapText f)) (sectionsWithin rounds schema es)
      (sectionsWithin rounds (schema.map (·.mapText f)) (es.map (·.mapText f))) := by
  induction rounds generalizing schema es with
  | zero => exact .ok rfl
  | succ rounds ih =>
    cases es with
    | nil => exact .ok rfl
    | cons e es =>
      have taken (tag : Tag) (isEmpty : Bool) :
          Renamed f (Option.map (·.mapText f))
            (sectionsWithin (rounds + 1) schema (tag.opening isEmpty :: es))
            (sectionsWithin (rounds + 1) (schema.map (·.mapText f))
              ((tag.mapText f).opening isEmpty :: es.map (·.mapText f))) := by
        rw [sectionsWithin_opening, sectionsWithin_opening]
        refine (takeTag_renamed hf schema tag isEmpty es).bind ?_
        rintro ⟨schema', rest⟩ _ rfl
        exact ih schema' rest
      cases e with
      | start tag => exact taken tag false
      | empty tag => exact taken tag true
      | close name => exact ih schema es
      | filler sort => exact ih schema es
      | fault e => exact .error rfl

end Readers

end Document

/-- With its texts renamed, a document gives the renamed schema, or the renamed error. -/
theorem Schema.renamed_ofEvents {f : String → String} (hf : Renaming f) (es : List Event) :
    Renamed f (Schema.mapText f) (ofEvents es) (ofEvents (es.map (·.mapText f))) := by
  unfold ofEvents
  rw [List.length_map]
  refine (Document.sectionsWithin_renamed hf es.length none es).bind ?_
  rintro schema _ rfl
  cases schema with
  | none => exact .error rfl
  | some s => exact .ok rfl

end EditableFields
