import EditableFields.Proofs.Document.Nesting

/-!
# Documents: content outside of a root

Sections and requests are content of a root. The reader outside all sections comes to the content
of a document one by one (`Document.Reaches`), and refuses the first one as outside of a root if no
root has started before it. From the start of a root on it refuses none of them for that reason,
not even where the root has been closed. This is so for any stream of events
(`Schema.ofEvents_refuses_iff`), those of a document among them (`Schema.refuses_content_iff`).
-/

namespace EditableFields

open Markup (Attribute Event Tag)

/-- Whether a tag begins an element that only a root may hold: a request, or a section that does
not end where it starts. -/
def Markup.Tag.IsContent (t : Tag) (isEmpty : Bool) : Prop :=
  (t.name = "types" ∧ isEmpty = false) ∨ (Document.directive? t.name).isSome = true

instance (t : Tag) (isEmpty : Bool) : Decidable (t.IsContent isEmpty) :=
  inferInstanceAs (Decidable (_ ∨ _))

/-- The names of the open elements after the first tag of an element. -/
def Markup.Tag.openedIn (t : Tag) (isEmpty : Bool) (names : List String) : List String :=
  if isEmpty then names else t.name :: names

/-! ## Errors that are never given -/

/-- A reader does not find anything outside of a root. -/
def Spares {α : Type} (x : Except DocumentError α) : Prop :=
  ∀ name, x ≠ .error (.outsideRoot name)

namespace Spares

variable {α β σ : Type}

theorem ok (a : α) : Spares (.ok a) := nofun

theorem bind {x : Except DocumentError α} {f : α → Except DocumentError β} (hx : Spares x)
    (hf : ∀ a, Spares (f a)) : Spares (x >>= f) := by
  intro name h
  rcases bind_eq_error.1 h with h | ⟨a, -, h⟩
  · exact hx name h
  · exact hf a name h

theorem foldlM {set : σ → Attribute → Except DocumentError σ} (hset : ∀ s a, Spares (set s a))
    (as : List Attribute) (s : σ) : Spares (as.foldlM set s) := by
  induction as generalizing s with
  | nil => exact .ok s
  | cons a as ih => exact (hset s a).bind ih

end Spares

namespace Element

theorem spares_truth (element : String) (a : Attribute) : Spares (truth element a) := by
  intro name h
  unfold truth at h
  split at h
  · cases h
  · split at h <;> cases h

theorem spares_valueBy {α : Type} (parse? : String → Option α) (element : String) (a : Attribute) :
    Spares (valueBy parse? element a) := by
  intro name h
  unfold valueBy at h
  split at h <;> cases h

theorem spares_require {α : Type} (element key : String) (v? : Option α) :
    Spares (require element key v?) := by
  cases v? <;> nofun

theorem spares_root (tag : Tag) : Spares (root tag) := by
  refine Spares.foldlM (fun s a => ?_) _ _
  unfold setRoot
  split
  · exact .ok _
  · exact .ok _
  · exact (spares_truth _ a).bind fun _ => .ok _
  · exact (spares_valueBy _ _ a).bind fun _ => .ok _
  · exact .ok _

theorem spares_simple (owner : Option String) (tag : Tag) : Spares (simple owner tag) := by
  refine Spares.bind (Spares.foldlM (fun s a => ?_) _ _) fun s =>
    (spares_require _ _ _).bind fun name => ?_
  · unfold setSimple
    split
    · exact .ok _
    · exact (spares_truth _ a).bind fun _ => .ok _
    · exact .ok _
    · exact .ok _
  · split
    · exact .ok _
    · exact (spares_require _ _ _).bind fun _ => .ok _
    · exact .ok _

theorem spares_enumeration (owner : Option String) (tag : Tag) : Spares (enumeration owner tag) :=
  (spares_require _ _ _).bind fun _ => .ok _

theorem spares_entry (owner : String) (tag : Tag) : Spares (entry owner tag) := by
  unfold entry
  split
  · nofun
  · exact spares_require _ _ _

theorem spares_product (owner : Option String) (tag : Tag) : Spares (product owner tag) := by
  refine Spares.bind (Spares.foldlM (fun s a => ?_) _ _) fun s =>
    (spares_require _ _ _).bind fun name => .ok _
  unfold setProduct
  split
  · exact .ok _
  · exact (spares_valueBy _ _ a).bind fun _ => .ok _
  · exact (spares_truth _ a).bind fun _ => .ok _
  · exact (spares_truth _ a).bind fun _ => .ok _
  · exact .ok _

theorem spares_member (owner : String) (style : ConstructorStyle) (index : Nat) (tag : Tag) :
    Spares (member owner style index tag) := by
  unfold member
  split
  · nofun
  · refine Spares.bind (Spares.foldlM (fun s a => ?_) _ _) fun s => ?_
    · unfold setMember
      split
      · exact .ok _
      · exact .ok _
      · exact (spares_truth _ a).bind fun _ => .ok _
      · exact .ok _
    · dsimp only
      split
      · exact (spares_require _ _ _).bind fun _ => .ok _
      · exact (spares_require _ _ _).bind fun _ => .ok _
      · nofun

theorem spares_sum (owner : Option String) (tag : Tag) : Spares (sum owner tag) := by
  refine Spares.bind (Spares.foldlM (fun s a => ?_) _ _) fun s =>
    (spares_require _ _ _).bind fun name => .ok _
  unfold setSum
  split
  · exact .ok _
  · exact (spares_truth _ a).bind fun _ => .ok _
  · exact .ok _

theorem spares_request (directive : Directive) (tag : Tag) : Spares (request directive tag) := by
  refine Spares.bind (Spares.foldlM (fun s a => ?_) _ _) fun s =>
    (spares_require _ _ _).bind fun type => .ok _
  unfold setRequest
  split
  · exact .ok _
  · exact .ok _
  · exact (spares_truth _ a).bind fun _ => .ok _
  · split
    · exact (spares_truth _ a).bind fun _ => .ok _
    · exact .ok _
  · exact .ok _

end Element

namespace Document

theorem spares_skip (depth : Nat) (es : List Event) : Spares (skip depth es) := by
  induction es generalizing depth with
  | nil => exact .ok _
  | cons e es ih =>
    cases e with
    | start tag => exact ih (depth + 1)
    | empty tag => exact ih depth
    | close name =>
      cases depth with
      | zero => exact .ok _
      | succ depth => exact ih depth
    | filler sort => exact ih depth
    | fault f => cases depth <;> nofun

theorem spares_skipAfter (isEmpty : Bool) (es : List Event) : Spares (skipAfter isEmpty es) := by
  cases isEmpty with
  | true => exact .ok _
  | false => exact spares_skip 0 es

section Parts

variable {α : Type} {part : Nat → Tag → Except DocumentError α}
  (hpart : ∀ index tag, Spares (part index tag))
include hpart

theorem spares_partsWithin (rounds index : Nat) (es : List Event) :
    Spares (partsWithin part rounds index es) := by
  induction rounds generalizing index es with
  | zero => exact .ok _
  | succ rounds ih =>
    cases es with
    | nil => exact .ok _
    | cons e es =>
      have taken (tag : Tag) (isEmpty : Bool) :
          Spares (partsWithin part (rounds + 1) index (tag.opening isEmpty :: es)) := by
        rw [partsWithin_opening]
        exact (hpart index tag).bind fun p => (spares_skipAfter isEmpty es).bind fun es =>
          (ih _ es).bind fun q => .ok _
      cases e with
      | start tag => exact taken tag false
      | empty tag => exact taken tag true
      | close name => exact .ok _
      | filler sort => exact ih index es
      | fault f => nofun

theorem spares_parts (isEmpty : Bool) (es : List Event) : Spares (parts part isEmpty es) := by
  cases isEmpty with
  | true => exact .ok _
  | false => exact spares_partsWithin hpart _ 0 es

end Parts

theorem spares_typeWith
    {read : String → List Event → Except DocumentError (List Descriptor × List Event)}
    (hread : ∀ name es, Spares (read name es)) (owner : Option String) (tag : Tag)
    (isEmpty : Bool) (es : List Event) : Spares (typeWith read owner tag isEmpty es) := by
  unfold typeWith
  split
  · exact (Element.spares_enumeration owner tag).bind fun name =>
      (spares_parts (fun _ => Element.spares_entry name) isEmpty es).bind fun p => .ok _
  · exact (Element.spares_product owner tag).bind fun p =>
      (spares_parts (Element.spares_member p.1 p.2.style) isEmpty es).bind fun q => .ok _
  · refine (Element.spares_sum owner tag).bind fun p => ?_
    cases isEmpty with
    | true => exact .ok _
    | false => exact (hread p.1 es).bind fun q => .ok _
  · exact (Element.spares_simple owner tag).bind fun d =>
      (spares_skipAfter isEmpty es).bind fun es => .ok _
  · exact (Element.spares_simple owner tag).bind fun d =>
      (spares_skipAfter isEmpty es).bind fun es => .ok _
  · exact (Element.spares_simple owner tag).bind fun d =>
      (spares_skipAfter isEmpty es).bind fun es => .ok _
  · nofun

theorem spares_variantsWithin (rounds : Nat) (seen : List String) (owner : String)
    (es : List Event) : Spares (variantsWithin rounds seen owner es) := by
  induction rounds generalizing seen owner es with
  | zero => exact .ok _
  | succ rounds ih =>
    cases es with
    | nil => exact .ok _
    | cons e es =>
      have taken (tag : Tag) (isEmpty : Bool) :
          Spares (variantsWithin (rounds + 1) seen owner (tag.opening isEmpty :: es)) := by
        rw [variantsWithin_opening]
        refine (spares_typeWith (ih []) (some owner) tag isEmpty es).bind fun p => ?_
        split
        · nofun
        · exact (ih _ owner p.2).bind fun q => .ok _
      cases e with
      | start tag => exact taken tag false
      | empty tag => exact taken tag true
      | close name => exact .ok _
      | filler sort => exact ih seen owner es
      | fault f => nofun

theorem spares_type (owner : Option String) (tag : Tag) (isEmpty : Bool) (es : List Event) :
    Spares (type owner tag isEmpty es) :=
  spares_typeWith (fun name es => spares_variantsWithin es.length [] name es) owner tag isEmpty es

theorem spares_declare (s : Schema) (d : Descriptor) : Spares (declare s d) := by
  unfold declare
  split <;> nofun

theorem spares_typesWithin (rounds : Nat) (s : Schema) (es : List Event) :
    Spares (typesWithin rounds s es) := by
  induction rounds generalizing s es with
  | zero => exact .ok _
  | succ rounds ih =>
    cases es with
    | nil => exact .ok _
    | cons e es =>
      have taken (tag : Tag) (isEmpty : Bool) :
          Spares (typesWithin (rounds + 1) s (tag.opening isEmpty :: es)) := by
        rw [typesWithin_opening]
        exact (spares_type none tag isEmpty es).bind fun p =>
          (spares_declare s p.1).bind fun s => ih s p.2
      cases e with
      | start tag => exact taken tag false
      | empty tag => exact taken tag true
      | close name => exact .ok _
      | filler sort => exact ih s es
      | fault f => nofun

/-! ## Reading on after a root -/

/-- Once a root has started, a tag is taken as content of it, and a root has started after it. -/
theorem takeTag_some (s : Schema) (tag : Tag) (isEmpty : Bool) (es : List Event) :
    Spares (takeTag (some s) tag isEmpty es) ∧
      ∀ schema rest, takeTag (some s) tag isEmpty es = .ok (schema, rest) →
        ∃ s', schema = some s' := by
  unfold takeTag
  split
  · refine ⟨(Element.spares_root tag).bind fun s => .ok _, fun schema rest h => ?_⟩
    obtain ⟨s', -, h⟩ := bind_eq_ok.1 h
    cases h
    exact ⟨s', rfl⟩
  · split
    · refine ⟨(spares_typesWithin es.length s es).bind fun p => .ok _, fun schema rest h => ?_⟩
      obtain ⟨s, -, h⟩ := bind_eq_ok.1 h
      obtain ⟨p, -, h⟩ := bind_eq_ok.1 h
      cases h
      exact ⟨p.1, rfl⟩
    · split
      next d _ =>
        refine ⟨(Element.spares_request d tag).bind fun r =>
          (spares_skipAfter isEmpty es).bind fun es => .ok _, fun schema rest h => ?_⟩
        obtain ⟨s, -, h⟩ := bind_eq_ok.1 h
        obtain ⟨r, -, h⟩ := bind_eq_ok.1 h
        obtain ⟨es', -, h⟩ := bind_eq_ok.1 h
        cases h
        exact ⟨s.addRequest r, rfl⟩
      next =>
        refine ⟨.ok _, fun schema rest h => ?_⟩
        cases h
        exact ⟨s, rfl⟩

theorem spares_sectionsWithin (rounds : Nat) (s : Schema) (es : List Event) :
    Spares (sectionsWithin rounds (some s) es) := by
  induction rounds generalizing s es with
  | zero => exact .ok _
  | succ rounds ih =>
    cases es with
    | nil => exact .ok _
    | cons e es =>
      have taken (tag : Tag) (isEmpty : Bool) :
          Spares (sectionsWithin (rounds + 1) (some s) (tag.opening isEmpty :: es)) := by
        obtain ⟨hspares, hsome⟩ := takeTag_some s tag isEmpty es
        rw [sectionsWithin_opening]
        intro name h
        rcases bind_eq_error.1 h with h | ⟨⟨schema, rest⟩, htake, h⟩
        · exact hspares name h
        · obtain ⟨s', rfl⟩ := hsome schema rest htake
          exact ih s' rest name h
      cases e with
      | start tag => exact taken tag false
      | empty tag => exact taken tag true
      | close name => exact ih s es
      | filler sort => exact ih s es
      | fault f => nofun

/-! ## The places of the reader -/

/-- The places that the reader outside all sections comes to in a stream of events: the names of
the elements that are open there, whether a root has started by then, and the events ahead. At
content it goes on after the element, if a root has started. -/
inductive Reaches (es : List Event) : List String → Bool → List Event → Prop
  | start : Reaches es [] false es
  | filler {names started sort rest} :
    Reaches es names started (.filler sort :: rest) → Reaches es names started rest
  | close {names started name rest} :
    Reaches es names started (.close name :: rest) → Reaches es names.tail started rest
  | root {names started isEmpty rest} {tag : Tag} : tag.name = "fieldSchema" →
    Reaches es names started (tag.opening isEmpty :: rest) →
    Reaches es (tag.openedIn isEmpty names) true rest
  | other {names started isEmpty rest} {tag : Tag} :
    tag.name ≠ "fieldSchema" → ¬tag.IsContent isEmpty →
    Reaches es names started (tag.opening isEmpty :: rest) →
    Reaches es (tag.openedIn isEmpty names) started rest
  | content {names isEmpty inner rest} {tag : Tag} : tag.IsContent isEmpty →
    skipAfter isEmpty inner = .ok rest →
    Reaches es names true (tag.opening isEmpty :: inner) → Reaches es names true rest

theorem takeTag_none_other {tag : Tag} {isEmpty : Bool} (hroot : tag.name ≠ "fieldSchema")
    (hcontent : ¬tag.IsContent isEmpty) (es : List Event) :
    takeTag none tag isEmpty es = .ok (none, es) := by
  obtain ⟨htypes, hrequest⟩ := not_or.1 hcontent
  have hd : directive? tag.name = none := by simpa using hrequest
  rw [takeTag, if_neg hroot, if_neg (by simpa using htypes), hd]

theorem takeTag_none_content {tag : Tag} {isEmpty : Bool} (hcontent : tag.IsContent isEmpty)
    (es : List Event) :
    takeTag none tag isEmpty es = .error (.outsideRoot tag.name) := by
  rw [takeTag]
  rcases hcontent with ⟨htag, hempty⟩ | hrequest
  · rw [if_neg (by rw [htag]; decide), if_pos (by simp [htag, hempty])]
    rfl
  · obtain ⟨d, hd⟩ := Option.isSome_iff_exists.1 hrequest
    have hroot : tag.name ≠ "fieldSchema" := by
      intro htag
      rw [htag] at hd
      cases hd
    have htypes : tag.name ≠ "types" := by
      intro htag
      rw [htag] at hd
      cases hd
    rw [if_neg hroot, if_neg (by simp [htypes]), hd]
    rfl

/-- Before a root starts, all that was met is passed over; after that nothing is outside. -/
theorem Reaches.sections {es rest : List Event} {names : List String} {started : Bool}
    (h : Reaches es names started rest) :
    (started = false →
        sectionsWithin es.length none es = sectionsWithin rest.length none rest) ∧
      (started = true → Spares (sectionsWithin es.length none es)) := by
  induction h with
  | start => exact ⟨fun _ => rfl, nofun⟩
  | filler _ ih => exact ih
  | close _ ih => exact ih
  | @root names started isEmpty rest tag htag _ ih =>
    refine ⟨nofun, fun _ => ?_⟩
    cases started with
    | true => exact ih.2 rfl
    | false =>
      rw [ih.1 rfl, List.length_cons, sectionsWithin_opening, takeTag_root htag]
      intro name h
      rcases bind_eq_error.1 h with h | ⟨p, hp, h⟩
      · exact (Element.spares_root tag).bind (fun s => .ok _) name h
      · obtain ⟨s, -, hp⟩ := bind_eq_ok.1 hp
        cases hp
        exact spares_sectionsWithin rest.length s rest name h
  | @other names started isEmpty rest tag hroot hcontent _ ih =>
    refine ⟨fun hstarted => ?_, ih.2⟩
    rw [ih.1 hstarted, List.length_cons, sectionsWithin_opening,
      takeTag_none_other hroot hcontent]
    rfl
  | content _ _ _ ih => exact ⟨nofun, ih.2⟩

end Document

/-- Where events come to a section or a request outside all sections, they are refused as having
content outside of a root if none has started by then, and never if one has. -/
theorem Schema.ofEvents_refuses_iff {es : List Event} {names : List String} {started : Bool}
    {tag : Tag} {isEmpty : Bool} {rest : List Event}
    (h : Document.Reaches es names started (tag.opening isEmpty :: rest))
    (hcontent : tag.IsContent isEmpty) :
    (started = false → Schema.ofEvents es = .error (.outsideRoot tag.name)) ∧
      (started = true → ∀ name, Schema.ofEvents es ≠ .error (.outsideRoot name)) := by
  obtain ⟨hbefore, hafter⟩ := h.sections
  constructor
  · intro hstarted
    rw [Schema.ofEvents, hbefore hstarted, List.length_cons, Document.sectionsWithin_opening,
      Document.takeTag_none_content hcontent]
    rfl
  · intro hstarted name h
    rcases bind_eq_error.1 h with h | ⟨schema, -, h⟩
    · exact hafter hstarted name h
    · cases schema <;> cases h

/-- At a section or a request outside all sections, a document is refused as having content outside
of a root if none has started by then. If one has, the document is never refused for that, whether
or not the root is still open. -/
theorem Schema.refuses_content_iff {document : String} {names : List String} {started : Bool}
    {tag : Tag} {isEmpty : Bool} {rest : List Event}
    (h : Document.Reaches (Markup.events document) names started (tag.opening isEmpty :: rest))
    (hcontent : tag.IsContent isEmpty) :
    (started = false → Schema.parse document = .error (.outsideRoot tag.name)) ∧
      (started = true → ∀ name, Schema.parse document ≠ .error (.outsideRoot name)) :=
  Schema.ofEvents_refuses_iff h hcontent

/-- A request before the root, inside of an element that is not known. -/
def preface : String :=
  "<page><generate type=\"i32\"/><fieldSchema/></page>"

theorem Schema.refuses_content_iff_preface :
    ∃ (names : List String) (tag : Tag) (rest : List Event),
      Document.Reaches (Markup.events preface) names false (tag.opening true :: rest) ∧
        tag.IsContent true ∧ Schema.parse preface = .error (.outsideRoot "generate") := by
  have hevents : Markup.events preface =
      [Tag.opening ⟨"page", []⟩ false, Tag.opening ⟨"generate", [⟨"type", "i32"⟩]⟩ true,
        Tag.opening ⟨"fieldSchema", []⟩ true, .close "page"] := by
    decide +kernel
  have hplace : Document.Reaches (Markup.events preface) ["page"] false
      [Tag.opening ⟨"generate", [⟨"type", "i32"⟩]⟩ true, Tag.opening ⟨"fieldSchema", []⟩ true,
        .close "page"] := by
    have hstart : Document.Reaches (Markup.events preface) [] false (Markup.events preface) :=
      .start
    nth_rewrite 2 [hevents] at hstart
    exact hstart.other (by decide) (by decide)
  have hcontent : Tag.IsContent ⟨"generate", [⟨"type", "i32"⟩]⟩ true := by decide
  exact ⟨_, _, _, hplace, hcontent, (Schema.refuses_content_iff hplace hcontent).1 rfl⟩

/-- A request behind the root. -/
def annex : String :=
  "<fieldSchema package=\"p\"/><generate type=\"i32\"/>"

/-- Where no root is open any more, a request is still taken. -/
theorem Schema.exists_content_after_root :
    ∃ (names : List String) (started : Bool) (tag : Tag) (isEmpty : Bool) (rest : List Event),
      Document.Reaches (Markup.events annex) names started (tag.opening isEmpty :: rest) ∧
        tag.IsContent isEmpty ∧ "fieldSchema" ∉ names ∧
        ∃ s, Schema.parse annex = .ok s ∧ s.requests.map Request.type = ["i32"] := by
  have hevents : Markup.events annex =
      [Tag.opening ⟨"fieldSchema", [⟨"package", "p"⟩]⟩ true,
        Tag.opening ⟨"generate", [⟨"type", "i32"⟩]⟩ true] := by
    decide +kernel
  have hplace : Document.Reaches (Markup.events annex) [] true
      [Tag.opening ⟨"generate", [⟨"type", "i32"⟩]⟩ true] := by
    have hstart : Document.Reaches (Markup.events annex) [] false (Markup.events annex) := .start
    nth_rewrite 2 [hevents] at hstart
    exact hstart.root rfl
  have read : (Schema.parse annex).toOption.map (·.requests.map Request.type) = some ["i32"] := by
    decide +kernel
  exact ⟨_, _, _, _, _, hplace, by decide, nofun, toOption_map_eq_some read⟩

end EditableFields
