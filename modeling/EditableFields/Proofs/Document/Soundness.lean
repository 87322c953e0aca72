import EditableFields.Proofs.Document.Declared
import EditableFields.Proofs.Schema.Validity

/-!
# Documents: what is declared in a schema

Events that are read as a schema declare each type of the schema by one element, whatever else is
among them: `nodesDeclaring` says which elements declare types. What is declared fits together
(`Schema.ofEvents_sound`, and for the events of a document `Schema.parse_sound`): each type is found by its name, and the variants of a sum are named
after the sum and differ from each other.
-/

namespace EditableFields

open Markup (Ends Event Inside Node Tag levels)

/-! ## Declaring types -/

/-- What the types of a schema need of each other, and the elements that declare them. -/
structure Declarations (ds : List Descriptor) (nodes : List Node) : Prop where
  distinct : (ds.map Descriptor.name).Nodup
  notPrimitive : ∀ d ∈ ds, Primitive.ofTypeName? d.name = none
  declared : List.Forall₂ (Descriptor.DeclaredBy none) ds nodes

/-- The types of a schema, beside the primitives, are those that the elements declare. -/
def Schema.DeclaredBy (s : Schema) (nodes : List Node) : Prop :=
  ∃ ds, s.catalog = .ofList ds ∧ Declarations ds nodes

theorem Schema.DeclaredBy.declare {s t : Schema} {nodes : List Node} (hs : s.DeclaredBy nodes)
    {d : Descriptor} {n : Node} (hd : d.DeclaredBy none n) (h : Document.declare s d = .ok t) :
    t.DeclaredBy (nodes ++ [n]) := by
  obtain ⟨ds, hcatalog, declarations⟩ := hs
  rw [Document.declare] at h
  split at h
  · cases h
  · rename_i hnew
    cases h
    rw [hcatalog, Bool.not_eq_true] at hnew
    obtain ⟨hprimitive, hfresh⟩ := Catalog.fresh_of_has_eq_false hnew
    refine ⟨ds ++ [d], ?_, ?_, ?_, ?_⟩
    · rw [Schema.addType, hcatalog, Catalog.ofList_add]
    · rw [List.map_append, List.map_singleton, ← List.concat_eq_append]
      exact declarations.distinct.concat hfresh
    · exact List.forall_mem_append.2
        ⟨declarations.notPrimitive, List.forall_mem_singleton.2 hprimitive⟩
    · exact List.rel_append declarations.declared (.cons hd .nil)

namespace Document

variable {es rest : List Event}

/-- A section declares a type by each of its elements. -/
theorem typesWithin_declaredBy {rounds : Nat} {s t : Schema} (hrounds : es.length ≤ rounds)
    (h : typesWithin rounds s es = .ok (t, rest)) {before : List Node}
    (hs : s.DeclaredBy before) :
    ∃ children, Ends es children rest ∧ t.DeclaredBy (before ++ children) := by
  induction rounds generalizing s es before with
  | zero =>
    obtain rfl := List.eq_nil_of_length_eq_zero (Nat.le_zero.1 hrounds)
    cases h
    exact ⟨[], .nil, by rwa [List.append_nil]⟩
  | succ rounds ih =>
    cases es with
    | nil =>
      cases h
      exact ⟨[], .nil, by rwa [List.append_nil]⟩
    | cons e es =>
      have hes : es.length ≤ rounds := Nat.le_of_succ_le_succ hrounds
      have taken (tag : Tag) (isEmpty : Bool)
          (h : typesWithin (rounds + 1) s (tag.opening isEmpty :: es) = .ok (t, rest)) :
          ∃ children, Ends (tag.opening isEmpty :: es) children rest ∧
            t.DeclaredBy (before ++ children) := by
        rw [typesWithin_opening] at h
        obtain ⟨⟨d, mid⟩, hd, h⟩ := bind_eq_ok.1 h
        obtain ⟨s', hdeclare, h⟩ := bind_eq_ok.1 h
        obtain ⟨inner, hinside, hd⟩ := type_declaredBy hd
        obtain ⟨children, hends, ht⟩ := ih (hinside.length.trans hes) h (hs.declare hd hdeclare)
        refine ⟨_, hinside.ends hends tag, ?_⟩
        rwa [List.append_assoc, List.singleton_append] at ht
      cases e with
      | start tag => exact taken tag false h
      | empty tag => exact taken tag true h
      | close name =>
        cases h
        exact ⟨[], .close name _, by rwa [List.append_nil]⟩
      | filler sort =>
        obtain ⟨children, hends, ht⟩ := ih hes h hs
        exact ⟨children, hends.filler sort, ht⟩
      | fault f => cases h

end Document

mutual

/-- The elements that declare types at the end of an element that is not a type's, if those in
`before` did at its start. A root starts over, and so no longer holds what was declared before. -/
def Markup.Node.declaring (before : List Node) : Node → List Node
  | .element tag children =>
    if tag.name = "fieldSchema" then nodesDeclaring [] children
    else if tag.name = "types" then before ++ children
    else if (Document.directive? tag.name).isSome then before
    else nodesDeclaring before children

def nodesDeclaring (before : List Node) : List Node → List Node
  | [] => before
  | n :: ns => nodesDeclaring (n.declaring before) ns

end

theorem nodesDeclaring_append (before ns ms : List Node) :
    nodesDeclaring before (ns ++ ms) = nodesDeclaring (nodesDeclaring before ns) ms := by
  induction ns generalizing before with
  | nil => rw [List.nil_append, nodesDeclaring]
  | cons n ns ih => rw [List.cons_append, nodesDeclaring, nodesDeclaring, ih]

/-- An element that is passed over declares what the elements inside of it do. There are none in a
section that ends where it starts. -/
theorem nodesDeclaring_opening {tag : Tag} {isEmpty : Bool} (hroot : tag.name ≠ "fieldSchema")
    (htypes : tag.name = "types" → isEmpty = true) (hd : Document.directive? tag.name = none)
    (before : List Node) (es : List Event) :
    nodesDeclaring before (levels (tag.opening isEmpty :: es)).flatten =
      nodesDeclaring before (levels es).flatten := by
  cases isEmpty with
  | true =>
    rw [(Inside.empty es).flatten_levels, nodesDeclaring, Node.declaring, if_neg hroot, hd]
    simp [nodesDeclaring]
  | false =>
    have htag : tag.name ≠ "types" := fun htag => Bool.false_ne_true (htypes htag)
    obtain ⟨inner, outer, hopening, hlevels⟩ := Markup.flatten_levels_opening tag false es
    rw [hopening, hlevels, nodesDeclaring, Node.declaring, if_neg hroot, if_neg htag, hd,
      nodesDeclaring_append]
    rfl

namespace Document

theorem root_declaredBy {tag : Tag} {s : Schema} (h : Element.root tag = .ok s) :
    s.DeclaredBy [] :=
  ⟨[], (Element.setRoot_catalog "").shows rfl h, .nil, nofun, .nil⟩

theorem started_eq_ok {element : String} {schema : Option Schema} {s : Schema}
    (h : started element schema = .ok s) : s ∈ schema := by
  cases schema with
  | none => cases h
  | some s' =>
    cases h
    rfl

variable {schema schema' : Option Schema} {es rest : List Event}

/-- A tag outside all sections changes what is declared, and by which elements, alike. -/
theorem takeTag_declaredBy {tag : Tag} {isEmpty : Bool}
    (h : takeTag schema tag isEmpty es = .ok (schema', rest)) {before : List Node}
    (hschema : ∀ s ∈ schema, s.DeclaredBy before) :
    rest.length ≤ es.length ∧ ∃ after, (∀ s ∈ schema', s.DeclaredBy after) ∧
      nodesDeclaring before (levels (tag.opening isEmpty :: es)).flatten =
        nodesDeclaring after (levels rest).flatten := by
  unfold takeTag at h
  split at h
  next hroot =>
    obtain ⟨s, hs, h⟩ := bind_eq_ok.1 h
    cases h
    obtain ⟨inner, outer, hopening, hlevels⟩ := Markup.flatten_levels_opening tag isEmpty es
    refine ⟨Nat.le_refl _, [], fun s' hs' => Option.mem_some.1 hs' ▸ root_declaredBy hs, ?_⟩
    rw [hopening, hlevels, nodesDeclaring, Node.declaring, if_pos hroot, nodesDeclaring_append]
  next hroot =>
    split at h
    next htypes =>
      obtain ⟨htag, hempty⟩ : tag.name = "types" ∧ isEmpty = false := by simpa using htypes
      subst hempty
      obtain ⟨s, hs, h⟩ := bind_eq_ok.1 h
      obtain ⟨⟨t, mid⟩, ht, h⟩ := bind_eq_ok.1 h
      cases h
      obtain ⟨children, hends, ht⟩ :=
        typesWithin_declaredBy (Nat.le_refl _) ht (hschema s (started_eq_ok hs))
      refine ⟨hends.length, before ++ children, fun s' hs' => Option.mem_some.1 hs' ▸ ht, ?_⟩
      rw [(Inside.start hends).flatten_levels, nodesDeclaring, Node.declaring, if_neg hroot,
        if_pos htag]
    next htypes =>
      split at h
      next d hd =>
        obtain ⟨s, hs, h⟩ := bind_eq_ok.1 h
        obtain ⟨r, -, h⟩ := bind_eq_ok.1 h
        obtain ⟨mid, hskip, h⟩ := bind_eq_ok.1 h
        cases h
        obtain ⟨children, hinside⟩ := skipAfter_inside hskip
        have htag : tag.name ≠ "types" := by
          intro htag
          rw [htag] at hd
          cases hd
        refine ⟨hinside.length, before, fun s' hs' => Option.mem_some.1 hs' ▸ ?_, ?_⟩
        · exact hschema s (started_eq_ok hs)
        · rw [hinside.flatten_levels, nodesDeclaring, Node.declaring, if_neg hroot, if_neg htag, hd]
          rfl
      next hd =>
        cases h
        refine ⟨Nat.le_refl _, before, hschema, ?_⟩
        exact nodesDeclaring_opening hroot (by simpa using htypes) hd before es

/-- What was read up to the end of a document was declared by its elements. -/
theorem sectionsWithin_declaredBy {rounds : Nat} {t : Schema} (hrounds : es.length ≤ rounds)
    (h : sectionsWithin rounds schema es = .ok (some t)) {before : List Node}
    (hschema : ∀ s ∈ schema, s.DeclaredBy before) :
    t.DeclaredBy (nodesDeclaring before (levels es).flatten) := by
  induction rounds generalizing schema es before with
  | zero =>
    obtain rfl := List.eq_nil_of_length_eq_zero (Nat.le_zero.1 hrounds)
    cases h
    exact hschema t rfl
  | succ rounds ih =>
    cases es with
    | nil =>
      cases h
      exact hschema t rfl
    | cons e es =>
      have hes : es.length ≤ rounds := Nat.le_of_succ_le_succ hrounds
      have taken (tag : Tag) (isEmpty : Bool)
          (h : sectionsWithin (rounds + 1) schema (tag.opening isEmpty :: es) = .ok (some t)) :
          t.DeclaredBy (nodesDeclaring before (levels (tag.opening isEmpty :: es)).flatten) := by
        rw [sectionsWithin_opening] at h
        obtain ⟨⟨schema', rest⟩, htake, h⟩ := bind_eq_ok.1 h
        obtain ⟨hlength, after, hafter, hnodes⟩ := takeTag_declaredBy htake hschema
        rw [hnodes]
        exact ih (hlength.trans hes) h hafter
      cases e with
      | start tag => exact taken tag false h
      | empty tag => exact taken tag true h
      | close name => exact ih hes h hschema
      | filler sort => exact ih hes h hschema
      | fault f => cases h

end Document

/-! ## What fits together -/

/-- The elements of a document that declare the types of its schema, in order. -/
def declaringNodes (document : String) : List Node :=
  nodesDeclaring [] (levels (Markup.events document)).flatten

/-- A schema that is read is the one that the reader outside all sections ends with. -/
theorem Schema.sections_of_ofEvents {es : List Event} {s : Schema}
    (h : Schema.ofEvents es = .ok s) :
    Document.sectionsWithin es.length none es = .ok (some s) := by
  obtain ⟨schema, hsections, h⟩ := bind_eq_ok.1 h
  cases schema with
  | none => cases h
  | some t =>
    cases h
    exact hsections

theorem Schema.declaredBy_of_ofEvents {es : List Event} {s : Schema}
    (h : Schema.ofEvents es = .ok s) : s.DeclaredBy (nodesDeclaring [] (levels es).flatten) :=
  Document.sectionsWithin_declaredBy (Nat.le_refl _) (Schema.sections_of_ofEvents h) nofun

/-- A type that can be taken apart as it is: it is no primitive, and if it is a sum, its variants
are named after it and differ from each other. -/
structure Descriptor.Orderly (d : Descriptor) : Prop where
  notPrimitive : ∀ p, d ≠ .primitive p
  named : ∀ v ∈ d.variants, ∃ text, v.name = d.name ++ "::" ++ text
  distinct : (d.variants.map Descriptor.name).Nodup

theorem Descriptor.DeclaredBy.name {owner : Option String} {d : Descriptor} {n : Node}
    (h : d.DeclaredBy owner n) : n.tag.Names owner d.name := by
  cases d with
  | primitive => exact h.elim
  | product | sum => exact h.2.1
  | enumeration | singleton | sealed | external => exact h.2

theorem Descriptor.DeclaredBy.orderly {owner : Option String} {d : Descriptor} {n : Node}
    (h : d.DeclaredBy owner n) : d.Orderly := by
  cases d with
  | primitive => exact h.elim
  | sum name variants companion =>
    obtain ⟨-, -, distinct, hvariants⟩ := h
    have named : List.Forall₂ (fun v n => (∃ text, v.name = name ++ "::" ++ text) ∧
        v.DeclaredBy (some name) n) variants n.children :=
      (variantsDeclaredBy_iff.1 hvariants).imp fun v n hv =>
        have ⟨text, _, htext⟩ := hv.name
        ⟨⟨text, htext⟩, hv⟩
    exact ⟨nofun, ((List.forall₂_and_left _ _).1 named).1, distinct⟩
  | enumeration | singleton | product | sealed | external => exact ⟨nofun, nofun, .nil⟩

mutual

/-- What is declared is orderly at every depth. -/
theorem Descriptor.DeclaredBy.places {owner : Option String} {standing : Standing} :
    ∀ {d : Descriptor} {n : Node}, d.DeclaredBy owner n → ∀ p ∈ d.places standing, p.2.Orderly
  | .sum name variants companion, n, h => by
    rw [Descriptor.places]
    exact List.forall_mem_cons.2
      ⟨h.orderly, orderly_placesOf (variantsDeclaredBy_iff.1 h.2.2.2)⟩
  | .enumeration .., _, h | .singleton .., _, h | .product .., _, h | .sealed _, _, h
  | .external .., _, h => List.forall_mem_singleton.2 h.orderly

theorem orderly_placesOf {owner : Option String} {standing : Standing} :
    ∀ {ds : List Descriptor} {ns : List Node}, List.Forall₂ (Descriptor.DeclaredBy owner) ds ns →
      ∀ p ∈ placesOf standing ds, p.2.Orderly
  | [], _, _ => nofun
  | d :: ds, _, .cons hd hds => by
    rw [placesOf]
    exact List.forall_mem_append.2 ⟨hd.places, orderly_placesOf hds⟩

end

/-- What holds of the types of a schema document holds of the types that are read from any events:
their declarations fit together, and they are as their elements declare them. -/
theorem Schema.ofEvents_sound {es : List Event} {s : Schema} (h : Schema.ofEvents es = .ok s) :
    (s.catalog.declared.map Descriptor.name).Nodup ∧
      (∀ d ∈ s.catalog.declared,
        Primitive.ofTypeName? d.name = none ∧ s.catalog.get? d.name = some d) ∧
      (∀ p ∈ placesOf .topLevel s.catalog.declared, p.2.Orderly) ∧
      List.Forall₂ (Descriptor.DeclaredBy none) s.catalog.declared
        (nodesDeclaring [] (levels es).flatten) := by
  obtain ⟨ds, hcatalog, declarations⟩ := Schema.declaredBy_of_ofEvents h
  rw [hcatalog, Catalog.declared_ofList]
  exact ⟨declarations.distinct, fun d hd => ⟨declarations.notPrimitive d hd,
      Catalog.get?_ofList_of_mem declarations.distinct hd⟩,
    orderly_placesOf declarations.declared, declarations.declared⟩

/-- The schema of a document declares types of different names, none of them a primitive's, and
each is found by its name. At every depth no primitive is declared, and the variants of a sum are
named after it and differ from each other. All of them are as their elements declare them, and so
the members of positional products that have no name there have their positions for names. -/
theorem Schema.parse_sound {document : String} {s : Schema} (h : Schema.parse document = .ok s) :
    (s.catalog.declared.map Descriptor.name).Nodup ∧
      (∀ d ∈ s.catalog.declared,
        Primitive.ofTypeName? d.name = none ∧ s.catalog.get? d.name = some d) ∧
      (∀ p ∈ placesOf .topLevel s.catalog.declared, p.2.Orderly) ∧
      List.Forall₂ (Descriptor.DeclaredBy none) s.catalog.declared (declaringNodes document) :=
  Schema.ofEvents_sound h

/-- A document that ends inside of a variant of a variant. -/
def sketch : String :=
  "<fieldSchema><types><sum name=\"Shape\"><sum name=\"Path\"><product name=\"Arc\" " ++
    "style=\"positional\"><member type=\"i32\"/><member name=\"to\" type=\"i32\"/>"

theorem Schema.parse_sound_sketch :
    ∃ s, Schema.parse sketch = .ok s ∧
      (placesOf .topLevel s.catalog.declared).map
          (fun p => (p.2.name, p.2.members.map (·.name))) =
        [("Shape", []), ("Shape::Path", []), ("Shape::Path::Arc", ["0", "to"])] ∧
      (s.catalog.declared.map Descriptor.name).Nodup ∧
      (∀ d ∈ s.catalog.declared,
        Primitive.ofTypeName? d.name = none ∧ s.catalog.get? d.name = some d) ∧
      (∀ p ∈ placesOf .topLevel s.catalog.declared, p.2.Orderly) ∧
      List.Forall₂ (Descriptor.DeclaredBy none) s.catalog.declared (declaringNodes sketch) := by
  have read : (Schema.parse sketch).toOption.map (fun s =>
      (placesOf .topLevel s.catalog.declared).map
        fun p => (p.2.name, p.2.members.map (·.name))) =
      some [("Shape", []), ("Shape::Path", []), ("Shape::Path::Arc", ["0", "to"])] := by
    decide +kernel
  obtain ⟨s, hs, places⟩ := toOption_map_eq_some read
  exact ⟨s, hs, places, Schema.parse_sound hs⟩

end EditableFields
