import EditableFields.Proofs.Document.Nesting
import EditableFields.Proofs.Document.Writing
import EditableFields.Proofs.Schema.Validity

/-!
# Documents: reading a schema back

Every element of a schema's document says what it was written from, and is read up to its end
whatever follows. So a schema that can be written is read back from its document, in any layout
(`Schema.parse_document`).
-/

namespace EditableFields

open Markup (Attribute Event Layout Node Tag nodesEvents)

/-! ## Single elements -/

namespace Element

theorem entry_tag (owner e : String) : entry owner (entryTag e) = .ok e := rfl

theorem member_tag (owner : String) (style : ConstructorStyle) (index : Nat) (m : Member) :
    member owner style index m.tag = .ok m := by
  obtain ⟨name, type, nullable⟩ := m
  cases nullable <;> rfl

section Types

variable {owner : Option String} {name : String} (h : Named owner name)
include h

theorem enumeration_tag (entries : List String) :
    enumeration owner ((Descriptor.enumeration name entries).tag owner) = .ok name :=
  congrArg Except.ok h.qualified

theorem product_tag (content : Product) :
    product owner ((Descriptor.product name content).tag owner) =
      .ok (name, { content with members := [] }) := by
  obtain ⟨members, style, companion, value⟩ := content
  have hread :
      product owner ((Descriptor.product name ⟨members, style, companion, value⟩).tag owner) =
        .ok (qualify owner (localName owner name), ⟨[], style, companion, value⟩) := by
    cases style <;> cases companion <;> cases value <;> rfl
  rw [hread, h.qualified]

theorem sum_tag (variants : List Descriptor) (companion : Bool) :
    sum owner ((Descriptor.sum name variants companion).tag owner) = .ok (name, companion) := by
  have hread : sum owner ((Descriptor.sum name variants companion).tag owner) =
      .ok (qualify owner (localName owner name), companion) := by
    cases companion <;> rfl
  rw [hread, h.qualified]

theorem simple_singleton (valueless : Bool) :
    simple owner ((Descriptor.singleton name valueless).tag owner) =
      .ok (.singleton name valueless) := by
  have hread : simple owner ((Descriptor.singleton name valueless).tag owner) =
      .ok (.singleton (qualify owner (localName owner name)) valueless) := by
    cases valueless <;> rfl
  rw [hread, h.qualified]

theorem simple_sealed :
    simple owner ((Descriptor.sealed name).tag owner) = .ok (.sealed name) :=
  congrArg (Except.ok ∘ Descriptor.sealed) h.qualified

theorem simple_external (factory : String) :
    simple owner ((Descriptor.external name factory).tag owner) = .ok (.external name factory) :=
  congrArg (Except.ok ∘ (Descriptor.external · factory)) h.qualified

end Types

theorem request_tag {r : Request} (hr : r.Writable) : request r.directive r.tag = .ok r := by
  obtain ⟨type, function, autoLabel, nullable, directive⟩ := r
  cases directive with
  | field => cases function <;> cases autoLabel <;> cases nullable <;> rfl
  | factory =>
    have hnullable : nullable = false := hr.nullable rfl
    subst hnullable
    cases function <;> cases autoLabel <;> rfl

theorem root_tag (s : Schema) :
    root s.tag = .ok { s with catalog := .primitives, requests := [] } := by
  obtain ⟨package, runtime, tolerant, nameCase, catalog, requests⟩ := s
  cases runtime <;> cases tolerant <;> cases nameCase <;> rfl

end Element

namespace Document

variable (l : Layout)

theorem ok_bind {α β : Type} (a : α) (f : α → Except DocumentError β) :
    (Except.ok a >>= f) = f a := rfl

/-! ## Elements with children -/

theorem length_le_nodesEvents (ns : List Node) : ns.length ≤ (nodesEvents l ns).length := by
  induction ns with
  | nil => exact Nat.le_refl _
  | cons n ns ih =>
    rw [nodesEvents]
    simp only [List.length_cons, List.cons_append, List.length_append]
    omega

theorem length_le_inner (tag : Tag) (children : List Node) :
    (nodesEvents l children).length ≤ ((Node.element tag children).inner l).length := by
  rcases Node.written l tag children with ⟨-, hnil, -, -⟩ | ⟨-, -, hinner⟩
  · rw [hnil]
    exact Nat.zero_le _
  · rw [hinner, List.length_append]
    exact Nat.le_add_right _ _

theorem skipAfter_leaf (tag : Tag) (es : List Event) :
    skipAfter ((Node.element tag []).isEmpty l) ((Node.element tag []).inner l ++ es) = .ok es := by
  rcases Node.written l tag [] with ⟨hempty, -, -, hinner⟩ | ⟨hempty, -, hinner⟩
  · rw [hempty, hinner]
    rfl
  · rw [hempty, hinner]
    rfl

theorem partsWithin_leaf {α : Type} (part : Nat → Tag → Except DocumentError α)
    (rounds index : Nat) (tag : Tag) (es : List Event) :
    partsWithin part (rounds + 1) index
        ((Node.element tag []).opening l :: ((Node.element tag []).inner l ++ es)) =
      part index tag >>= fun a => partsWithin part rounds (index + 1) es >>= fun q =>
        .ok (a :: q.1, q.2) := by
  rw [Node.opening_eq, partsWithin_opening, skipAfter_leaf]
  rfl

/-- Children that say what they were written from are read back, up to the end of their
element. -/
theorem partsWithin_nodes {α : Type} {part : Nat → Tag → Except DocumentError α} {write : α → Tag}
    (hread : ∀ index a, part index (write a) = .ok a) (as : List α) {rounds : Nat}
    (hrounds : as.length < rounds) (index : Nat) (name : String) (es : List Event) :
    partsWithin part rounds index
        (nodesEvents l (as.map fun a => .element (write a) []) ++ .close name :: es) =
      .ok (as, es) := by
  induction as generalizing rounds index with
  | nil =>
    cases rounds with
    | zero => cases hrounds
    | succ rounds => rfl
  | cons a as ih =>
    cases rounds with
    | zero => cases hrounds
    | succ rounds =>
      rw [List.map_cons, nodesEvents, List.append_assoc, List.cons_append, partsWithin_leaf,
        hread, ok_bind, ih (Nat.lt_of_succ_lt_succ hrounds), ok_bind]

/-- The children of an element are read, whether or not it was written as one tag. -/
theorem parts_node {α : Type} {part : Nat → Tag → Except DocumentError α} {write : α → Tag}
    (hread : ∀ index a, part index (write a) = .ok a) (tag : Tag) (as : List α)
    (es : List Event) :
    parts part ((Node.element tag (as.map fun a => .element (write a) [])).isEmpty l)
        ((Node.element tag (as.map fun a => .element (write a) [])).inner l ++ es) =
      .ok (as, es) := by
  rcases Node.written l tag (as.map fun a => .element (write a) []) with
    ⟨hempty, hnil, -, hinner⟩ | ⟨hempty, -, hinner⟩
  · rw [hempty, hinner, List.map_eq_nil_iff.1 hnil]
    rfl
  · have hrounds := length_le_nodesEvents l (as.map fun a => .element (write a) [])
    rw [List.length_map] at hrounds
    rw [hempty, hinner, parts, if_neg Bool.false_ne_true, List.append_assoc, List.singleton_append]
    apply partsWithin_nodes l hread
    rw [List.length_append, List.length_cons]
    omega

/-! ## Types -/

variable {owner : Option String} {d : Descriptor}

/-- A type without parts is read from its tag alone. -/
theorem typeWith_simple
    {read : String → List Event → Except DocumentError (List Descriptor × List Event)} {tag : Tag}
    (htag : tag.name ∈ ["singleton", "opaque", "external"])
    (hsimple : Element.simple owner tag = .ok d) (es : List Event) :
    typeWith read owner tag ((Node.element tag []).isEmpty l)
        ((Node.element tag []).inner l ++ es) =
      .ok (d, es) := by
  have htype (isEmpty : Bool) (es : List Event) : typeWith read owner tag isEmpty es =
      Element.simple owner tag >>= fun d => skipAfter isEmpty es >>= fun es => .ok (d, es) := by
    simp only [List.mem_cons, List.not_mem_nil, or_false] at htag
    rcases htag with htag | htag | htag <;> rw [typeWith, htag] <;> rfl
  rw [htype, hsimple, ok_bind, skipAfter_leaf, ok_bind]

/-- A type is read from its element, if the variants of a sum are read from theirs. -/
theorem typeWith_node
    (read : String → List Event → Except DocumentError (List Descriptor × List Event))
    (hd : d.Writable owner) (es : List Event)
    (hread : ∀ name variants companion, d = .sum name variants companion → ∀ close,
      read name (nodesEvents l (variantNodes name variants) ++ .close close :: es) =
        .ok (variants, es)) :
    typeWith read owner (d.tag owner) ((Node.element (d.tag owner) d.parts).isEmpty l)
        ((Node.element (d.tag owner) d.parts).inner l ++ es) =
      .ok (d, es) := by
  cases d with
  | primitive kind => exact hd.elim
  | enumeration name entries =>
    have hparts := parts_node l (fun _ => Element.entry_tag name)
      ((Descriptor.enumeration name entries).tag owner) entries es
    have htype (isEmpty : Bool) (es : List Event) :
        typeWith read owner ((Descriptor.enumeration name entries).tag owner) isEmpty es =
          Element.enumeration owner ((Descriptor.enumeration name entries).tag owner) >>=
            fun name => parts (fun _ => Element.entry name) isEmpty es >>=
            fun p => .ok (.enumeration name p.1, p.2) := rfl
    rw [htype, Element.enumeration_tag hd.1, ok_bind, Descriptor.parts, hparts, ok_bind]
  | singleton name valueless =>
    exact typeWith_simple l (by simp [Descriptor.tag]) (Element.simple_singleton hd valueless) es
  | product name content =>
    have hparts := parts_node l (Element.member_tag name content.style)
      ((Descriptor.product name content).tag owner) content.members es
    have htype (isEmpty : Bool) (es : List Event) :
        typeWith read owner ((Descriptor.product name content).tag owner) isEmpty es =
          Element.product owner ((Descriptor.product name content).tag owner) >>=
            fun p => parts (Element.member p.1 p.2.style) isEmpty es >>=
            fun q => .ok (.product p.1 { p.2 with members := q.1 }, q.2) := rfl
    rw [htype, Element.product_tag hd.1, ok_bind, Descriptor.parts, hparts, ok_bind]
  | sum name variants companion =>
    have htag := Element.sum_tag hd.1 variants companion
    rw [Descriptor.parts]
    rcases Node.written l ((Descriptor.sum name variants companion).tag owner)
      (variantNodes name variants) with ⟨hempty, hnil, -, hinner⟩ | ⟨hempty, -, hinner⟩
    · have htype (es : List Event) :
          typeWith read owner ((Descriptor.sum name variants companion).tag owner) true es =
            Element.sum owner ((Descriptor.sum name variants companion).tag owner) >>=
              fun p => .ok (.sum p.1 [] p.2, es) := rfl
      have hvariants : variants = [] := by
        cases variants with
        | nil => rfl
        | cons v vs => cases hnil
      rw [hempty, hinner, htype, htag, ok_bind, hvariants, List.nil_append]
    · have htype (es : List Event) :
          typeWith read owner ((Descriptor.sum name variants companion).tag owner) false es =
            Element.sum owner ((Descriptor.sum name variants companion).tag owner) >>=
              fun p => read p.1 es >>= fun q => .ok (.sum p.1 q.1 p.2, q.2) := rfl
      rw [hempty, hinner, htype, htag, ok_bind, List.append_assoc, List.singleton_append,
        hread name variants companion rfl, ok_bind]
  | sealed name => exact typeWith_simple l (by simp [Descriptor.tag]) (Element.simple_sealed hd) es
  | external name factory =>
    exact typeWith_simple l (by simp [Descriptor.tag]) (Element.simple_external hd.1 factory) es

/-- The variants of a sum are read back, up to the end of its element. -/
theorem variantsWithin_nodes {owner : String} {rounds : Nat} {vs : List Descriptor}
    (hvs : VariantsWritable owner vs) (hdistinct : (vs.map Descriptor.name).Nodup)
    (hrounds : (nodesEvents l (variantNodes owner vs)).length < rounds) (seen : List String)
    (hnew : ∀ v ∈ vs, v.name ∉ seen) (close : String) (es : List Event) :
    variantsWithin rounds seen owner
        (nodesEvents l (variantNodes owner vs) ++ .close close :: es) =
      .ok (vs, es) := by
  -- A round reads a variant with all that is in it, so rounds are left for what is inside of it
  -- and for what follows.
  induction rounds generalizing owner vs seen close es with
  | zero => cases hrounds
  | succ rounds ih =>
    cases vs with
    | nil => rfl
    | cons v vs =>
      obtain ⟨hv, hvs⟩ := hvs
      rw [List.map_cons, List.nodup_cons] at hdistinct
      obtain ⟨hnv, hnvs⟩ := List.forall_mem_cons.1 hnew
      rw [variantNodes, nodesEvents, List.length_append, List.length_cons] at hrounds
      have hread := typeWith_node l (variantsWithin rounds []) hv
        (nodesEvents l (variantNodes owner vs) ++ .close close :: es) (by
          rintro name variants companion rfl close
          have hinner := length_le_inner l
            ((Descriptor.sum name variants companion).tag (some owner)) (variantNodes name variants)
          rw [Descriptor.parts] at hrounds
          exact ih hv.2.2 hv.2.1 (by omega) [] (fun _ _ => List.not_mem_nil) close _)
      have htail := ih hvs hdistinct.2 (by omega) (v.name :: seen) (by
        intro w hw hmem
        rcases List.mem_cons.1 hmem with hname | hmem
        · exact hdistinct.1 (hname ▸ List.mem_map_of_mem hw)
        · exact hnvs w hw hmem) close es
      have hseen : ¬seen.contains v.name = true := by simpa using hnv
      rw [variantNodes, nodesEvents, List.append_assoc, List.cons_append, Node.opening_eq,
        variantsWithin_opening, Node.tag, hread, ok_bind, if_neg hseen, htail, ok_bind]

theorem type_node (hd : d.Writable owner) (es : List Event) :
    type owner (d.tag owner) ((Node.element (d.tag owner) d.parts).isEmpty l)
        ((Node.element (d.tag owner) d.parts).inner l ++ es) =
      .ok (d, es) := by
  apply typeWith_node l variants hd
  rintro name vs companion rfl close
  obtain ⟨-, hdistinct, hvs⟩ := hd
  apply variantsWithin_nodes l hvs hdistinct _ [] fun _ _ => List.not_mem_nil
  rw [List.length_append, List.length_cons]
  omega

/-! ## Sections -/

/-- Types of new names are declared in order. -/
theorem typesWithin_nodes {ds : List Descriptor} (hds : ∀ d ∈ ds, d.Writable none)
    (hdistinct : (ds.map Descriptor.name).Nodup) {s : Schema}
    (hnew : ∀ d ∈ ds, s.catalog.has d.name = false) {rounds : Nat} (hrounds : ds.length < rounds)
    (close : String) (es : List Event) :
    typesWithin rounds s
        (nodesEvents l (ds.map fun d => .element (d.tag none) d.parts) ++ .close close :: es) =
      .ok ({ s with catalog := s.catalog.addAll ds }, es) := by
  induction ds generalizing s rounds with
  | nil =>
    cases rounds with
    | zero => cases hrounds
    | succ rounds => rfl
  | cons d ds ih =>
    cases rounds with
    | zero => cases hrounds
    | succ rounds =>
      obtain ⟨hd, hds⟩ := List.forall_mem_cons.1 hds
      rw [List.map_cons, List.nodup_cons] at hdistinct
      obtain ⟨hnd, hnds⟩ := List.forall_mem_cons.1 hnew
      have hdeclare : declare s d = .ok (s.addType d) := by
        rw [declare, hnd, if_neg Bool.false_ne_true]
      have hnext : ∀ e ∈ ds, (s.addType d).catalog.has e.name = false := by
        intro e he
        have hne : e.name ≠ d.name := fun hname => hdistinct.1 (hname ▸ List.mem_map_of_mem he)
        rw [Schema.addType, Catalog.has, Catalog.lookup_index_add, if_neg hne]
        exact hnds e he
      rw [List.map_cons, nodesEvents, List.append_assoc, List.cons_append, Node.opening_eq,
        typesWithin_opening]
      rw [Node.tag, type_node l hd, ok_bind, hdeclare, ok_bind,
        ih hds hdistinct.2 hnext (Nat.lt_of_succ_lt_succ hrounds)]
      rfl

/-- The section of the types is taken, whether or not any type is in it. -/
theorem takeTag_types {ds : List Descriptor} (hds : ∀ d ∈ ds, d.Writable none)
    (hdistinct : (ds.map Descriptor.name).Nodup) {s : Schema}
    (hnew : ∀ d ∈ ds, s.catalog.has d.name = false) (es : List Event) :
    takeTag (some s) ⟨"types", []⟩
        ((Node.element ⟨"types", []⟩
          (ds.map fun d => .element (d.tag none) d.parts)).isEmpty l)
        ((Node.element ⟨"types", []⟩
          (ds.map fun d => .element (d.tag none) d.parts)).inner l ++ es) =
      .ok (some { s with catalog := s.catalog.addAll ds }, es) := by
  rcases Node.written l ⟨"types", []⟩ (ds.map fun d => .element (d.tag none) d.parts) with
    ⟨hempty, hnil, -, hinner⟩ | ⟨hempty, -, hinner⟩
  · rw [hempty, hinner, List.map_eq_nil_iff.1 hnil]
    rfl
  · have htake (es : List Event) : takeTag (some s) ⟨"types", []⟩ false es =
        types s es >>= fun p => .ok (some p.1, p.2) := rfl
    have hrounds := length_le_nodesEvents l (ds.map fun d => .element (d.tag none) d.parts)
    rw [List.length_map] at hrounds
    rw [hempty, hinner, htake, types, List.append_assoc, List.singleton_append,
      typesWithin_nodes l hds hdistinct hnew, ok_bind]
    rw [List.length_append, List.length_cons]
    omega

theorem takeTag_request {r : Request} (hr : r.Writable) (s : Schema) (es : List Event) :
    takeTag (some s) r.tag ((Node.element r.tag []).isEmpty l)
        ((Node.element r.tag []).inner l ++ es) =
      .ok (some (s.addRequest r), es) := by
  have htake (isEmpty : Bool) (es : List Event) : takeTag (some s) r.tag isEmpty es =
      Element.request r.directive r.tag >>= fun r => skipAfter isEmpty es >>= fun es =>
        .ok (some (s.addRequest r), es) := by
    obtain ⟨type, function, autoLabel, nullable, directive⟩ := r
    cases directive <;> rfl
  rw [htake, Element.request_tag hr, ok_bind, skipAfter_leaf, ok_bind]

/-- Requests are taken in order, up to the end of the document. -/
theorem sectionsWithin_requests {rs : List Request} (hrs : ∀ r ∈ rs, r.Writable) (s : Schema)
    {rounds : Nat} (hrounds : rs.length < rounds) (close : String) :
    sectionsWithin rounds (some s)
        (nodesEvents l (rs.map fun r => .element r.tag []) ++ [.close close]) =
      .ok (some { s with requests := s.requests ++ rs }) := by
  induction rs generalizing s rounds with
  | nil =>
    cases rounds with
    | zero => cases hrounds
    | succ rounds =>
      rw [List.append_nil]
      cases rounds <;> rfl
  | cons r rs ih =>
    cases rounds with
    | zero => cases hrounds
    | succ rounds =>
      obtain ⟨hr, hrs⟩ := List.forall_mem_cons.1 hrs
      rw [List.map_cons, nodesEvents, List.append_assoc, List.cons_append, Node.opening_eq,
        sectionsWithin_opening, Node.tag, takeTag_request l hr, ok_bind,
        ih hrs _ (Nat.lt_of_succ_lt_succ hrounds)]
      simp [Schema.addRequest]

/-- The types of a schema are read before its requests, into what its root has started. -/
theorem sectionsWithin_node {s : Schema} (hs : s.Writable) :
    sectionsWithin (s.node.opening l :: s.node.inner l).length none
      (s.node.opening l :: s.node.inner l) = .ok (some s) := by
  have hnew : ∀ d ∈ s.catalog.declared, Catalog.primitives.has d.name = false :=
    fun d hd => Catalog.has_primitives (hs.declarable d hd)
  have hroot (es : List Event) : takeTag none s.tag false es =
      Element.root s.tag >>= fun s => .ok (some s, es) := rfl
  rcases Node.written l s.tag (.element ⟨"types", []⟩ _ :: s.requests.map _) with
    ⟨-, hnil, -, -⟩ | ⟨hempty, -, hinner⟩
  · cases hnil
  · rw [List.length_cons, Node.opening_eq, sectionsWithin_opening, Schema.node, hempty, hinner,
      Node.tag, hroot, Element.root_tag, ok_bind, ok_bind, nodesEvents, List.append_assoc,
      List.cons_append, List.length_cons, Node.opening_eq, sectionsWithin_opening, Node.tag,
      takeTag_types l hs.types hs.distinct hnew, ok_bind, sectionsWithin_requests l hs.requests]
    · rw [List.nil_append, ← Catalog.ofList, ← hs.catalog]
    · have hrequests := length_le_nodesEvents l (s.requests.map fun r => .element r.tag [])
      rw [List.length_map] at hrequests
      simp only [List.length_append, List.length_cons, List.length_nil]
      omega

end Document

namespace Schema

/-- A schema that can be written is read back from its document, in any layout. -/
theorem parse_document (l : Layout) {s : Schema} (hs : s.Writable) :
    Schema.parse (s.document l) = .ok s := by
  rw [parse, document, Markup.events_document l (node_wellformed hs), ofEvents,
    Document.sectionsWithin_node l hs]
  rfl

/-- Types of every kind, variants of variants among them, and requests of both directives. -/
def picture : Schema :=
  ⟨"demo", some "::fieldforge_core", true, .lowerCamel,
    .ofList
      [.enumeration "Color" ["Red", "Green"], .singleton "Marker" false,
        .product "UserId" ⟨[⟨"0", "i64", false⟩], .positional, true, true⟩,
        .sum "Shape"
          [.singleton "Shape::Dot" true,
            .product "Shape::Circle" ⟨[⟨"radius", "f64", true⟩], .named, false, false⟩,
            .sum "Shape::Path"
              [.sealed "Shape::Path::Raw", .external "Shape::Path::Arc" "crate::ArcFactory"] false]
          true,
        .sum "Never" [] true],
    [⟨"Shape", some "shape", true, false, .factory⟩, ⟨"i32", none, false, true, .field⟩]⟩

theorem parse_document_picture : picture.Writable ∧
    Schema.parse (picture.document (.indented 2 true)) = .ok picture := by
  have hwritable : picture.Writable :=
    { package := by decide
      runtime := by decide
      catalog := by rw [picture, Catalog.declared_ofList]
      distinct := by decide
      declarable := by decide
      types := by decide
      requests := by decide }
  exact ⟨hwritable, parse_document (.indented 2 true) hwritable⟩

example : Schema.document .compact
      ⟨"demo", none, false, .snake, .ofList [.sealed "Blob"], [.plain .field "Blob"]⟩ =
    "<fieldSchema package=\"demo\" tolerateUnsupported=\"false\" nameCase=\"snake\">" ++
      "<types><opaque name=\"Blob\"/></types>" ++
      "<generateField type=\"Blob\" autoLabel=\"true\" nullable=\"false\"/></fieldSchema>" := by
  decide +kernel

end Schema

end EditableFields
