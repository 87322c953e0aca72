import EditableFields.Proofs.Document.RoundTrip
import EditableFields.Proofs.Document.Soundness
import EditableFields.Proofs.Document.Texts

/-!
# Documents: escaped texts

Five characters mean something in markup and can be written as references instead (`escape`), so
that any text can be written, in quotes of either kind. The readers expand no reference: they store
the text as it is written, references included (`Schema.parse_escaped`). A text is therefore stored
as it was meant if and only if it holds none of the five.
-/

namespace EditableFields

open Markup (Attribute Event Layout Node PlainName Quotable Quoting Tag nodesEvents)

namespace Markup

/-! ## References -/

/-- The characters that are written as references. -/
def marked : List Char :=
  ['&', '<', '>', '"', '\'']

/-- How a character is written. -/
def reference : Char → List Char
  | '&' => ['&', 'a', 'm', 'p', ';']
  | '<' => ['&', 'l', 't', ';']
  | '>' => ['&', 'g', 't', ';']
  | '"' => ['&', 'q', 'u', 'o', 't', ';']
  | '\'' => ['&', 'a', 'p', 'o', 's', ';']
  | c => [c]

def escape (text : String) : String :=
  String.ofList (text.toList.flatMap reference)

/-- The text that was escaped. -/
def unescape : List Char → List Char
  | '&' :: 'a' :: 'm' :: 'p' :: ';' :: cs => '&' :: unescape cs
  | '&' :: 'l' :: 't' :: ';' :: cs => '<' :: unescape cs
  | '&' :: 'g' :: 't' :: ';' :: cs => '>' :: unescape cs
  | '&' :: 'q' :: 'u' :: 'o' :: 't' :: ';' :: cs => '"' :: unescape cs
  | '&' :: 'a' :: 'p' :: 'o' :: 's' :: ';' :: cs => '\'' :: unescape cs
  | c :: cs => c :: unescape cs
  | [] => []

theorem reference_of_not_marked {c : Char} (h : c ∉ marked) : reference c = [c] := by
  unfold reference
  split
  all_goals first | rfl | exact absurd (by decide) h

theorem unescape_reference (c : Char) (cs : List Char) :
    unescape (reference c ++ cs) = c :: unescape cs := by
  by_cases h : c ∈ marked
  · simp only [marked, List.mem_cons, List.not_mem_nil, or_false] at h
    rcases h with rfl | rfl | rfl | rfl | rfl <;> rfl
  · have hamp : c ≠ '&' := by
      rintro rfl
      exact h (by decide)
    rw [reference_of_not_marked h, List.singleton_append, unescape]
    all_goals exact fun _ hc => absurd hc hamp

theorem toList_escape (text : String) : (escape text).toList = text.toList.flatMap reference :=
  String.toList_ofList

theorem unescape_escape (text : String) : unescape (escape text).toList = text.toList := by
  rw [toList_escape]
  induction text.toList with
  | nil => rfl
  | cons c cs ih => rw [List.flatMap_cons, unescape_reference, ih]

theorem escape_injective : Function.Injective escape := by
  intro s t h
  rw [← String.toList_inj, ← unescape_escape s, ← unescape_escape t, h]

theorem escape_append (s t : String) : escape (s ++ t) = escape s ++ escape t := by
  rw [← String.toList_inj, String.toList_append, toList_escape, toList_escape, toList_escape,
    String.toList_append, List.flatMap_append]

theorem length_le_flatMap_reference (cs : List Char) :
    cs.length ≤ (cs.flatMap reference).length := by
  induction cs with
  | nil => exact Nat.le_refl _
  | cons c cs ih =>
    have hpos : 0 < (reference c).length := by
      unfold reference
      split <;> exact Nat.succ_pos _
    rw [List.flatMap_cons, List.length_append, List.length_cons]
    omega

theorem flatMap_reference_eq_self_iff (cs : List Char) :
    cs.flatMap reference = cs ↔ ∀ c ∈ cs, c ∉ marked := by
  induction cs with
  | nil => simp
  | cons c cs ih =>
    rw [List.flatMap_cons, List.forall_mem_cons, ← ih]
    by_cases hc : c ∈ marked
    · -- A reference is longer than its character, and the rest does not get shorter.
      have hlong : 1 < (reference c).length := by
        simp only [marked, List.mem_cons, List.not_mem_nil, or_false] at hc
        rcases hc with rfl | rfl | rfl | rfl | rfl <;> decide
      have hrest := length_le_flatMap_reference cs
      constructor
      · intro h
        have hlength := congrArg List.length h
        rw [List.length_append, List.length_cons] at hlength
        omega
      · exact fun h => absurd hc h.1
    · rw [reference_of_not_marked hc, List.singleton_append, List.cons_inj_right]
      exact ⟨fun h => ⟨hc, h⟩, And.right⟩

theorem escape_eq_self_iff (text : String) :
    escape text = text ↔ ∀ c ∈ text.toList, c ∉ marked := by
  rw [← flatMap_reference_eq_self_iff, ← toList_escape, String.toList_inj]

/-- No quote is left of a text that was escaped. -/
theorem quote_not_mem_escape (text : String) {quote : Char} (h : IsQuote quote) :
    quote ∉ (escape text).toList := by
  rw [toList_escape, List.mem_flatMap]
  rintro ⟨c, -, hc⟩
  by_cases hmarked : c ∈ marked
  · simp only [marked, List.mem_cons, List.not_mem_nil, or_false] at hmarked
    rcases h with rfl | rfl <;> rcases hmarked with rfl | rfl | rfl | rfl | rfl <;>
      exact absurd hc (by decide)
  · rw [reference_of_not_marked hmarked, List.mem_singleton] at hc
    rw [← hc] at hmarked
    rcases h with rfl | rfl <;> exact hmarked (by decide)

end Markup

/-- Names that the readers know hold none of the five characters. -/
theorem renaming_escape : Renaming Markup.escape where
  injective := Markup.escape_injective
  append := Markup.escape_append
  separator := by decide
  primitive := by
    intro kind
    cases kind <;> decide
  number := by
    intro index
    rw [Markup.escape_eq_self_iff]
    intro c hc hmarked
    rw [Nat.toString_eq_ofList_toDigits, String.toList_ofList] at hc
    have hdigit := Nat.isDigit_of_mem_toDigits (by decide) (by decide) hc
    simp only [Markup.marked, List.mem_cons, List.not_mem_nil, or_false] at hmarked
    rcases hmarked with rfl | rfl | rfl | rfl | rfl <;> exact absurd hdigit (by decide)
  context := by decide

/-! ## Elements with escaped texts -/

namespace Markup

section Events

variable (l : Layout) (f : String → String)

theorem isEmpty_nodesMapText (ns : List Node) : (nodesMapText f ns).isEmpty = ns.isEmpty := by
  cases ns <;> rfl

theorem Node.opening_mapText (n : Node) : (n.mapText f).opening l = (n.opening l).mapText f := by
  cases n with
  | element tag children =>
    rw [Node.mapText, opening, opening, isEmpty, isEmpty, isEmpty_nodesMapText]
    split <;> rfl

mutual

theorem Node.inner_mapText : ∀ n : Node, (n.mapText f).inner l = (n.inner l).map (·.mapText f)
  | .element tag children => by
    rw [Node.mapText, Node.inner, Node.inner, isEmpty_nodesMapText]
    split
    · rfl
    · rw [nodesEvents_mapText children, List.map_append]
      rfl

theorem nodesEvents_mapText :
    ∀ ns : List Node, nodesEvents l (nodesMapText f ns) = (nodesEvents l ns).map (·.mapText f)
  | [] => rfl
  | n :: ns => by
    rw [nodesMapText, nodesEvents, nodesEvents, Node.inner_mapText n, nodesEvents_mapText ns,
      Node.opening_mapText l f n, List.map_append, List.map_cons]

end

end Events

/-- A tag whose texts may be anything: its name, its keys and its other values can be written. -/
structure Tag.Escapable (t : Tag) : Prop where
  name : PlainName t.name
  keys : ∀ a ∈ t.attributes, PlainName a.key
  values : ∀ a ∈ t.attributes, a.key ∉ textKeys → Quotable a.value
  distinct : (t.attributes.map (·.key)).Nodup

mutual

def Node.Escapable : Node → Prop
  | .element tag children => tag.Escapable ∧ NodesEscapable children

def NodesEscapable : List Node → Prop
  | [] => True
  | n :: ns => n.Escapable ∧ NodesEscapable ns

end

theorem Tag.Escapable.wellformed {t : Tag} (ht : t.Escapable) : (t.mapText escape).Wellformed where
  name := ht.name
  attributes := by
    intro a ha
    obtain ⟨a, hmem, rfl⟩ := List.mem_map.1 ha
    refine ⟨Attribute.mapText_key escape a ▸ ht.keys a hmem, ?_⟩
    by_cases hkey : a.key ∈ textKeys
    · rw [Attribute.mapText_value rfl hkey]
      exact quote_not_mem_escape a.value (.inl rfl)
    · rw [Attribute.mapText_self rfl hkey]
      exact ht.values a hmem hkey
  distinct := by
    have hkeys : (t.mapText escape).attributes.map (·.key) = t.attributes.map (·.key) := by
      rw [Tag.mapText, List.map_map]
      exact List.map_congr_left fun a _ => Attribute.mapText_key escape a
    rw [hkeys]
    exact ht.distinct

mutual

theorem Node.Escapable.wellformed : ∀ {n : Node}, n.Escapable → (n.mapText escape).Wellformed
  | .element _ _, ⟨htag, hchildren⟩ => ⟨htag.wellformed, hchildren.wellformed⟩

theorem NodesEscapable.wellformed :
    ∀ {ns : List Node}, NodesEscapable ns → NodesWellformed (nodesMapText escape ns)
  | [], _ => trivial
  | _ :: _, ⟨hn, hns⟩ => ⟨hn.wellformed, hns.wellformed⟩

end

end Markup

/-! ## Schemas with escaped texts -/

/-- A schema that a document can give: what it declares can be declared side by side and is
orderly at every depth, and no factory makes an optional value. Its texts may be anything. -/
structure Schema.Expressible (s : Schema) : Prop where
  catalog : s.catalog = .ofList s.catalog.declared
  distinct : (s.catalog.declared.map Descriptor.name).Nodup
  declarable : ∀ d ∈ s.catalog.declared, Primitive.ofTypeName? d.name = none
  orderly : ∀ p ∈ placesOf .topLevel s.catalog.declared, p.2.Orderly
  requests : ∀ r ∈ s.requests, r.directive = .factory → r.nullable = false

theorem quotable_escape (text : String) : Quotable (Markup.escape text) :=
  Markup.quote_not_mem_escape text (.inl rfl)

theorem localName_qualify (owner : Option String) (text : String) :
    localName owner (Element.qualify owner text) = text := by
  cases owner with
  | none => rfl
  | some owner =>
    rw [← String.toList_inj, Element.qualify, localName, String.toList_ofList, String.toList_append,
      String.toList_append]
    have hlength : owner.toList.length + 2 = (owner.toList ++ "::".toList).length := by simp
    rw [hlength, List.drop_left]

theorem named_escape {owner : Option String} {name text : String}
    (h : name = Element.qualify owner text) :
    Named (owner.map Markup.escape) (Markup.escape name) where
  qualified := by
    rw [h, ← Element.qualify_map renaming_escape, localName_qualify]
  quotable := quotable_escape name

theorem map_name_mapText (f : String → String) (ds : List Descriptor) :
    (variantsMapText f ds).map Descriptor.name = (ds.map Descriptor.name).map f := by
  induction ds with
  | nil => rfl
  | cons d ds ih =>
    rw [variantsMapText, List.map_cons, List.map_cons, List.map_cons, ih, Descriptor.name_mapText]

mutual

/-- Whatever the texts of an orderly type are, it can be written with its texts escaped. -/
theorem Descriptor.writable_escape {standing : Standing} {owner : Option String} {text : String} :
    ∀ d : Descriptor, (∀ p ∈ d.places standing, p.2.Orderly) →
      d.name = Element.qualify owner text →
      (d.mapText Markup.escape).Writable (owner.map Markup.escape)
  | .primitive p, h, _ =>
    absurd rfl ((h _ (Descriptor.mem_places_self standing _)).notPrimitive p)
  | .enumeration name entries, _, hname => by
    refine ⟨named_escape hname, fun e he => ?_⟩
    obtain ⟨entry, -, rfl⟩ := List.mem_map.1 he
    exact quotable_escape entry
  | .singleton name valueless, _, hname => named_escape hname
  | .product name content, _, hname => by
    refine ⟨named_escape hname, fun m hm => ?_⟩
    obtain ⟨member, -, rfl⟩ := List.mem_map.1 hm
    exact ⟨quotable_escape member.name, quotable_escape member.type⟩
  | .sum name variants companion, h, hname => by
    have horderly := h _ (Descriptor.mem_places_self standing _)
    refine ⟨named_escape hname, ?_, variantsWritable_escape variants ?_ horderly.named⟩
    · rw [map_name_mapText]
      exact horderly.distinct.map renaming_escape.injective
    · rw [Descriptor.places] at h
      exact fun p hp => h p (List.mem_cons_of_mem _ hp)
  | .sealed name, _, hname => named_escape hname
  | .external name factory, _, hname => ⟨named_escape hname, quotable_escape factory⟩

theorem variantsWritable_escape {owner : String} :
    ∀ vs : List Descriptor, (∀ p ∈ placesOf .variant vs, p.2.Orderly) →
      (∀ v ∈ vs, ∃ text, v.name = owner ++ "::" ++ text) →
      VariantsWritable (Markup.escape owner) (variantsMapText Markup.escape vs)
  | [], _, _ => trivial
  | v :: vs, h, hnames => by
    rw [placesOf, List.forall_mem_append] at h
    obtain ⟨⟨text, hname⟩, hnames⟩ := List.forall_mem_cons.1 hnames
    have hv : v.name = Element.qualify (some owner) text := hname
    exact ⟨v.writable_escape h.1 hv, variantsWritable_escape vs h.2 hnames⟩

end

theorem Catalog.mapText_ofList {f : String → String} (hf : Renaming f) (ds : List Descriptor) :
    (ofList ds).mapText f = ofList (ds.map (·.mapText f)) := by
  rw [ofList, ← addAll_mapText, Element.mapText_primitives hf, ofList]

/-- No other name becomes that of a primitive. -/
theorem ofTypeName?_escape {name : String} (h : Primitive.ofTypeName? name = none) :
    Primitive.ofTypeName? (Markup.escape name) = none := by
  rw [Primitive.ofTypeName?, List.find?_eq_none] at h ⊢
  intro kind hkind hname
  have hescaped : Markup.escape kind.typeName = Markup.escape name := by
    rw [renaming_escape.primitive]
    simpa using hname
  exact h kind hkind (by simpa using Markup.escape_injective hescaped)

namespace Schema

variable {s : Schema}

theorem Expressible.catalog_mapText (hs : s.Expressible) :
    (s.mapText Markup.escape).catalog =
      .ofList (s.catalog.declared.map (·.mapText Markup.escape)) := by
  rw [← Catalog.mapText_ofList renaming_escape, ← hs.catalog]
  rfl

/-- With its texts escaped, a schema can be written. -/
theorem Expressible.writable (hs : s.Expressible) : (s.mapText Markup.escape).Writable := by
  have hcatalog := hs.catalog_mapText
  have hdeclared : (s.mapText Markup.escape).catalog.declared =
      s.catalog.declared.map (·.mapText Markup.escape) := by
    rw [hcatalog, Catalog.declared_ofList]
  refine ⟨quotable_escape s.package, ?_, ?_, ?_, ?_, ?_, ?_⟩
  · intro path hpath
    obtain ⟨runtime, -, rfl⟩ := Option.map_eq_some_iff.1 hpath
    exact quotable_escape runtime
  · rw [hdeclared, hcatalog]
  · have hnames : (s.catalog.declared.map (·.mapText Markup.escape)).map Descriptor.name =
        (s.catalog.declared.map Descriptor.name).map Markup.escape := by
      rw [List.map_map, List.map_map]
      exact List.map_congr_left fun d _ => d.name_mapText _
    rw [hdeclared, hnames]
    exact hs.distinct.map renaming_escape.injective
  · intro d hd
    rw [hdeclared] at hd
    obtain ⟨d, hmem, rfl⟩ := List.mem_map.1 hd
    rw [Descriptor.name_mapText]
    exact ofTypeName?_escape (hs.declarable d hmem)
  · intro d hd
    rw [hdeclared] at hd
    obtain ⟨d, hmem, rfl⟩ := List.mem_map.1 hd
    have horderly : ∀ p ∈ d.places .topLevel, p.2.Orderly :=
      fun p hp => hs.orderly p (mem_placesOf.2 ⟨d, hmem, hp⟩)
    have hname : d.name = Element.qualify none d.name := rfl
    exact d.writable_escape horderly hname
  · intro r hr
    obtain ⟨r, hmem, rfl⟩ := List.mem_map.1 hr
    refine ⟨quotable_escape r.type, fun name hname => ?_, hs.requests r hmem⟩
    obtain ⟨function, -, rfl⟩ := Option.map_eq_some_iff.1 hname
    exact quotable_escape function

/-- Texts may be anything where they are escaped, and what is stored is what is written: a schema
is read back with its texts escaped, in any layout and quotes. Other documents, too, give what they
would give if their texts could be read as they are meant, but escaped; and so do their errors. The
texts that are read as they are meant are those without any of the five characters. -/
theorem parse_escaped (l : Layout) (q : Quoting) :
    (∀ s : Schema, s.Expressible →
      parse ((s.mapText Markup.escape).node.documentIn l q) = .ok (s.mapText Markup.escape)) ∧
    (∀ n : Node, n.Escapable →
      Renamed Markup.escape (mapText Markup.escape) (ofEvents (n.opening l :: n.inner l))
        (parse ((n.mapText Markup.escape).documentIn l q))) ∧
    ∀ text, Markup.escape text = text ↔ ∀ c ∈ text.toList, c ∉ Markup.marked := by
  refine ⟨fun s hs => ?_, fun n hn => ?_, Markup.escape_eq_self_iff⟩
  · rw [parse, Markup.events_documentIn l q (node_wellformed hs.writable), ofEvents,
      Document.sectionsWithin_node l hs.writable]
    rfl
  · rw [parse, Markup.events_documentIn l q hn.wellformed, Markup.Node.opening_mapText,
      Markup.Node.inner_mapText]
    exact renamed_ofEvents renaming_escape (n.opening l :: n.inner l)

/-- Types whose names have characters of markup in them, and a request for one of them. -/
def vectors : Schema :=
  ⟨"demo", none, false, .snake,
    .ofList [.sealed "Vec<i32>", .sum "Shape" [.singleton "Shape::A&B" true] true],
    [.plain .field "Vec<i32>"]⟩

/-- The element of a document with an attribute that nobody reads. -/
def listing : Node :=
  .element ⟨"fieldSchema", [⟨"note", "draft"⟩, ⟨"package", "a&b"⟩]⟩
    [.element ⟨"types", []⟩ [.element ⟨"opaque", [⟨"name", "Vec<i32>"⟩]⟩ []]]

theorem parse_escaped_vectors :
    vectors.Expressible ∧ listing.Escapable ∧
      parse ((vectors.mapText Markup.escape).node.documentIn .compact .single) =
        .ok (vectors.mapText Markup.escape) ∧
      Renamed Markup.escape (mapText Markup.escape)
        (ofEvents (listing.opening .compact :: listing.inner .compact))
        (parse ((listing.mapText Markup.escape).documentIn .compact .single)) := by
  have hplaces : placesOf .topLevel vectors.catalog.declared =
      [(.topLevel, .sealed "Vec<i32>"),
        (.topLevel, .sum "Shape" [.singleton "Shape::A&B" true] true),
        (.variant, .singleton "Shape::A&B" true)] := by
    rw [vectors, Catalog.declared_ofList]
    rfl
  have hsealed : (Descriptor.sealed "Vec<i32>").Orderly := ⟨nofun, nofun, .nil⟩
  have hvariant : (Descriptor.singleton "Shape::A&B" true).Orderly := ⟨nofun, nofun, .nil⟩
  have hsum : (Descriptor.sum "Shape" [.singleton "Shape::A&B" true] true).Orderly :=
    ⟨nofun, List.forall_mem_singleton.2 ⟨"A&B", by decide⟩, by decide⟩
  have hvectors : vectors.Expressible := by
    refine ⟨by rw [vectors, Catalog.declared_ofList], by decide, by decide, ?_, by decide⟩
    rw [hplaces]
    simp only [List.forall_mem_cons]
    exact ⟨hsealed, hsum, hvariant, nofun⟩
  have hlisting : listing.Escapable :=
    ⟨⟨by decide, by decide, by decide, by decide⟩,
      ⟨⟨by decide, nofun, nofun, .nil⟩,
        ⟨⟨by decide, by decide, by decide, by decide⟩, trivial⟩, trivial⟩, trivial⟩
  obtain ⟨hschemas, hnodes, -⟩ := parse_escaped .compact .single
  exact ⟨hvectors, hlisting, hschemas vectors hvectors, hnodes listing hlisting⟩

/-- A type whose name is written with references. -/
def entity : String :=
  "<fieldSchema package=\"p\"><types><opaque name=\"Vec&lt;i32&gt;\"/></types></fieldSchema>"

/-- The name is written in escaped form, and stored in this form. -/
theorem exists_reference_stored :
    Markup.escape "Vec<i32>" = "Vec&lt;i32&gt;" ∧
      ∃ s, parse entity = .ok s ∧ s.catalog.declared.map Descriptor.name = ["Vec&lt;i32&gt;"] ∧
        "Vec<i32>" ∉ s.catalog.declared.map Descriptor.name := by
  have read : (parse entity).toOption.map (·.catalog.declared.map Descriptor.name) =
      some ["Vec&lt;i32&gt;"] := by
    decide +kernel
  obtain ⟨s, hs, hnames⟩ := toOption_map_eq_some read
  refine ⟨by decide, s, hs, hnames, ?_⟩
  rw [hnames]
  decide

end Schema

end EditableFields
