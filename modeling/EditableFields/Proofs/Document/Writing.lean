import EditableFields.Proofs.Document.Node
import EditableFields.Schema.Element

/-!
# Documents: writing a schema

The document of a schema spells every setting out. A variant is written inside its sum under what
follows the sum's own name, so a schema has a document only if its variants are named that way
(`Named`); what else is asked of it is that its types can be declared side by side and that no
text holds a double quote (`Schema.Writable`). What is written is well formed
(`Schema.node_wellformed`).
-/

namespace EditableFields

open Markup (Attribute Layout Node Tag PlainName Quotable NodesWellformed)

/-! ## Documents -/

/-- The name a type is written under: inside a sum, what follows the sum's name. -/
def localName (owner : Option String) (name : String) : String :=
  match owner with
  | some owner => String.ofList (name.toList.drop (owner.toList.length + 2))
  | none => name

def ConstructorStyle.text : ConstructorStyle → String
  | named => "named"
  | positional => "positional"

def NameCase.text : NameCase → String
  | snake => "snake"
  | lowerCamel => "lowerCamel"

def entryTag (entry : String) : Tag :=
  ⟨"entry", [⟨"name", entry⟩]⟩

def Member.tag (m : Member) : Tag :=
  ⟨"member", [⟨"name", m.name⟩, ⟨"type", m.type⟩, ⟨"nullable", toString m.nullable⟩]⟩

namespace Descriptor

/-- The tag of a type's element. Primitives are never declared, and have none of their own. -/
def tag (owner : Option String) : Descriptor → Tag
  | primitive p => ⟨"opaque", [⟨"name", localName owner p.name⟩]⟩
  | enumeration name _ => ⟨"enum", [⟨"name", localName owner name⟩]⟩
  | singleton name valueless =>
    ⟨"singleton", [⟨"name", localName owner name⟩, ⟨"valueless", toString valueless⟩]⟩
  | product name content =>
    ⟨"product", [⟨"name", localName owner name⟩, ⟨"style", content.style.text⟩,
      ⟨"companion", toString content.companion⟩, ⟨"value", toString content.value⟩]⟩
  | sum name _ companion =>
    ⟨"sum", [⟨"name", localName owner name⟩, ⟨"companion", toString companion⟩]⟩
  | sealed name => ⟨"opaque", [⟨"name", localName owner name⟩]⟩
  | external name factory =>
    ⟨"external", [⟨"name", localName owner name⟩, ⟨"factory", factory⟩]⟩

end Descriptor

mutual

/-- The elements inside of a type's element. -/
def Descriptor.parts : Descriptor → List Node
  | .enumeration _ entries => entries.map fun e => .element (entryTag e) []
  | .product _ content => content.members.map fun m => .element m.tag []
  | .sum name variants _ => variantNodes name variants
  | .primitive _ | .singleton .. | .sealed _ | .external .. => []

def variantNodes (owner : String) : List Descriptor → List Node
  | [] => []
  | v :: vs => .element (v.tag (some owner)) v.parts :: variantNodes owner vs

end

def Request.tag (r : Request) : Tag :=
  ⟨Element.requestElement r.directive,
    ⟨"type", r.type⟩ :: (r.function.map (⟨"name", ·⟩)).toList ++
      ⟨"autoLabel", toString r.autoLabel⟩ ::
        match r.directive with
        | .field => [⟨"nullable", toString r.nullable⟩]
        | .factory => []⟩

namespace Schema

def tag (s : Schema) : Tag :=
  ⟨"fieldSchema",
    ⟨"package", s.package⟩ :: (s.runtime.map (⟨"runtime", ·⟩)).toList ++
      [⟨"tolerateUnsupported", toString s.tolerant⟩, ⟨"nameCase", s.nameCase.text⟩]⟩

def node (s : Schema) : Node :=
  .element s.tag
    (.element ⟨"types", []⟩ (s.catalog.declared.map fun d => .element (d.tag none) d.parts) ::
      s.requests.map fun r => .element r.tag [])

/-- The document of a schema, in a layout. -/
def document (l : Layout) (s : Schema) : String :=
  s.node.document l

end Schema

/-! ## Schemas that have a document -/

/-- A name that can be written, inside of its owner. -/
structure Named (owner : Option String) (name : String) : Prop where
  qualified : Element.qualify owner (localName owner name) = name
  quotable : Quotable name

mutual

def Descriptor.Writable (owner : Option String) : Descriptor → Prop
  | .primitive _ => False
  | .enumeration name entries => Named owner name ∧ ∀ e ∈ entries, Quotable e
  | .product name content =>
    Named owner name ∧ ∀ m ∈ content.members, Quotable m.name ∧ Quotable m.type
  | .sum name variants _ =>
    Named owner name ∧ (variants.map Descriptor.name).Nodup ∧ VariantsWritable name variants
  | .singleton name _ | .sealed name => Named owner name
  | .external name factory => Named owner name ∧ Quotable factory

def VariantsWritable (owner : String) : List Descriptor → Prop
  | [] => True
  | v :: vs => v.Writable (some owner) ∧ VariantsWritable owner vs

end

/-- A request that can be written. A factory never makes an optional value. -/
structure Request.Writable (r : Request) : Prop where
  type : Quotable r.type
  function : ∀ name ∈ r.function, Quotable name
  nullable : r.directive = .factory → r.nullable = false

/-- A schema that can be written: its catalog holds the primitives and the declared types, whose
names differ from one another and from those of the primitives. -/
structure Schema.Writable (s : Schema) : Prop where
  package : Quotable s.package
  runtime : ∀ path ∈ s.runtime, Quotable path
  catalog : s.catalog = .ofList s.catalog.declared
  distinct : (s.catalog.declared.map Descriptor.name).Nodup
  declarable : ∀ d ∈ s.catalog.declared, Primitive.ofTypeName? d.name = none
  types : ∀ d ∈ s.catalog.declared, d.Writable none
  requests : ∀ r ∈ s.requests, r.Writable

section Decidable

instance (owner : Option String) (name : String) : Decidable (Named owner name) :=
  decidable_of_iff (Element.qualify owner (localName owner name) = name ∧ Quotable name)
    ⟨fun h => ⟨h.1, h.2⟩, fun h => ⟨h.qualified, h.quotable⟩⟩

mutual

def Descriptor.decidableWritable (owner : Option String) :
    (d : Descriptor) → Decidable (d.Writable owner)
  | .primitive _ => isFalse id
  | .enumeration name entries =>
    inferInstanceAs (Decidable (Named owner name ∧ ∀ e ∈ entries, Quotable e))
  | .product name content =>
    inferInstanceAs (Decidable
      (Named owner name ∧ ∀ m ∈ content.members, Quotable m.name ∧ Quotable m.type))
  | .sum name variants _ =>
    have := decidableVariantsWritable name variants
    inferInstanceAs (Decidable (Named owner name ∧ (variants.map Descriptor.name).Nodup ∧
      VariantsWritable name variants))
  | .singleton name _ | .sealed name => inferInstanceAs (Decidable (Named owner name))
  | .external name factory =>
    inferInstanceAs (Decidable (Named owner name ∧ Quotable factory))

def decidableVariantsWritable (owner : String) :
    (vs : List Descriptor) → Decidable (VariantsWritable owner vs)
  | [] => isTrue trivial
  | v :: vs =>
    have := v.decidableWritable (some owner)
    have := decidableVariantsWritable owner vs
    inferInstanceAs (Decidable (v.Writable (some owner) ∧ VariantsWritable owner vs))

end

instance (owner : Option String) (d : Descriptor) : Decidable (d.Writable owner) :=
  d.decidableWritable owner

instance (r : Request) : Decidable r.Writable :=
  decidable_of_iff (Quotable r.type ∧ (∀ name ∈ r.function, Quotable name) ∧
      (r.directive = .factory → r.nullable = false))
    ⟨fun h => ⟨h.1, h.2.1, h.2.2⟩, fun h => ⟨h.type, h.function, h.nullable⟩⟩

end Decidable

/-! ## What is written is well formed -/

/-- The attributes of a tag have keys out of a list of names that differ. -/
theorem tag_wellformed {name : String} {attributes : List Attribute} (keys : List String)
    (hname : PlainName name) (hkeys : (attributes.map (·.key)).Sublist keys)
    (hplain : keys.Nodup ∧ ∀ k ∈ keys, PlainName k) (hvalues : ∀ a ∈ attributes, Quotable a.value) :
    (Tag.mk name attributes).Wellformed where
  name := hname
  attributes := fun a ha => ⟨hplain.2 _ (hkeys.subset (List.mem_map_of_mem ha)), hvalues a ha⟩
  distinct := hplain.1.sublist hkeys

theorem quotable_toString (b : Bool) : Quotable (toString b) := by
  cases b <;> decide

theorem ConstructorStyle.quotable_text (style : ConstructorStyle) : Quotable style.text := by
  cases style <;> decide

theorem NameCase.quotable_text (case : NameCase) : Quotable case.text := by
  cases case <;> decide

theorem Named.quotable_localName {owner : Option String} {name : String} (h : Named owner name) :
    Quotable (localName owner name) := by
  cases owner with
  | none => exact h.quotable
  | some owner =>
    intro hmem
    rw [localName, String.toList_ofList] at hmem
    exact h.quotable (List.mem_of_mem_drop hmem)

theorem entryTag_wellformed {e : String} (he : Quotable e) : (entryTag e).Wellformed :=
  tag_wellformed ["name"] (by decide) (.refl _) (by decide) (by simpa using he)

theorem Member.tag_wellformed {m : Member} (hname : Quotable m.name) (htype : Quotable m.type) :
    m.tag.Wellformed :=
  EditableFields.tag_wellformed ["name", "type", "nullable"] (by decide) (.refl _) (by decide)
    (by simp [hname, htype, quotable_toString])

theorem Request.tag_wellformed {r : Request} (hr : r.Writable) : r.tag.Wellformed := by
  obtain ⟨type, function, autoLabel, nullable, directive⟩ := r
  have htype : Quotable type := hr.type
  have hname : PlainName (Element.requestElement directive) := by cases directive <;> decide
  apply EditableFields.tag_wellformed ["type", "name", "autoLabel", "nullable"] hname _ (by decide)
  · cases function with
    | none => cases directive <;> simp [htype, quotable_toString]
    | some f =>
      have hf : Quotable f := hr.function f rfl
      cases directive <;> simp [htype, hf, quotable_toString]
  · cases function <;> cases directive <;> simp

theorem Schema.tag_wellformed {s : Schema} (hs : s.Writable) : s.tag.Wellformed := by
  obtain ⟨package, runtime, tolerant, nameCase, catalog, requests⟩ := s
  have hpackage : Quotable package := hs.package
  apply EditableFields.tag_wellformed
    ["package", "runtime", "tolerateUnsupported", "nameCase"] (by decide) _ (by decide)
  · cases runtime with
    | none => simp [hpackage, quotable_toString, NameCase.quotable_text]
    | some path =>
      have hpath : Quotable path := hs.runtime path rfl
      simp [hpackage, hpath, quotable_toString, NameCase.quotable_text]
  · cases runtime <;> simp

theorem nodesWellformed_of_forall {ns : List Node} (h : ∀ n ∈ ns, n.Wellformed) :
    NodesWellformed ns := by
  induction ns with
  | nil => trivial
  | cons n ns ih =>
    obtain ⟨hn, hns⟩ := List.forall_mem_cons.1 h
    exact ⟨hn, ih hns⟩

theorem Descriptor.tag_wellformed {owner : Option String} {d : Descriptor}
    (hd : d.Writable owner) : (d.tag owner).Wellformed := by
  cases d with
  | primitive => exact hd.elim
  | enumeration name entries =>
    exact EditableFields.tag_wellformed ["name"] (by decide) (.refl _) (by decide)
      (by simp [hd.1.quotable_localName])
  | singleton name valueless =>
    have hname : Named owner name := hd
    exact EditableFields.tag_wellformed ["name", "valueless"] (by decide) (.refl _) (by decide)
      (by simp [hname.quotable_localName, quotable_toString])
  | product name content =>
    exact EditableFields.tag_wellformed ["name", "style", "companion", "value"] (by decide)
      (.refl _) (by decide)
      (by simp [hd.1.quotable_localName, quotable_toString, ConstructorStyle.quotable_text])
  | sum name variants companion =>
    exact EditableFields.tag_wellformed ["name", "companion"] (by decide) (.refl _) (by decide)
      (by simp [hd.1.quotable_localName, quotable_toString])
  | sealed name =>
    have hname : Named owner name := hd
    exact EditableFields.tag_wellformed ["name"] (by decide) (.refl _) (by decide)
      (by simp [hname.quotable_localName])
  | external name factory =>
    exact EditableFields.tag_wellformed ["name", "factory"] (by decide) (.refl _) (by decide)
      (by simp [hd.1.quotable_localName, hd.2])

mutual

theorem Descriptor.parts_wellformed {owner : Option String} :
    ∀ d : Descriptor, d.Writable owner → NodesWellformed d.parts
  | .primitive _, _ | .singleton .., _ | .sealed _, _ | .external .., _ => trivial
  | .enumeration name entries, hd => by
    apply nodesWellformed_of_forall
    intro n hn
    obtain ⟨e, he, rfl⟩ := List.mem_map.1 hn
    exact ⟨entryTag_wellformed (hd.2 e he), trivial⟩
  | .product name content, hd => by
    apply nodesWellformed_of_forall
    intro n hn
    obtain ⟨m, hm, rfl⟩ := List.mem_map.1 hn
    exact ⟨Member.tag_wellformed (hd.2 m hm).1 (hd.2 m hm).2, trivial⟩
  | .sum name variants _, hd => variantNodes_wellformed variants hd.2.2

theorem variantNodes_wellformed {owner : String} :
    ∀ vs : List Descriptor, VariantsWritable owner vs → NodesWellformed (variantNodes owner vs)
  | [], _ => trivial
  | v :: vs, hvs =>
    ⟨⟨v.tag_wellformed hvs.1, v.parts_wellformed hvs.1⟩, variantNodes_wellformed vs hvs.2⟩

end

/-- The document of a schema that can be written is well formed. -/
theorem Schema.node_wellformed {s : Schema} (hs : s.Writable) : s.node.Wellformed := by
  have htypes : NodesWellformed
      (s.catalog.declared.map fun d => .element (d.tag none) d.parts) := by
    apply nodesWellformed_of_forall
    intro n hn
    obtain ⟨d, hd, rfl⟩ := List.mem_map.1 hn
    exact ⟨Descriptor.tag_wellformed (hs.types d hd), d.parts_wellformed (hs.types d hd)⟩
  have hrequests : NodesWellformed (s.requests.map fun r => .element r.tag []) := by
    apply nodesWellformed_of_forall
    intro n hn
    obtain ⟨r, hr, rfl⟩ := List.mem_map.1 hn
    exact ⟨Request.tag_wellformed (hs.requests r hr), trivial⟩
  have htag : (Tag.mk "types" []).Wellformed :=
    EditableFields.tag_wellformed [] (by decide) (.refl _) (by simp) (by simp)
  exact ⟨Schema.tag_wellformed hs, ⟨htag, htypes⟩, hrequests⟩

end EditableFields
