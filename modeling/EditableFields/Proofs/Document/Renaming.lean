import EditableFields.Proofs.Document.Nesting
import Mathlib.Logic.Function.Basic

/-!
# Documents: renamed texts

What a schema stores of a document are names, and texts to be copied into generated code. All of
them can be renamed, in the document as in the schema (`mapText`). If the renaming keeps names apart
and respects the names that the readers know themselves (`Renaming`), then what is read of a renamed
tag is what is read of the tag, renamed, and so is the error if there is one (`Renamed`). The same
goes for a catalog and what is added to it.
-/

namespace EditableFields

open Markup (Attribute Event Node Tag)

/-! ## Renaming -/

section MapText

variable (f : String → String)

namespace Markup

/-- The keys of attributes whose values are stored as they are. -/
def textKeys : List String :=
  ["name", "type", "package", "runtime", "factory"]

def Attribute.mapText (a : Attribute) : Attribute :=
  if a.key ∈ textKeys then { a with value := f a.value } else a

def Tag.mapText (t : Tag) : Tag :=
  { t with attributes := t.attributes.map (·.mapText f) }

def Event.mapText : Event → Event
  | .start tag => .start (tag.mapText f)
  | .empty tag => .empty (tag.mapText f)
  | .close name => .close name
  | .filler sort => .filler sort
  | .fault e => .fault e

mutual

def Node.mapText : Node → Node
  | .element tag children => .element (tag.mapText f) (nodesMapText children)

def nodesMapText : List Node → List Node
  | [] => []
  | n :: ns => n.mapText :: nodesMapText ns

end

end Markup

def Member.mapText (m : Member) : Member :=
  { m with name := f m.name, type := f m.type }

mutual

def Descriptor.mapText : Descriptor → Descriptor
  | .primitive p => .primitive { p with name := f p.name }
  | .enumeration name entries => .enumeration (f name) (entries.map f)
  | .singleton name valueless => .singleton (f name) valueless
  | .product name content =>
    .product (f name) { content with members := content.members.map (·.mapText f) }
  | .sum name variants companion => .sum (f name) (variantsMapText variants) companion
  | .sealed name => .sealed (f name)
  | .external name factory => .external (f name) (f factory)

def variantsMapText : List Descriptor → List Descriptor
  | [] => []
  | v :: vs => v.mapText :: variantsMapText vs

end

def Request.mapText (r : Request) : Request :=
  { r with type := f r.type, function := r.function.map f }

def Catalog.mapText (c : Catalog) : Catalog :=
  ⟨c.types.map (·.mapText f), c.index.map fun p => (f p.1, p.2)⟩

def Schema.mapText (s : Schema) : Schema :=
  { s with
    package := f s.package
    runtime := s.runtime.map f
    catalog := s.catalog.mapText f
    requests := s.requests.map (·.mapText f) }

/-- Errors name types, and the sum that an element was found in. -/
def DocumentError.mapText : DocumentError → DocumentError
  | .unknownElement element context => .unknownElement element (f context)
  | .duplicateType name => .duplicateType (f name)
  | .duplicateVariant name => .duplicateVariant (f name)
  | e => e

/-- One result is the other one with its texts renamed. -/
abbrev Renamed {α β : Type} (g : α → β) : Except DocumentError α → Except DocumentError β → Prop :=
  Alike (fun e e' => e' = e.mapText f) fun a b => b = g a

variable {f}

theorem Renamed.map {α β α' β' : Type} {g : α → β} {g' : α' → β'} {x : Except DocumentError α}
    {y : Except DocumentError β} {k : α → α'} {k' : β → β'} (h : Renamed f g x y)
    (hk : ∀ a, k' (g a) = g' (k a)) :
    Renamed f g' (x >>= fun a => .ok (k a)) (y >>= fun b => .ok (k' b)) := by
  refine h.bind ?_
  rintro a _ rfl
  exact .ok (hk a)

end MapText

theorem Descriptor.name_mapText (f : String → String) (d : Descriptor) :
    (d.mapText f).name = f d.name := by
  cases d <;> rfl

/-- A renaming of texts that keeps names apart, and respects those that readers know. -/
structure Renaming (f : String → String) : Prop where
  injective : Function.Injective f
  append : ∀ a b, f (a ++ b) = f a ++ f b
  separator : f "::" = "::"
  primitive : ∀ kind : Primitive, f kind.typeName = kind.typeName
  number : ∀ index : Nat, f (toString index) = toString index
  context : f "types" = "types"

section Attributes

variable {f : String → String} {a : Attribute} {key : String} (hkey : a.key = key)

theorem Markup.Attribute.mapText_key (f : String → String) (a : Attribute) :
    (a.mapText f).key = a.key := by
  unfold mapText
  split <;> rfl

include hkey

theorem Markup.Attribute.mapText_value (h : key ∈ Markup.textKeys) :
    (a.mapText f).value = f a.value := by
  rw [mapText, hkey, if_pos h]

theorem Markup.Attribute.mapText_self (h : key ∉ Markup.textKeys) : a.mapText f = a := by
  rw [mapText, hkey, if_neg h]

end Attributes

/-! ## Elements -/

namespace Element

def TypeSettings.mapText (f : String → String) (s : TypeSettings) : TypeSettings :=
  { s with name := s.name.map f, factory := s.factory.map f }

def MemberSettings.mapText (f : String → String) (s : MemberSettings) : MemberSettings :=
  { s with name := s.name.map f, type := s.type.map f }

def RequestSettings.mapText (f : String → String) (s : RequestSettings) : RequestSettings :=
  { s with type := s.type.map f, function := s.function.map f }

section

variable {f : String → String}

theorem truth_renamed (element : String) {a : Attribute} {key : String} (hkey : a.key = key)
    (h : key ∉ Markup.textKeys) : Renamed f id (truth element a) (truth element (a.mapText f)) := by
  rw [Attribute.mapText_self hkey h]
  unfold truth
  split
  · exact .ok rfl
  · split
    · exact .ok rfl
    · exact .error rfl

theorem valueBy_renamed {α : Type} (parse? : String → Option α) (element : String) {a : Attribute}
    {key : String} (hkey : a.key = key) (h : key ∉ Markup.textKeys) :
    Renamed f id (valueBy parse? element a) (valueBy parse? element (a.mapText f)) := by
  rw [Attribute.mapText_self hkey h]
  unfold valueBy
  split
  · exact .ok rfl
  · exact .error rfl

theorem require_renamed (element key : String) (v? : Option String) :
    Renamed f f (require element key v?) (require element key (v?.map f)) := by
  cases v? with
  | some v => exact .ok rfl
  | none => exact .error rfl

theorem foldlM_renamed {σ : Type} {set : σ → Attribute → Except DocumentError σ} {g : σ → σ}
    (hset : ∀ s a, Renamed f g (set s a) (set (g s) (a.mapText f))) (as : List Attribute) (s : σ) :
    Renamed f g (as.foldlM set s) ((as.map (·.mapText f)).foldlM set (g s)) := by
  induction as generalizing s with
  | nil => exact .ok rfl
  | cons a as ih =>
    rw [List.map_cons, List.foldlM_cons, List.foldlM_cons]
    refine (hset s a).bind ?_
    rintro s' _ rfl
    exact ih s'

theorem setRoot_renamed (s : Schema) (a : Attribute) :
    Renamed f (Schema.mapText f) (setRoot s a) (setRoot (s.mapText f) (a.mapText f)) := by
  unfold setRoot
  rw [Attribute.mapText_key]
  split
  next hkey =>
    rw [Attribute.mapText_value hkey (by decide)]
    exact .ok rfl
  next hkey =>
    rw [Attribute.mapText_value hkey (by decide)]
    exact .ok rfl
  next hkey =>
    exact (truth_renamed _ hkey (by decide)).map fun _ => rfl
  next hkey =>
    exact (valueBy_renamed _ _ hkey (by decide)).map fun _ => rfl
  next => exact .ok rfl

theorem setSimple_renamed (element : String) (s : TypeSettings) (a : Attribute) :
    Renamed f (TypeSettings.mapText f) (setSimple element s a)
      (setSimple element (s.mapText f) (a.mapText f)) := by
  unfold setSimple
  rw [Attribute.mapText_key]
  split
  next hkey =>
    rw [Attribute.mapText_value hkey (by decide)]
    exact .ok rfl
  next hkey =>
    exact (truth_renamed _ hkey (by decide)).map fun _ => rfl
  next hkey =>
    rw [Attribute.mapText_value hkey (by decide)]
    exact .ok rfl
  next => exact .ok rfl

theorem setEnumeration_mapText (s : TypeSettings) (a : Attribute) :
    setEnumeration (s.mapText f) (a.mapText f) = (setEnumeration s a).mapText f := by
  unfold setEnumeration
  rw [Attribute.mapText_key]
  split
  next hkey =>
    rw [Attribute.mapText_value hkey (by decide)]
    rfl
  next => rfl

theorem setProduct_renamed (s : TypeSettings) (a : Attribute) :
    Renamed f (TypeSettings.mapText f) (setProduct s a)
      (setProduct (s.mapText f) (a.mapText f)) := by
  unfold setProduct
  rw [Attribute.mapText_key]
  split
  next hkey =>
    rw [Attribute.mapText_value hkey (by decide)]
    exact .ok rfl
  next hkey =>
    exact (valueBy_renamed _ _ hkey (by decide)).map fun _ => rfl
  next hkey =>
    exact (truth_renamed _ hkey (by decide)).map fun _ => rfl
  next hkey =>
    exact (truth_renamed _ hkey (by decide)).map fun _ => rfl
  next => exact .ok rfl

theorem setMember_renamed (s : MemberSettings) (a : Attribute) :
    Renamed f (MemberSettings.mapText f) (setMember s a)
      (setMember (s.mapText f) (a.mapText f)) := by
  unfold setMember
  rw [Attribute.mapText_key]
  split
  next hkey =>
    rw [Attribute.mapText_value hkey (by decide)]
    exact .ok rfl
  next hkey =>
    rw [Attribute.mapText_value hkey (by decide)]
    exact .ok rfl
  next hkey =>
    exact (truth_renamed _ hkey (by decide)).map fun _ => rfl
  next => exact .ok rfl

theorem setSum_renamed (s : TypeSettings) (a : Attribute) :
    Renamed f (TypeSettings.mapText f) (setSum s a) (setSum (s.mapText f) (a.mapText f)) := by
  unfold setSum
  rw [Attribute.mapText_key]
  split
  next hkey =>
    rw [Attribute.mapText_value hkey (by decide)]
    exact .ok rfl
  next hkey =>
    exact (truth_renamed _ hkey (by decide)).map fun _ => rfl
  next => exact .ok rfl

theorem setRequest_renamed (directive : Directive) (s : RequestSettings) (a : Attribute) :
    Renamed f (RequestSettings.mapText f) (setRequest directive s a)
      (setRequest directive (s.mapText f) (a.mapText f)) := by
  unfold setRequest
  rw [Attribute.mapText_key]
  split
  next hkey =>
    rw [Attribute.mapText_value hkey (by decide)]
    exact .ok rfl
  next hkey =>
    rw [Attribute.mapText_value hkey (by decide)]
    exact .ok rfl
  next hkey =>
    exact (truth_renamed _ hkey (by decide)).map fun _ => rfl
  next hkey =>
    split
    · exact (truth_renamed _ hkey (by decide)).map fun _ => rfl
    · exact .ok rfl
  next => exact .ok rfl

end

section

variable {f : String → String} (hf : Renaming f)
include hf

theorem qualify_map (owner : Option String) (name : String) :
    qualify (owner.map f) (f name) = f (qualify owner name) := by
  cases owner with
  | none => rfl
  | some owner =>
    show f owner ++ "::" ++ f name = f (owner ++ "::" ++ name)
    rw [hf.append, hf.append, hf.separator]

theorem mapText_primitives : Catalog.primitives.mapText f = Catalog.primitives := by
  have hnames : ∀ kind : Primitive, f kind.typeName = kind.typeName := hf.primitive
  simp [Catalog.primitives, Catalog.mapText, Catalog.addAll, Catalog.add, Catalog.bare,
    Primitive.all, Primitive.named, Descriptor.mapText, Descriptor.name, hnames]

theorem mapText_empty : f "" = "" := by
  have h := congrArg (fun s : String => s.toList.length) (hf.append "" "")
  rw [String.append_empty] at h
  simp only [String.toList_append, List.length_append] at h
  exact String.toList_eq_nil_iff.1 (List.eq_nil_of_length_eq_zero (by omega))

theorem root_renamed (tag : Tag) :
    Renamed f (Schema.mapText f) (root tag) (root (tag.mapText f)) := by
  have hempty : (Schema.empty "").mapText f = Schema.empty "" := by
    unfold Schema.mapText
    rw [Schema.empty, mapText_primitives hf, mapText_empty hf]
    rfl
  have h := foldlM_renamed (setRoot_renamed (f := f)) tag.attributes (.empty "")
  rw [hempty] at h
  exact h

theorem simple_renamed (owner : Option String) (tag : Tag) :
    Renamed f (Descriptor.mapText f) (simple owner tag)
      (simple (owner.map f) (tag.mapText f)) := by
  refine (foldlM_renamed (setSimple_renamed tag.name) tag.attributes {}).bind ?_
  rintro s _ rfl
  refine (require_renamed tag.name "name" s.name).bind ?_
  rintro name _ rfl
  rw [qualify_map hf]
  have htag : (tag.mapText f).name = tag.name := rfl
  rw [htag]
  split
  · exact .ok rfl
  · exact (require_renamed tag.name "factory" s.factory).map fun _ => rfl
  · exact .ok rfl

theorem enumeration_renamed (owner : Option String) (tag : Tag) :
    Renamed f f (enumeration owner tag) (enumeration (owner.map f) (tag.mapText f)) := by
  have hfold : (tag.attributes.map (·.mapText f)).foldl setEnumeration {} =
      (tag.attributes.foldl setEnumeration {}).mapText f := by
    have hinit : TypeSettings.mapText f {} = {} := rfl
    rw [List.foldl_map, ← hinit]
    exact List.foldl_hom (TypeSettings.mapText f) setEnumeration_mapText
  unfold enumeration
  rw [Tag.mapText, hfold]
  refine (require_renamed "enum" "name" _).bind ?_
  rintro name _ rfl
  exact .ok (qualify_map hf owner name)

omit hf in
theorem entry_renamed (owner : String) (tag : Tag) :
    Renamed f f (entry owner tag) (entry (f owner) (tag.mapText f)) := by
  unfold entry
  show Renamed f f _ (if tag.name != "entry" then _ else _)
  split
  · exact .error rfl
  · have hkey : (fun a : Attribute => (a.mapText f).key == "name") = fun a => a.key == "name" := by
      funext a
      rw [Attribute.mapText_key]
    have hvalue : (((tag.attributes.map (·.mapText f)).find? (·.key == "name")).map (·.value)) =
        ((tag.attributes.find? (·.key == "name")).map (·.value)).map f := by
      rw [List.find?_map, Function.comp_def, hkey]
      cases hfind : tag.attributes.find? (·.key == "name") with
      | none => rfl
      | some a =>
        have hname : a.key = "name" := by simpa using List.find?_some hfind
        rw [Option.map_some, Option.map_some, Option.map_some, Option.map_some,
          Attribute.mapText_value hname (by decide)]
    rw [Tag.mapText, hvalue]
    exact require_renamed "entry" "name" _

theorem product_renamed (owner : Option String) (tag : Tag) :
    Renamed f (fun p => (f p.1, p.2)) (product owner tag)
      (product (owner.map f) (tag.mapText f)) := by
  refine (foldlM_renamed setProduct_renamed tag.attributes {}).bind ?_
  rintro s _ rfl
  refine (require_renamed "product" "name" s.name).bind ?_
  rintro name _ rfl
  rw [qualify_map hf]
  exact .ok rfl

theorem member_renamed (owner : String) (style : ConstructorStyle) (index : Nat) (tag : Tag) :
    Renamed f (Member.mapText f) (member owner style index tag)
      (member (f owner) style index (tag.mapText f)) := by
  unfold member
  show Renamed f _ _ (if tag.name != "member" then _ else _)
  split
  · exact .error rfl
  · refine (foldlM_renamed setMember_renamed tag.attributes {}).bind ?_
    rintro ⟨name?, type?, nullable⟩ _ rfl
    have htype (name : String) : Renamed f (Member.mapText f)
        (require "member" "type" type? >>= fun type => .ok ⟨name, type, nullable⟩)
        (require "member" "type" (type?.map f) >>= fun type => .ok ⟨f name, type, nullable⟩) := by
      exact (require_renamed "member" "type" type?).map fun _ => rfl
    cases name? with
    | some name => exact htype name
    | none =>
      cases style with
      | named => exact .error rfl
      | positional =>
        have h := htype (toString index)
        rw [hf.number] at h
        exact h

theorem sum_renamed (owner : Option String) (tag : Tag) :
    Renamed f (fun p => (f p.1, p.2)) (sum owner tag) (sum (owner.map f) (tag.mapText f)) := by
  refine (foldlM_renamed setSum_renamed tag.attributes {}).bind ?_
  rintro s _ rfl
  refine (require_renamed "sum" "name" s.name).bind ?_
  rintro name _ rfl
  rw [qualify_map hf]
  exact .ok rfl

omit hf in
theorem request_renamed (directive : Directive) (tag : Tag) :
    Renamed f (Request.mapText f) (request directive tag) (request directive (tag.mapText f)) := by
  refine (foldlM_renamed (setRequest_renamed directive) tag.attributes {}).bind ?_
  rintro s _ rfl
  exact (require_renamed _ "type" s.type).map fun _ => rfl

end

end Element

/-! ## Catalogs -/

section Catalogs

variable {f : String → String}

theorem lookup_map_fst (hf : Renaming f) {α : Type} (l : List (String × α)) (name : String) :
    (l.map fun p => (f p.1, p.2)).lookup (f name) = l.lookup name := by
  induction l with
  | nil => rfl
  | cons p l ih =>
    rw [List.map_cons, List.lookup_cons, List.lookup_cons, ih]
    by_cases hname : name = p.1
    · simp [hname]
    · have hne : f name ≠ f p.1 := fun h => hname (hf.injective h)
      rw [beq_eq_false_iff_ne.2 hname, beq_eq_false_iff_ne.2 hne]

theorem Catalog.has_mapText (hf : Renaming f) (c : Catalog) (name : String) :
    (c.mapText f).has (f name) = c.has name := by
  rw [has, mapText, lookup_map_fst hf, has]

theorem Catalog.add_mapText (c : Catalog) (d : Descriptor) :
    (c.mapText f).add (d.mapText f) = (c.add d).mapText f := by
  rw [add, Descriptor.name_mapText]
  simp [mapText, add]

theorem Catalog.addAll_mapText (c : Catalog) (ds : List Descriptor) :
    (c.mapText f).addAll (ds.map (·.mapText f)) = (c.addAll ds).mapText f := by
  induction ds generalizing c with
  | nil => rfl
  | cons d ds ih =>
    have h := ih (c.add d)
    rw [← add_mapText] at h
    exact h

theorem Schema.addType_mapText (s : Schema) (d : Descriptor) :
    (s.mapText f).addType (d.mapText f) = (s.addType d).mapText f := by
  rw [addType, addType, mapText, Catalog.add_mapText]
  rfl

theorem Schema.addRequest_mapText (s : Schema) (r : Request) :
    (s.mapText f).addRequest (r.mapText f) = (s.addRequest r).mapText f := by
  simp [addRequest, mapText]

end Catalogs

end EditableFields
