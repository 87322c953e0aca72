import EditableFields.Proofs.Document.Nesting

/-!
# Documents: types and their elements

A type that is read from a document is declared by its element (`Document.type_declaredBy`): the
element is of the type's kind, and its tag and those of the elements inside of it name the type,
its members and its variants (`Descriptor.DeclaredBy`). Attributes are read in order, so a tag says
by a key what the last attribute with the key says (`Tag.value?`).
-/

namespace EditableFields

open Markup (Attribute Ends Event Inside Node Tag levels)

/-! ## Values of attributes -/

/-- The value that a tag gives to a key: that of the last attribute with the key. -/
def Markup.Tag.value? (t : Tag) (key : String) : Option String :=
  t.attributes.foldl (fun v a => if a.key = key then some a.value else v) none

namespace Element

/-- Taking an attribute keeps up what settings show of the value of a key so far. -/
def Takes {σ : Type} (set : σ → Attribute → Except DocumentError σ) (key : String)
    (shows : σ → Option String → Prop) : Prop :=
  ∀ (s s' : σ) (a : Attribute) (v : Option String), set s a = .ok s' → shows s v →
    shows s' (if a.key = key then some a.value else v)

/-- Settings that were taken from all attributes of a tag show its value of a key. -/
theorem Takes.shows {σ : Type} {set : σ → Attribute → Except DocumentError σ} {key : String}
    {shows : σ → Option String → Prop} (hset : Takes set key shows) {tag : Tag} {init s : σ}
    (hinit : shows init none) (h : tag.attributes.foldlM set init = .ok s) :
    shows s (tag.value? key) := by
  rw [Tag.value?]
  generalize tag.attributes = as at h
  generalize (none : Option String) = v at hinit
  induction as generalizing init v with
  | nil =>
    cases h
    exact hinit
  | cons a as ih =>
    rw [List.foldlM_cons] at h
    obtain ⟨s', ha, h⟩ := bind_eq_ok.1 h
    exact ih h _ (hset _ _ _ _ ha hinit)

theorem setSimple_name (element : String) : Takes (setSimple element) "name" (·.name = ·) := by
  intro s s' a v h hs
  unfold setSimple at h
  split at h <;> simp_all [bind_eq_ok, pure, Except.pure] <;> grind

theorem setProduct_name : Takes setProduct "name" (·.name = ·) := by
  intro s s' a v h hs
  unfold setProduct at h
  split at h <;> simp_all [bind_eq_ok, pure, Except.pure] <;> grind

theorem setProduct_style :
    Takes setProduct "style" fun s v => s.style = .positional ↔ v = some "positional" := by
  intro s s' a v h hs
  unfold setProduct at h
  split at h <;> simp_all [bind_eq_ok, pure, Except.pure] <;>
    grind [valueBy, ConstructorStyle.parse?]

theorem setSum_name : Takes setSum "name" (·.name = ·) := by
  intro s s' a v h hs
  unfold setSum at h
  split at h <;> simp_all [bind_eq_ok, pure, Except.pure] <;> grind

theorem setRoot_catalog (key : String) :
    Takes setRoot key fun s _ => s.catalog = .primitives := by
  intro s s' a v h hs
  unfold setRoot at h
  split at h <;> simp_all [bind_eq_ok, pure, Except.pure] <;> grind

theorem setMember_name : Takes setMember "name" (·.name = ·) := by
  intro s s' a v h hs
  unfold setMember at h
  split at h <;> simp_all [bind_eq_ok, pure, Except.pure] <;> grind

theorem setMember_type : Takes setMember "type" (·.type = ·) := by
  intro s s' a v h hs
  unfold setMember at h
  split at h <;> simp_all [bind_eq_ok, pure, Except.pure] <;> grind

end Element

/-! ## Types and their elements -/

/-- A type is named by its tag, inside of a sum after the sum's own name. -/
def Markup.Tag.Names (t : Tag) (owner : Option String) (name : String) : Prop :=
  ∃ text, t.value? "name" = some text ∧ name = Element.qualify owner text

/-- A member is declared by the child `c.1` of its product at the position `c.2`. If the child has
no name, the product is positional and the member is named by its position. -/
structure Member.DeclaredBy (style : ConstructorStyle) (m : Member) (c : Node × Nat) : Prop where
  element : c.1.tag.name = "member"
  type : c.1.tag.value? "type" = some m.type
  named : ∀ text, c.1.tag.value? "name" = some text → m.name = text
  unnamed : c.1.tag.value? "name" = none → style = .positional ∧ m.name = toString c.2

mutual

/-- A type is declared by an element, inside of the sum `owner` if there is one. -/
def Descriptor.DeclaredBy (owner : Option String) : Descriptor → Node → Prop
  | .primitive _, _ => False
  | .enumeration name _, n => n.tag.name = "enum" ∧ n.tag.Names owner name
  | .singleton name _, n => n.tag.name = "singleton" ∧ n.tag.Names owner name
  | .product name content, n =>
    n.tag.name = "product" ∧ n.tag.Names owner name ∧
      (content.style = .positional ↔ n.tag.value? "style" = some "positional") ∧
        List.Forall₂ (Member.DeclaredBy content.style) content.members n.children.zipIdx
  | .sum name variants _, n =>
    n.tag.name = "sum" ∧ n.tag.Names owner name ∧ (variants.map Descriptor.name).Nodup ∧
      VariantsDeclaredBy name variants n.children
  | .sealed name, n => n.tag.name = "opaque" ∧ n.tag.Names owner name
  | .external name _, n => n.tag.name = "external" ∧ n.tag.Names owner name

/-- The variants of a sum are declared by the children of its element, in order. -/
def VariantsDeclaredBy (owner : String) : List Descriptor → List Node → Prop
  | [], [] => True
  | v :: vs, n :: ns => v.DeclaredBy (some owner) n ∧ VariantsDeclaredBy owner vs ns
  | [], _ :: _ | _ :: _, [] => False

end

theorem variantsDeclaredBy_iff {owner : String} {vs : List Descriptor} {ns : List Node} :
    VariantsDeclaredBy owner vs ns ↔ List.Forall₂ (Descriptor.DeclaredBy (some owner)) vs ns := by
  induction vs generalizing ns with
  | nil => cases ns <;> simp [VariantsDeclaredBy]
  | cons v vs ih => cases ns <;> simp [VariantsDeclaredBy, ih]

namespace Element

theorem require_eq_ok {element key : String} {v? : Option String} {v : String}
    (h : require element key v? = .ok v) : v? = some v := by
  cases v? with
  | none => cases h
  | some v' =>
    cases h
    rfl

variable {owner : Option String} {tag : Tag}

theorem names_of_require {element text : String} {s : TypeSettings}
    (hname : s.name = tag.value? "name") (h : require element "name" s.name = .ok text) :
    tag.Names owner (qualify owner text) :=
  ⟨text, hname ▸ require_eq_ok h, rfl⟩

theorem enumeration_names {name : String} (h : enumeration owner tag = .ok name) :
    tag.Names owner name := by
  obtain ⟨text, htext, h⟩ := bind_eq_ok.1 h
  cases h
  refine names_of_require ?_ htext
  refine (List.foldl_hom TypeSettings.name fun s a => ?_).symm
  rw [setEnumeration, apply_ite TypeSettings.name]

theorem product_declares {name : String} {content : Product}
    (h : product owner tag = .ok (name, content)) :
    tag.Names owner name ∧
      (content.style = .positional ↔ tag.value? "style" = some "positional") := by
  obtain ⟨s, hs, h⟩ := bind_eq_ok.1 h
  obtain ⟨text, htext, h⟩ := bind_eq_ok.1 h
  cases h
  exact ⟨names_of_require (setProduct_name.shows rfl hs) htext,
    setProduct_style.shows (by simp) hs⟩

theorem sum_names {name : String} {companion : Bool} (h : sum owner tag = .ok (name, companion)) :
    tag.Names owner name := by
  obtain ⟨s, hs, h⟩ := bind_eq_ok.1 h
  obtain ⟨text, htext, h⟩ := bind_eq_ok.1 h
  cases h
  exact names_of_require (setSum_name.shows rfl hs) htext

theorem simple_declaredBy {d : Descriptor} (htag : tag.name ∈ ["singleton", "opaque", "external"])
    (h : simple owner tag = .ok d) (children : List Node) :
    d.DeclaredBy owner (.element tag children) := by
  obtain ⟨s, hs, h⟩ := bind_eq_ok.1 h
  obtain ⟨text, htext, h⟩ := bind_eq_ok.1 h
  have hnames : tag.Names owner (qualify owner text) :=
    names_of_require ((setSimple_name tag.name).shows rfl hs) htext
  simp only [List.mem_cons, List.not_mem_nil, or_false] at htag
  rcases htag with htag | htag | htag <;> rw [htag] at h
  · cases h
    exact ⟨htag, hnames⟩
  · cases h
    exact ⟨htag, hnames⟩
  · obtain ⟨factory, -, h⟩ := bind_eq_ok.1 h
    cases h
    exact ⟨htag, hnames⟩

theorem member_declaredBy {style : ConstructorStyle} {product : String} {c : Node × Nat}
    {m : Member} (h : member product style c.2 c.1.tag = .ok m) : m.DeclaredBy style c := by
  unfold member at h
  split at h
  · cases h
  · rename_i htag
    have element : c.1.tag.name = "member" := by simpa using htag
    obtain ⟨s, hs, h⟩ := bind_eq_ok.1 h
    have hname := setMember_name.shows rfl hs
    have htype := setMember_type.shows rfl hs
    -- Which name a member has is decided by whether its tag has one, and by the style.
    cases hsome : s.name with
    | some text =>
      simp only [hsome] at h hname
      obtain ⟨_, ⟨⟩, h⟩ := bind_eq_ok.1 h
      obtain ⟨type, hrequire, h⟩ := bind_eq_ok.1 h
      cases h
      exact ⟨element, htype ▸ require_eq_ok hrequire, by simp [← hname], by simp [← hname]⟩
    | none =>
      simp only [hsome] at h hname
      cases style with
      | positional =>
        obtain ⟨_, ⟨⟩, h⟩ := bind_eq_ok.1 h
        obtain ⟨type, hrequire, h⟩ := bind_eq_ok.1 h
        cases h
        exact ⟨element, htype ▸ require_eq_ok hrequire, by simp [← hname], fun _ => ⟨rfl, rfl⟩⟩
      | named => cases h

end Element

/-! ## Reading types -/

namespace Document

variable {owner : Option String} {tag : Tag} {isEmpty : Bool} {es rest : List Event}

/-- A type is declared by its element, if the variants of a sum are declared by theirs. -/
theorem typeWith_declaredBy
    {read : String → List Event → Except DocumentError (List Descriptor × List Event)}
    (hread : ∀ name vs rest, read name es = .ok (vs, rest) →
      ∃ children, Ends es children rest ∧ (vs.map Descriptor.name).Nodup ∧
        VariantsDeclaredBy name vs children)
    {d : Descriptor} (h : typeWith read owner tag isEmpty es = .ok (d, rest)) :
    ∃ children, Inside isEmpty es children rest ∧ d.DeclaredBy owner (.element tag children) := by
  unfold typeWith at h
  split at h
  case h_1 htag =>
    obtain ⟨name, hname, h⟩ := bind_eq_ok.1 h
    obtain ⟨⟨entries, es'⟩, hentries, h⟩ := bind_eq_ok.1 h
    cases h
    obtain ⟨children, hinside, -⟩ := parts_inside hentries
    exact ⟨children, hinside, htag, Element.enumeration_names hname⟩
  case h_2 htag =>
    obtain ⟨⟨name, content⟩, hproduct, h⟩ := bind_eq_ok.1 h
    obtain ⟨⟨members, es'⟩, hmembers, h⟩ := bind_eq_ok.1 h
    cases h
    obtain ⟨hnames, hstyle⟩ := Element.product_declares hproduct
    obtain ⟨children, hinside, hmembers⟩ := parts_inside hmembers
    exact ⟨children, hinside, htag, hnames, hstyle,
      hmembers.imp fun _ _ hm => Element.member_declaredBy hm⟩
  case h_3 htag =>
    obtain ⟨⟨name, companion⟩, hsum, h⟩ := bind_eq_ok.1 h
    cases isEmpty with
    | true =>
      cases h
      exact ⟨[], .empty _, htag, Element.sum_names hsum, .nil, trivial⟩
    | false =>
      obtain ⟨⟨vs, es'⟩, hvs, h⟩ := bind_eq_ok.1 h
      cases h
      obtain ⟨children, hends, hnodup, hdeclared⟩ := hread _ _ _ hvs
      exact ⟨children, .start hends, htag, Element.sum_names hsum, hnodup, hdeclared⟩
  case h_7 => cases h
  all_goals
    rename_i htag
    obtain ⟨d, hd, h⟩ := bind_eq_ok.1 h
    obtain ⟨es', hskip, h⟩ := bind_eq_ok.1 h
    cases h
    obtain ⟨children, hinside⟩ := skipAfter_inside hskip
    exact ⟨children, hinside, Element.simple_declaredBy (by simp [htag]) hd children⟩

/-- The variants of a sum are declared by the elements before its end. Their names differ from
each other and from those in `seen`. -/
theorem variantsWithin_declaredBy {rounds : Nat} {seen : List String} {owner : String}
    {vs : List Descriptor} (hrounds : es.length ≤ rounds)
    (h : variantsWithin rounds seen owner es = .ok (vs, rest)) :
    ∃ children, Ends es children rest ∧ (∀ v ∈ vs, v.name ∉ seen) ∧
      (vs.map Descriptor.name).Nodup ∧ VariantsDeclaredBy owner vs children := by
  induction rounds generalizing seen owner es vs rest with
  | zero =>
    obtain rfl := List.eq_nil_of_length_eq_zero (Nat.le_zero.1 hrounds)
    cases h
    exact ⟨[], .nil, nofun, .nil, trivial⟩
  | succ rounds ih =>
    cases es with
    | nil =>
      cases h
      exact ⟨[], .nil, nofun, .nil, trivial⟩
    | cons e es =>
      have hes : es.length ≤ rounds := Nat.le_of_succ_le_succ hrounds
      -- One variant is taken off, with what is inside of it, and the others follow.
      have taken (tag : Tag) (isEmpty : Bool)
          (h : variantsWithin (rounds + 1) seen owner (tag.opening isEmpty :: es) =
            .ok (vs, rest)) :
          ∃ children, Ends (tag.opening isEmpty :: es) children rest ∧ (∀ v ∈ vs, v.name ∉ seen) ∧
            (vs.map Descriptor.name).Nodup ∧ VariantsDeclaredBy owner vs children := by
        rw [variantsWithin_opening] at h
        obtain ⟨⟨v, mid⟩, hv, h⟩ := bind_eq_ok.1 h
        obtain ⟨inner, hinside, hv⟩ := typeWith_declaredBy (fun _ _ _ hread =>
          have ⟨children, hends, _, hvs⟩ := ih hes hread
          ⟨children, hends, hvs⟩) hv
        split at h
        · cases h
        · rename_i hseen
          obtain ⟨⟨vs, rest'⟩, hvs, h⟩ := bind_eq_ok.1 h
          cases h
          obtain ⟨children, hends, hnew, hnodup, hvs⟩ := ih (hinside.length.trans hes) hvs
          refine ⟨_, hinside.ends hends tag, ?_, ?_, hv, hvs⟩
          · refine List.forall_mem_cons.2 ⟨by simpa using hseen, fun w hw hmem => ?_⟩
            exact hnew w hw (List.mem_cons_of_mem _ hmem)
          · rw [List.map_cons, List.nodup_cons, List.mem_map]
            refine ⟨?_, hnodup⟩
            rintro ⟨w, hw, hname⟩
            exact hnew w hw (hname ▸ List.mem_cons_self)
      cases e with
      | start tag => exact taken tag false h
      | empty tag => exact taken tag true h
      | close name =>
        cases h
        exact ⟨[], .close name _, nofun, .nil, trivial⟩
      | filler sort =>
        obtain ⟨children, hends, hvs⟩ := ih hes h
        exact ⟨children, hends.filler sort, hvs⟩
      | fault f => cases h

theorem type_declaredBy {d : Descriptor} (h : type owner tag isEmpty es = .ok (d, rest)) :
    ∃ children, Inside isEmpty es children rest ∧ d.DeclaredBy owner (.element tag children) := by
  rw [type] at h
  refine typeWith_declaredBy (fun _ _ _ hread => ?_) h
  obtain ⟨children, hends, -, hvs⟩ := variantsWithin_declaredBy (Nat.le_refl _) hread
  exact ⟨children, hends, hvs⟩

end Document

end EditableFields
