import EditableFields.Proofs.Document.Soundness
import Mathlib.Data.List.DropRight

/-!
# Documents: what is kept of what they say

The elements of a document say which types there are and what is requested of them (`sayings`). A
root starts the schema over, and a section inside of a type's element is passed over with the rest
of what is in it. So a schema holds just what is said after the last root and outside of the
elements of types, and it keeps all that its document says if and only if no saying stands before a
root or in such a section. This holds of the events of any stream (`Schema.ofEvents_retains_iff`),
and so of those of a document (`Schema.parse_keeps_iff`).
-/

namespace EditableFields

open Markup (Attribute Ends Event Inside Node Tag levels)

/-! ## Requests and their elements -/

/-- A request is made by an element, whose tag says all of it. -/
structure Request.MadeBy (r : Request) (n : Node) : Prop where
  element : Document.directive? n.tag.name = some r.directive
  type : n.tag.value? "type" = some r.type
  function : n.tag.value? "name" = r.function
  autoLabel : r.autoLabel = false ↔ n.tag.value? "autoLabel" = some "false"
  nullable : r.nullable = true ↔ r.directive = .field ∧ n.tag.value? "nullable" = some "true"

namespace Element

theorem truth_eq_ok {element : String} {a : Attribute} {b : Bool} (h : truth element a = .ok b) :
    (b = true ↔ a.value = "true") ∧ (b = false ↔ a.value = "false") := by
  unfold truth at h
  split at h
  next htrue => cases h; simp [htrue]
  next htrue =>
    split at h
    next hfalse => cases h; simp [hfalse]
    next => cases h

variable {directive : Directive}

/-- What one attribute changes of a request: the setting of its key, and nothing else. -/
theorem setRequest_eq_ok {s s' : RequestSettings} {a : Attribute}
    (h : setRequest directive s a = .ok s') :
    s'.type = (if a.key = "type" then some a.value else s.type) ∧
      s'.function = (if a.key = "name" then some a.value else s.function) ∧
      (if a.key = "autoLabel" then truth (requestElement directive) a = .ok s'.autoLabel
        else s'.autoLabel = s.autoLabel) ∧
      (if a.key = "nullable" ∧ directive = .field then
          truth (requestElement directive) a = .ok s'.nullable
        else s'.nullable = s.nullable) := by
  unfold setRequest at h
  split at h
  next hkey => cases h; simp [hkey]
  next hkey => cases h; simp [hkey]
  next hkey =>
    obtain ⟨b, hb, h⟩ := bind_eq_ok.1 h
    cases h
    simp [hkey, hb]
  next hkey =>
    by_cases hfield : directive = .field
    · rw [if_pos hfield] at h
      obtain ⟨b, hb, h⟩ := bind_eq_ok.1 h
      cases h
      subst hfield
      simp [hkey, hb]
    · rw [if_neg hfield] at h
      cases h
      simp [hkey, hfield]
  next htype hname hautoLabel hnullable =>
    cases h
    rw [if_neg htype, if_neg hname, if_neg hautoLabel, if_neg (hnullable ·.1)]
    exact ⟨rfl, rfl, rfl, rfl⟩

theorem setRequest_type : Takes (setRequest directive) "type" (·.type = ·) := by
  intro s s' a v h hs
  have htype := (setRequest_eq_ok h).1
  rwa [hs] at htype

theorem setRequest_function : Takes (setRequest directive) "name" (·.function = ·) := by
  intro s s' a v h hs
  have hfunction := (setRequest_eq_ok h).2.1
  rwa [hs] at hfunction

theorem setRequest_autoLabel :
    Takes (setRequest directive) "autoLabel" fun s v => s.autoLabel = false ↔ v = some "false" := by
  intro s s' a v h hs
  have hautoLabel := (setRequest_eq_ok h).2.2.1
  by_cases hkey : a.key = "autoLabel"
  · rw [if_pos hkey] at hautoLabel
    simp [hkey, truth_eq_ok hautoLabel]
  · rw [if_neg hkey] at hautoLabel
    rw [if_neg hkey, hautoLabel, hs]

theorem setRequest_nullable :
    Takes (setRequest directive) "nullable" fun s v =>
      s.nullable = true ↔ directive = .field ∧ v = some "true" := by
  intro s s' a v h hs
  have hnullable := (setRequest_eq_ok h).2.2.2
  by_cases hkey : a.key = "nullable"
  · by_cases hfield : directive = .field
    · rw [if_pos ⟨hkey, hfield⟩] at hnullable
      simp [hkey, hfield, truth_eq_ok hnullable]
    · rw [if_neg (hfield ·.2)] at hnullable
      rw [hnullable, hs]
      simp [hfield]
  · rw [if_neg (hkey ·.1)] at hnullable
    rw [if_neg hkey, hnullable, hs]

theorem request_madeBy {tag : Tag} {r : Request}
    (htag : Document.directive? tag.name = some directive) (h : request directive tag = .ok r)
    (children : List Node) : r.MadeBy (.element tag children) := by
  obtain ⟨s, hs, h⟩ := bind_eq_ok.1 h
  obtain ⟨type, htype, h⟩ := bind_eq_ok.1 h
  cases h
  exact {
    element := htag
    type := setRequest_type.shows rfl hs ▸ require_eq_ok htype
    function := (setRequest_function.shows rfl hs).symm
    autoLabel := setRequest_autoLabel.shows (by simp) hs
    nullable := setRequest_nullable.shows (by simp) hs }

theorem setRoot_requests (key : String) : Takes setRoot key fun s _ => s.requests = [] := by
  intro s s' a v h hs
  unfold setRoot at h
  split at h <;> simp_all [bind_eq_ok, pure, Except.pure] <;> grind

end Element

/-! ## Sayings -/

/-- Whether a tag is that of a type's element. -/
def Markup.Tag.isType (t : Tag) : Bool :=
  ["enum", "product", "sum", "singleton", "opaque", "external"].contains t.name

/-- What an element says about the schema of its document. -/
inductive Saying where
  /-- A root, which starts a schema. -/
  | root
  /-- The element of a type directly inside of a section; `nested` says whether the section is
  itself inside of a type's element. -/
  | type (n : Node) (nested : Bool)
  /-- The element of a request. -/
  | request (n : Node)

namespace Saying

def isRoot : Saying → Bool
  | root => true
  | _ => false

def isNested : Saying → Bool
  | type _ nested => nested
  | _ => false

/-- The element of the type that is said, wherever its section is. -/
def type? : Saying → Option Node
  | type n _ => some n
  | _ => none

/-- The element of the type that is said, if its section is not inside of a type's element. -/
def declared? : Saying → Option Node
  | type n false => some n
  | _ => none

def request? : Saying → Option Node
  | request n => some n
  | _ => none

end Saying

mutual

/-- What an element says, which is inside of a type's element or not. What is inside of a request
is not looked at, and only sections are looked for inside of a type. -/
def Markup.Node.sayings (inType : Bool) : Node → List Saying
  | .element tag children =>
    if tag.name = "types" then sectionSayings inType children
    else if (Document.directive? tag.name).isSome then
      if inType then [] else [.request (.element tag children)]
    else if tag.name = "fieldSchema" && !inType then .root :: sayingsOf inType children
    else sayingsOf inType children

/-- What elements say, in order. -/
def sayingsOf (inType : Bool) : List Node → List Saying
  | [] => []
  | n :: ns => n.sayings inType ++ sayingsOf inType ns

/-- What the elements of a section say: each one its type, and then what is inside of it. -/
def sectionSayings (inType : Bool) : List Node → List Saying
  | [] => []
  | n :: ns =>
    (if n.tag.isType then [.type n inType] else []) ++ n.sayings true ++ sectionSayings inType ns

end

/-- What a document says, in the order of its elements. -/
def sayings (document : String) : List Saying :=
  sayingsOf false (levels (Markup.events document)).flatten

/-- What is said after the last root. -/
def sinceRoot (told : List Saying) : List Saying :=
  told.rtakeWhile (!·.isRoot)

theorem sayingsOf_append (inType : Bool) (ns ms : List Node) :
    sayingsOf inType (ns ++ ms) = sayingsOf inType ns ++ sayingsOf inType ms := by
  induction ns with
  | nil => rfl
  | cons n ns ih => rw [List.cons_append, sayingsOf, sayingsOf, ih, List.append_assoc]

mutual

/-- Inside of a type's element only sections count, and their types are nested. -/
theorem Markup.Node.isNested_sayings : ∀ (n : Node), ∀ x ∈ n.sayings true, x.isNested = true
  | .element tag children, x, hx => by
    rw [Node.sayings] at hx
    split at hx
    · exact isNested_sectionSayings children x hx
    · split at hx
      · cases hx
      · simp only [Bool.not_true, Bool.and_false, Bool.false_eq_true, if_false] at hx
        exact isNested_sayingsOf children x hx

theorem isNested_sayingsOf : ∀ (ns : List Node), ∀ x ∈ sayingsOf true ns, x.isNested = true
  | n :: ns, x, hx => by
    rw [sayingsOf, List.mem_append] at hx
    rcases hx with hx | hx
    · exact n.isNested_sayings x hx
    · exact isNested_sayingsOf ns x hx

theorem isNested_sectionSayings :
    ∀ (ns : List Node), ∀ x ∈ sectionSayings true ns, x.isNested = true
  | n :: ns, x, hx => by
    rw [sectionSayings, List.mem_append, List.mem_append] at hx
    rcases hx with (hx | hx) | hx
    · split at hx
      · rw [List.mem_singleton.1 hx]
        rfl
      · cases hx
    · exact n.isNested_sayings x hx
    · exact isNested_sectionSayings ns x hx

end

/-- A section says what types its elements are, and nothing else that counts. -/
theorem filterMap_sectionSayings (ns : List Node) :
    (sectionSayings false ns).filterMap Saying.declared? = ns.filter (·.tag.isType) ∧
      (sectionSayings false ns).filterMap Saying.request? = [] ∧
      ∀ x ∈ sectionSayings false ns, x.isRoot = false := by
  have nested {x : Saying} (hx : x.isNested = true) :
      x.declared? = none ∧ x.request? = none ∧ x.isRoot = false := by
    cases x with
    | type n nested =>
      have hnested : nested = true := hx
      subst hnested
      exact ⟨rfl, rfl, rfl⟩
    | root | request => cases hx
  induction ns with
  | nil => exact ⟨rfl, rfl, nofun⟩
  | cons n ns ih =>
    obtain ⟨htypes, hrequests, hroots⟩ := ih
    have hinner := n.isNested_sayings
    have hdeclared : (n.sayings true).filterMap Saying.declared? = [] :=
      List.filterMap_eq_nil_iff.2 fun x hx => (nested (hinner x hx)).1
    have hrequest : (n.sayings true).filterMap Saying.request? = [] :=
      List.filterMap_eq_nil_iff.2 fun x hx => (nested (hinner x hx)).2.1
    rw [sectionSayings]
    refine ⟨?_, ?_, ?_⟩
    · simp only [List.filterMap_append, htypes, hdeclared, List.append_nil]
      by_cases hn : n.tag.isType = true <;> simp [hn, Saying.declared?]
    · simp only [List.filterMap_append, hrequests, hrequest, List.append_nil]
      by_cases hn : n.tag.isType = true <;> simp [hn, Saying.request?]
    · intro x hx
      rw [List.mem_append, List.mem_append] at hx
      rcases hx with (hx | hx) | hx
      · by_cases hn : n.tag.isType = true
        · rw [if_pos hn, List.mem_singleton] at hx
          rw [hx]
          rfl
        · rw [if_neg hn] at hx
          cases hx
      · exact (nested (hinner x hx)).2.2
      · exact hroots x hx

theorem sinceRoot_root (told : List Saying) : sinceRoot (told ++ [.root]) = [] :=
  List.rtakeWhile_concat_neg _ _ _ (by simp [Saying.isRoot])

theorem sinceRoot_append {new : List Saying} (hnew : ∀ x ∈ new, x.isRoot = false)
    (told : List Saying) : sinceRoot (told ++ new) = sinceRoot told ++ new := by
  induction new using List.reverseRecOn with
  | nil => rw [List.append_nil, List.append_nil]
  | append_singleton new x ih =>
    obtain ⟨hnew, hx⟩ := List.forall_mem_append.1 hnew
    have hx : x.isRoot = false := hx x (List.mem_singleton_self x)
    rw [← List.append_assoc, sinceRoot, List.rtakeWhile_concat_pos _ _ _ (by simp [hx]),
      ← sinceRoot, ih hnew, List.append_assoc]

/-! ## What a schema holds -/

/-- A schema holds the types and the requests that are said, and no others. -/
structure Schema.Holds (s : Schema) (told : List Saying) : Prop where
  types : s.DeclaredBy (told.filterMap Saying.declared?)
  requests : List.Forall₂ Request.MadeBy s.requests (told.filterMap Saying.request?)

theorem Descriptor.DeclaredBy.isType {owner : Option String} {d : Descriptor} {n : Node}
    (h : d.DeclaredBy owner n) : n.tag.isType = true := by
  cases d with
  | primitive => exact h.elim
  | enumeration | singleton | product | sum | sealed | external =>
    rw [Tag.isType, h.1]
    rfl

/-- What is declared by elements is declared by elements of types. -/
theorem Schema.DeclaredBy.isType {s : Schema} {nodes : List Node} (h : s.DeclaredBy nodes) :
    ∀ n ∈ nodes, n.tag.isType = true := by
  obtain ⟨ds, -, declarations⟩ := h
  intro n hn
  obtain ⟨d, hd⟩ : ∃ d : Descriptor, d.DeclaredBy none n := by
    obtain ⟨i, hi, rfl⟩ := List.mem_iff_getElem.1 hn
    exact ⟨_, declarations.declared.get (declarations.declared.length_eq ▸ hi) hi⟩
  exact hd.isType

namespace Document

/-- A section adds no requests. -/
theorem typesWithin_requests {rounds : Nat} {s t : Schema} {es rest : List Event}
    (h : typesWithin rounds s es = .ok (t, rest)) : t.requests = s.requests := by
  induction rounds generalizing s es with
  | zero =>
    cases h
    rfl
  | succ rounds ih =>
    cases es with
    | nil =>
      cases h
      rfl
    | cons e es =>
      have taken (tag : Tag) (isEmpty : Bool)
          (h : typesWithin (rounds + 1) s (tag.opening isEmpty :: es) = .ok (t, rest)) :
          t.requests = s.requests := by
        rw [typesWithin_opening] at h
        obtain ⟨⟨d, mid⟩, -, h⟩ := bind_eq_ok.1 h
        obtain ⟨s', hdeclare, h⟩ := bind_eq_ok.1 h
        rw [ih h]
        unfold declare at hdeclare
        split at hdeclare <;> cases hdeclare
        rfl
      cases e with
      | start tag => exact taken tag false h
      | empty tag => exact taken tag true h
      | close name =>
        cases h
        rfl
      | filler sort => exact ih h
      | fault f => cases h

variable {schema schema' : Option Schema} {es rest : List Event}

/-- A tag outside all sections, with what is taken along with it, says something new, and the
schema comes to hold it. -/
theorem takeTag_holds {tag : Tag} {isEmpty : Bool}
    (h : takeTag schema tag isEmpty es = .ok (schema', rest)) {before : List Saying}
    (hschema : ∀ s ∈ schema, s.Holds (sinceRoot before)) :
    rest.length ≤ es.length ∧ ∃ new,
      sayingsOf false (levels (tag.opening isEmpty :: es)).flatten =
        new ++ sayingsOf false (levels rest).flatten ∧
      ∀ s ∈ schema', s.Holds (sinceRoot (before ++ new)) := by
  unfold takeTag at h
  split at h
  next hroot =>
    obtain ⟨s, hs, h⟩ := bind_eq_ok.1 h
    cases h
    obtain ⟨inner, outer, hopening, hlevels⟩ := Markup.flatten_levels_opening tag isEmpty es
    refine ⟨Nat.le_refl _, [.root], ?_, ?_⟩
    · rw [hopening, hlevels, sayingsOf, Node.sayings, sayingsOf_append]
      simp [hroot, directive?]
    · intro s' hs'
      obtain rfl := Option.mem_some.1 hs'
      rw [sinceRoot_root]
      refine ⟨root_declaredBy hs, ?_⟩
      rw [(Element.setRoot_requests "").shows rfl hs]
      exact .nil
  next hroot =>
    split at h
    next htypes =>
      obtain ⟨htag, hempty⟩ : tag.name = "types" ∧ isEmpty = false := by simpa using htypes
      subst hempty
      obtain ⟨s, hs, h⟩ := bind_eq_ok.1 h
      obtain ⟨⟨t, mid⟩, ht, h⟩ := bind_eq_ok.1 h
      cases h
      have holds := hschema s (started_eq_ok hs)
      obtain ⟨children, hends, declared⟩ :=
        typesWithin_declaredBy (Nat.le_refl _) ht holds.types
      obtain ⟨htypes, hrequests, hroots⟩ := filterMap_sectionSayings children
      have hall : children.filter (·.tag.isType) = children :=
        List.filter_eq_self.2 fun n hn => declared.isType n (List.mem_append_right _ hn)
      refine ⟨hends.length, sectionSayings false children, ?_, ?_⟩
      · rw [(Inside.start hends).flatten_levels, sayingsOf, Node.sayings, if_pos htag]
      · intro s' hs'
        obtain rfl := Option.mem_some.1 hs'
        rw [sinceRoot_append hroots]
        refine ⟨?_, ?_⟩
        · rwa [List.filterMap_append, htypes, hall]
        · rw [List.filterMap_append, hrequests, List.append_nil, typesWithin_requests ht]
          exact holds.requests
    next htypes =>
      split at h
      next d hd =>
        obtain ⟨s, hs, h⟩ := bind_eq_ok.1 h
        obtain ⟨r, hr, h⟩ := bind_eq_ok.1 h
        obtain ⟨mid, hskip, h⟩ := bind_eq_ok.1 h
        cases h
        obtain ⟨children, hinside⟩ := skipAfter_inside hskip
        have holds := hschema s (started_eq_ok hs)
        have htag : tag.name ≠ "types" := by
          intro htag
          rw [htag] at hd
          cases hd
        refine ⟨hinside.length, [.request (.element tag children)], ?_, ?_⟩
        · rw [hinside.flatten_levels, sayingsOf, Node.sayings, if_neg htag, hd]
          rfl
        · intro s' hs'
          obtain rfl := Option.mem_some.1 hs'
          rw [sinceRoot_append (List.forall_mem_singleton.2 rfl)]
          refine ⟨?_, ?_⟩
          · rw [List.filterMap_append, List.filterMap_cons_none rfl, List.filterMap_nil,
              List.append_nil]
            exact holds.types
          · rw [List.filterMap_append]
            exact List.rel_append holds.requests (.cons (Element.request_madeBy hd hr _) .nil)
      next hd =>
        cases h
        refine ⟨Nat.le_refl _, [], ?_, by rwa [List.append_nil]⟩
        -- A section that ends where it starts says nothing, like any other tag that is passed over.
        obtain ⟨inner, outer, hopening, hlevels⟩ := Markup.flatten_levels_opening tag isEmpty es
        rw [hopening, hlevels, sayingsOf, Node.sayings, sayingsOf_append]
        by_cases htag : tag.name = "types"
        · have hempty : isEmpty = true := by simpa [htag] using htypes
          subst hempty
          have hnodes := hopening.symm.trans ((Inside.empty es).flatten_levels tag)
          obtain rfl : inner = [] := (Node.element.inj (List.cons.inj hnodes).1).2
          rw [if_pos htag]
          rfl
        · rw [if_neg htag, hd]
          simp [hroot]

/-- Up to the end of a document, the schema holds what is said since the last root. -/
theorem sectionsWithin_holds {rounds : Nat} {t : Schema} (hrounds : es.length ≤ rounds)
    (h : sectionsWithin rounds schema es = .ok (some t)) (before : List Saying)
    (hschema : ∀ s ∈ schema, s.Holds (sinceRoot before)) :
    t.Holds (sinceRoot (before ++ sayingsOf false (levels es).flatten)) := by
  have ended (h : schema = some t) : t.Holds (sinceRoot (before ++ [])) := by
    rw [List.append_nil]
    exact hschema t h
  induction rounds generalizing schema es before with
  | zero =>
    obtain rfl := List.eq_nil_of_length_eq_zero (Nat.le_zero.1 hrounds)
    cases h
    exact ended rfl
  | succ rounds ih =>
    cases es with
    | nil =>
      cases h
      exact ended rfl
    | cons e es =>
      have hes : es.length ≤ rounds := Nat.le_of_succ_le_succ hrounds
      have taken (tag : Tag) (isEmpty : Bool)
          (h : sectionsWithin (rounds + 1) schema (tag.opening isEmpty :: es) = .ok (some t)) :
          t.Holds (sinceRoot (before ++
            sayingsOf false (levels (tag.opening isEmpty :: es)).flatten)) := by
        rw [sectionsWithin_opening] at h
        obtain ⟨⟨schema', rest⟩, htake, h⟩ := bind_eq_ok.1 h
        obtain ⟨hlength, new, hnew, holds⟩ := takeTag_holds htake hschema
        rw [hnew, ← List.append_assoc]
        refine ih (hlength.trans hes) h _ holds fun h => ?_
        rw [List.append_nil]
        exact holds t h
      cases e with
      | start tag => exact taken tag false h
      | empty tag => exact taken tag true h
      | close name => exact ih hes h _ hschema ended
      | filler sort => exact ih hes h _ hschema ended
      | fault f => cases h

end Document

theorem Schema.holds_of_ofEvents {es : List Event} {s : Schema} (h : Schema.ofEvents es = .ok s) :
    s.Holds (sinceRoot (sayingsOf false (levels es).flatten)) :=
  Document.sectionsWithin_holds (Nat.le_refl _) (Schema.sections_of_ofEvents h) [] nofun

/-! ## What is left out -/

/-- A schema retains what is told: it declares each type that an element tells of, and makes each
request, in the order in which they are told. -/
structure Schema.Retains (s : Schema) (told : List Saying) : Prop where
  types : List.SublistForall₂ (fun n d => Descriptor.DeclaredBy none d n)
    (told.filterMap Saying.type?) s.catalog.declared
  requests : List.SublistForall₂ (fun n r => Request.MadeBy r n)
    (told.filterMap Saying.request?) s.requests

/-- A schema keeps what a document says: it declares each type by whose element one of its sections
is made up, and makes each request, in the document's order. -/
def Schema.Keeps (s : Schema) (document : String) : Prop :=
  s.Retains (sayings document)

/-- Nothing is said before a root but roots, and nothing inside of a type's element. -/
structure Unbroken (told : List Saying) : Prop where
  rootsFirst : told.Pairwise fun x y => y.isRoot = true → x.isRoot = true
  notNested : ∀ x ∈ told, x.isNested = false

theorem length_filterMap_type? (told : List Saying) :
    (told.filterMap Saying.type?).length =
      (told.filterMap Saying.declared?).length + told.countP Saying.isNested := by
  induction told with
  | nil => rfl
  | cons x told ih =>
    rw [List.filterMap_cons, List.filterMap_cons, List.countP_cons]
    cases x with
    | root | request => exact ih
    | type n nested =>
      cases nested with
      | true =>
        show (told.filterMap Saying.type?).length + 1 =
          (told.filterMap Saying.declared?).length + (told.countP Saying.isNested + 1)
        omega
      | false =>
        show (told.filterMap Saying.type?).length + 1 =
          (told.filterMap Saying.declared?).length + 1 + (told.countP Saying.isNested + 0)
        omega

/-- Nothing is left out where the last root comes after no more than other roots, and no section is
inside of a type's element. -/
theorem unbroken_iff (told : List Saying) : Unbroken told ↔
    (told.filterMap Saying.type?).length ≤
        ((sinceRoot told).filterMap Saying.declared?).length ∧
      (told.filterMap Saying.request?).length ≤
        ((sinceRoot told).filterMap Saying.request?).length := by
  obtain ⟨first, hsplit, hfirst⟩ : ∃ first, first ++ sinceRoot told = told ∧
      ∀ hne : first ≠ [], (first.getLast hne).isRoot = true := by
    refine ⟨_, List.rdropWhile_append_rtakeWhile, fun hne => ?_⟩
    simpa using List.rdropWhile_last_not _ _ hne
  have hlast : ∀ x ∈ sinceRoot told, x.isRoot = false := fun x hx => by
    simpa using List.mem_rtakeWhile_imp hx
  have htypes := length_filterMap_type? (sinceRoot told)
  generalize sinceRoot told = last at hsplit hlast htypes
  subst hsplit
  rw [List.filterMap_append, List.filterMap_append, List.length_append, List.length_append]
  constructor
  · intro h
    -- All that stands before the last root is a root.
    have hroots : ∀ x ∈ first, x.isRoot = true := by
      obtain rfl | ⟨init, r, rfl⟩ := first.eq_nil_or_concat
      · nofun
      · have hr : r.isRoot = true := by simpa using hfirst (by simp)
        rw [List.concat_eq_append] at h ⊢
        have hpairs := (List.pairwise_append.1 (List.pairwise_append.1 h.rootsFirst).1).2.2
        refine List.forall_mem_append.2 ⟨fun x hx => ?_, List.forall_mem_singleton.2 hr⟩
        exact hpairs x hx r (List.mem_singleton_self r) hr
    have hnested : last.countP Saying.isNested = 0 := by
      rw [List.countP_eq_zero]
      intro x hx
      simp [h.notNested x (List.mem_append_right _ hx)]
    have hnone : first.filterMap Saying.type? = [] ∧ first.filterMap Saying.request? = [] := by
      constructor <;> rw [List.filterMap_eq_nil_iff] <;> intro x hx <;>
        have hx := hroots x hx <;> cases x <;> first | rfl | cases hx
    rw [hnone.1, hnone.2]
    simp only [List.length_nil]
    omega
  · rintro ⟨hle, hle'⟩
    have htype : first.filterMap Saying.type? = [] := List.eq_nil_of_length_eq_zero (by omega)
    have hrequest : first.filterMap Saying.request? = [] :=
      List.eq_nil_of_length_eq_zero (by omega)
    have hroots : ∀ x ∈ first, x.isRoot = true := by
      intro x hx
      have hxtype := List.filterMap_eq_nil_iff.1 htype x hx
      have hxrequest := List.filterMap_eq_nil_iff.1 hrequest x hx
      cases x with
      | root => rfl
      | type n nested => cases hxtype
      | request n => cases hxrequest
    have hnested : ∀ x ∈ last, x.isNested = false := by
      have hcount : last.countP Saying.isNested = 0 := by omega
      simpa [List.countP_eq_zero] using hcount
    refine ⟨List.pairwise_append.2 ⟨?_, ?_, ?_⟩, ?_⟩
    · exact List.pairwise_of_forall_mem_list fun x hx _ _ _ => hroots x hx
    · exact List.pairwise_of_forall_mem_list fun _ _ y hy hroot => by
        rw [hlast y hy] at hroot
        cases hroot
    · exact fun x hx _ _ _ => hroots x hx
    · refine List.forall_mem_append.2 ⟨fun x hx => ?_, hnested⟩
      have hx := hroots x hx
      cases x with
      | root => rfl
      | type | request => cases hx

theorem filterMap_declared?_sublist (told : List Saying) :
    (told.filterMap Saying.declared?).Sublist (told.filterMap Saying.type?) := by
  induction told with
  | nil => exact .slnil
  | cons x told ih =>
    cases x with
    | root | request => exact ih
    | type n nested =>
      cases nested with
      | true => exact ih.cons n
      | false => exact ih.cons_cons n

theorem length_le_of_sublistForall₂ {α β : Type} {R : α → β → Prop} {as : List α} {bs : List β}
    (h : List.SublistForall₂ R as bs) : as.length ≤ bs.length := by
  obtain ⟨mid, hmid, hsub⟩ := List.sublistForall₂_iff.1 h
  rw [hmid.length_eq]
  exact hsub.length_le

/-- A schema holds what is told by the events that it is read from after the last root and outside
of the elements of types, in order and nothing else. So it retains all that is told if and only if
nothing is said before a root or inside of a type's element. -/
theorem Schema.ofEvents_retains_iff {es : List Event} {s : Schema} {told : List Saying}
    (h : Schema.ofEvents es = .ok s) (htold : sayingsOf false (levels es).flatten = told) :
    List.Forall₂ (Descriptor.DeclaredBy none) s.catalog.declared
        ((sinceRoot told).filterMap Saying.declared?) ∧
      List.Forall₂ Request.MadeBy s.requests ((sinceRoot told).filterMap Saying.request?) ∧
      (s.Retains told ↔ Unbroken told) := by
  have holds := Schema.holds_of_ofEvents h
  rw [htold] at holds
  obtain ⟨⟨ds, hcatalog, declarations⟩, hrequests⟩ := holds
  have htypes : List.Forall₂ (Descriptor.DeclaredBy none) s.catalog.declared
      ((sinceRoot told).filterMap Saying.declared?) := by
    rw [hcatalog, Catalog.declared_ofList]
    exact declarations.declared
  refine ⟨htypes, hrequests, ?_⟩
  have hsuffix : (sinceRoot told).Sublist told := (List.rtakeWhile_suffix _ _).sublist
  rw [unbroken_iff]
  constructor
  · intro retains
    rw [← htypes.length_eq, ← hrequests.length_eq]
    exact ⟨length_le_of_sublistForall₂ retains.types,
      length_le_of_sublistForall₂ retains.requests⟩
  · rintro ⟨hle, hle'⟩
    have heq := ((filterMap_declared?_sublist _).trans
      (hsuffix.filterMap Saying.type?)).eq_of_length_le hle
    have heq' := (hsuffix.filterMap Saying.request?).eq_of_length_le hle'
    constructor
    · rw [← heq]
      exact List.sublistForall₂_iff.2 ⟨_, htypes.flip, List.Sublist.refl _⟩
    · rw [← heq']
      exact List.sublistForall₂_iff.2 ⟨_, hrequests.flip, List.Sublist.refl _⟩

/-- A schema holds what its document says after the last root and outside of the elements of types,
in order and nothing else. So it keeps all that is said if and only if nothing is said before a
root or inside of a type's element. -/
theorem Schema.parse_keeps_iff {document : String} {s : Schema}
    (h : Schema.parse document = .ok s) :
    List.Forall₂ (Descriptor.DeclaredBy none) s.catalog.declared
        ((sinceRoot (sayings document)).filterMap Saying.declared?) ∧
      List.Forall₂ Request.MadeBy s.requests
        ((sinceRoot (sayings document)).filterMap Saying.request?) ∧
      (s.Keeps document ↔ Unbroken (sayings document)) :=
  Schema.ofEvents_retains_iff h rfl

/-- A request before and one inside of an element that is not known, which a section follows on. -/
def notebook : String :=
  "<fieldSchema><types><opaque name=\"A\"/></types><generate type=\"A\"/>" ++
    "<page><generateField type=\"B\"/><types><opaque name=\"B\"/></types></page>"

theorem Schema.parse_keeps_iff_notebook :
    ∃ s, Schema.parse notebook = .ok s ∧
      (s.catalog.declared.map Descriptor.name, s.requests.map Request.type) =
        (["A", "B"], ["A", "B"]) ∧
      List.Forall₂ (Descriptor.DeclaredBy none) s.catalog.declared
          ((sinceRoot (sayings notebook)).filterMap Saying.declared?) ∧
        List.Forall₂ Request.MadeBy s.requests
          ((sinceRoot (sayings notebook)).filterMap Saying.request?) ∧
        (s.Keeps notebook ↔ Unbroken (sayings notebook)) ∧
      s.Keeps notebook := by
  obtain ⟨read, rootsFirst, notNested⟩ :
      (Schema.parse notebook).toOption.map (fun s =>
          (s.catalog.declared.map Descriptor.name, s.requests.map Request.type)) =
        some (["A", "B"], ["A", "B"]) ∧
      (sayings notebook).Pairwise (fun x y => y.isRoot = true → x.isRoot = true) ∧
      ∀ x ∈ sayings notebook, x.isNested = false := by
    decide +kernel
  obtain ⟨s, hs, names⟩ := toOption_map_eq_some read
  obtain ⟨types, requests, keeps_iff⟩ := Schema.parse_keeps_iff hs
  exact ⟨s, hs, names, types, requests, keeps_iff, keeps_iff.2 ⟨rootsFirst, notNested⟩⟩

/-- Two roots in one document: a type is declared in the first. -/
def reprint : String :=
  "<fieldSchema package=\"p\"><types><opaque name=\"X\"/></types></fieldSchema>" ++
    "<fieldSchema package=\"p\"/>"

/-- The second root of a document drops what the first one declares, without an error. -/
theorem Schema.exists_type_dropped :
    ∃ s, Schema.parse reprint = .ok s ∧ s.catalog.declared.length = 0 ∧
      ((sayings reprint).filterMap Saying.type?).map (·.tag.value? "name") = [some "X"] ∧
      ¬s.Keeps reprint := by
  obtain ⟨read, hsaid⟩ :
      (Schema.parse reprint).toOption.map (·.catalog.declared.length) = some 0 ∧
      ((sayings reprint).filterMap Saying.type?).map (·.tag.value? "name") = [some "X"] := by
    decide +kernel
  obtain ⟨s, hs, hnone⟩ := toOption_map_eq_some read
  refine ⟨s, hs, hnone, hsaid, fun keeps => ?_⟩
  have hle := length_le_of_sublistForall₂ keeps.types
  have hlength := congrArg List.length hsaid
  rw [List.length_map, List.length_singleton] at hlength
  omega

end EditableFields
