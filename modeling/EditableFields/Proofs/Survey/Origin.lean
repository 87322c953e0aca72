import EditableFields.Proofs.Survey.Mirror
import EditableFields.Proofs.Survey.WellFormed
import EditableFields.Schema.Document
import EditableFields.Schema.Validity
import Mathlib

/-!
# Surveys: what a name was classified from

Types and variants are remembered by their names alone, and nothing keeps a declared type from
having the name of a variant. The first type or variant of a name whose classification starts
decides what is remembered of the name (`Origin`), and so what every other one of the name is found
to be. A sum is found to have the variants that were declared for it exactly if the origins of its
name and of their names were declared like them (`memoized_sum_iff`). Where no other type or variant
has one of these names, that is always so; `collision` describes a schema where it is not.
-/

namespace EditableFields

/-! ## What a variant is made of -/

/-- What is declared of a variant that a sum may have. -/
inductive VariantContent where
  | members (members : List Member)
  | constant (valueless : Bool)
deriving DecidableEq

/-- The declared content of a product or singleton. -/
def Descriptor.variantContent? : Descriptor → Option VariantContent
  | product _ content => some (.members content.members)
  | singleton _ valueless => some (.constant valueless)
  | _ => none

/-- What a resolved member says of the member that was declared. -/
def ResolvedMember.declared {κ : Type} (r : ResolvedMember κ) : Member :=
  ⟨r.name, r.type, r.nullable⟩

/-- The content that a product or singleton was found to have. -/
def Classification.variantContent? : Classification → Option VariantContent
  | product _ members => some (.members (members.map (·.declared)))
  | singleton valueless => some (.constant valueless)
  | _ => none

/-- A variant was found to be what was declared of it, if it was declared as a product or
singleton. -/
def OwnVariant (v : Descriptor) (r : ResolvedVariant Classification) : Prop :=
  r.type = v.name ∧ ∀ c, v.variantContent? = some c → r.classification.variantContent? = some c

theorem Classification.IsVariant.isSupported {k : Classification} (h : k.IsVariant) :
    k.isSupported = true := by
  cases k with
  | product | singleton => rfl
  | primitive | enumeration | sum | external | unsupported => cases h

namespace Survey

variable {catalog : Catalog} {calls : List Call}

theorem descriptor_of_shape_singleton {standing : Standing} {d : Descriptor} {valueless : Bool}
    (h : d.shape standing = .singleton valueless) : d = .singleton d.name valueless := by
  unfold Descriptor.shape at h
  split at h
  · cases h
  · cases d with
    | singleton name valueless' =>
      cases h
      rfl
    | enumeration => simp only at h; split_ifs at h
    | product => simp only [productShape] at h; split_ifs at h
    | sum => simp only [sumShape] at h; split_ifs at h
    | primitive | sealed | external => cases h

theorem variants_of_shape_sum {standing : Standing} {d : Descriptor} {variants : List Descriptor}
    (h : d.shape standing = .sum variants) : d.variants = variants := by
  obtain ⟨hprim, name, companion, rfl⟩ := descriptor_of_shape_sum h
  simp only [Descriptor.shape, hprim, sumShape] at h
  split_ifs at h
  cases h
  rfl

theorem map_declared_of_mirrors {ms : List Member} {rs : List (ResolvedMember Classification)}
    (h : List.Forall₂ (MirrorsMember catalog) ms rs) : rs.map (·.declared) = ms := by
  rw [map_eq_of_forall₂ (f := id) h, List.map_id]
  intro m r hr
  rw [ResolvedMember.declared, hr.name_eq, hr.type_eq, hr.nullable_eq, id]

/-- A product or singleton has the content of the descriptor whose shape it says. -/
theorem Mirrors.variantContent? {standing : Standing} {d : Descriptor} {k : Classification}
    (h : Mirrors catalog (d.shape standing) k) (hk : k.IsVariant) :
    k.variantContent? = d.variantContent? := by
  cases k with
  | product style rs =>
    obtain ⟨ms, hshape, mirrors⟩ := h
    obtain ⟨-, name, content, rfl, rfl, -⟩ := descriptor_of_shape_product hshape
    rw [Classification.variantContent?, map_declared_of_mirrors mirrors]
    rfl
  | singleton valueless =>
    rw [descriptor_of_shape_singleton h]
    rfl
  | primitive | enumeration | sum | external | unsupported => cases hk

theorem forall₂_type_iff {vs : List Descriptor} {rs : List (ResolvedVariant Classification)} :
    List.Forall₂ (fun v r => r.type = v.name) vs rs ↔
      rs.map (·.type) = vs.map Descriptor.name := by
  rw [← List.forall₂_eq_eq_eq, List.forall₂_map_left_iff, List.forall₂_map_right_iff]
  exact ⟨List.Forall₂.flip, List.Forall₂.flip⟩

/-! ## Origins -/

/-- In the course of calls, the classification of a type or variant has started, and so it is what
its name was classified from. -/
def Origin (catalog : Catalog) (calls : List Call) (d : Descriptor) : Prop :=
  ∃ depth q, Asked catalog calls depth q ∧ q.Fresh ∧ q.descriptor = d

/-- What is remembered was classified from something. -/
theorem exists_origin {n : String} {k : Classification}
    (h : (history catalog calls).memoized n = some k) :
    ∃ d, Origin catalog calls d ∧ d.name = n := by
  obtain ⟨depth, q, hq, hfresh, hname⟩ := exists_asked_of_memoized (by rw [h]; rfl)
  exact ⟨q.descriptor, ⟨depth, q, hq, hfresh, rfl⟩, hname⟩

/-- What is asked for in the course of calls about types of a catalog stands in it. -/
theorem Asked.placed (hcalls : ∀ c ∈ calls, c.OfCatalog catalog) {depth : Nat} {q : Inquiry}
    (h : Asked catalog calls depth q) : Placed catalog q.standing q.descriptor := by
  induction h with
  | call hsplit hq => exact (hcalls _ (by simp [hsplit])).placed hq
  | nested _ _ hp ih => exact placed_of_mem_inquiries ih hp

theorem Origin.placed (hcalls : ∀ c ∈ calls, c.OfCatalog catalog) {d : Descriptor}
    (h : Origin catalog calls d) : ∃ standing, Placed catalog standing d := by
  obtain ⟨depth, q, hq, -, rfl⟩ := h
  exact ⟨q.standing, hq.placed hcalls⟩

/-- What is remembered of a name says what its origin was declared to be. -/
theorem Origin.mirrors {d : Descriptor} (h : Origin catalog calls d) {k : Classification}
    (hk : (history catalog calls).memoized d.name = some k) :
    ∃ standing, Mirrors catalog (d.shape standing) k := by
  obtain ⟨depth, q, hq, hfresh, rfl⟩ := h
  obtain ⟨depth, rfl⟩ := Nat.exists_eq_succ_of_ne_zero hq.ready.depth_ne_zero
  rw [hq.answer_memoized hfresh, Option.some_inj] at hk
  rw [← hk, Inquiry.answer, classifyWithin_of_fresh _ _ hfresh]
  exact ⟨q.standing, (mirrors_expand _ _ _).leave _ _⟩

theorem Origin.variantContent? {d : Descriptor} (h : Origin catalog calls d)
    {k : Classification} (hk : (history catalog calls).memoized d.name = some k)
    (hvariant : k.IsVariant) : d.variantContent? = k.variantContent? := by
  obtain ⟨standing, mirrors⟩ := h.mirrors hk
  exact (mirrors.variantContent? hvariant).symm

theorem Origin.map_type {d : Descriptor} (h : Origin catalog calls d)
    {rs : List (ResolvedVariant Classification)}
    (hk : (history catalog calls).memoized d.name = some (.sum rs)) :
    rs.map (·.type) = d.variants.map Descriptor.name := by
  obtain ⟨standing, vs, hshape, mirrors⟩ := h.mirrors hk
  rw [variants_of_shape_sum hshape]
  exact forall₂_type_iff.1 (mirrors.imp fun _ _ hvr => hvr.2)

/-! ## Sums -/

section Sums

variable {ds : List Descriptor} {calls : List Call}

/-- Whatever types of a catalog were classified, what is remembered is made of what was remembered
before. -/
theorem grounded_history (hcalls : ∀ c ∈ calls, c.OfCatalog (.ofList ds)) :
    Grounded (history (.ofList ds) calls).memo := by
  refine history_keeps (P := fun s => Grounded s.memo) .nil ?_
  intro before c after q hsplit hq h
  have hcall : c.OfCatalog (.ofList ds) := hcalls c (by simp [hsplit])
  have hplaced := hcall.placed hq
  have hidle : (history (.ofList ds) before).Idle := history_idle before
  cases c with
  | name n =>
    obtain ⟨d, hd, rfl⟩ := Option.map_eq_some_iff.1 hq
    exact hidle.grounded_classify h hplaced
  | type d =>
    cases hq
    exact hidle.grounded_classify h hplaced
  | variant d => cases hcall

/-- The variants of a sum are found to be what is remembered of their names. -/
theorem recalled_of_mem (hcalls : ∀ c ∈ calls, c.OfCatalog (.ofList ds)) {n : String}
    {rs : List (ResolvedVariant Classification)}
    (hk : (history (.ofList ds) calls).memoized n = some (.sum rs))
    {r : ResolvedVariant Classification} (hr : r ∈ rs) :
    r.classification.IsVariant ∧
      (history (.ofList ds) calls).memoized r.type = some r.classification := by
  have formed := (history_wellFormed _ _).of_memoized hk _ (.self _)
  have hvariant : r.classification.IsVariant := formed.2 r hr
  have hpart : (r.type, r.classification) ∈ (Classification.sum rs).parts :=
    Classification.mem_parts_sum.2 ⟨r, hr, rfl⟩
  exact ⟨hvariant, ((grounded_history hcalls).part hk hpart hvariant.isSupported).1⟩

/-- What a sum and its variants were classified from was declared like them: what the sum's name
was classified from has variants of the same names, and what a variant's name was classified from
has the same content. -/
structure DeclaredAlike (catalog : Catalog) (calls : List Call) (name : String)
    (variants : List Descriptor) : Prop where
  sum : ∀ e, Origin catalog calls e → e.name = name →
    e.variants.map Descriptor.name = variants.map Descriptor.name
  variant : ∀ v ∈ variants, ∀ e, Origin catalog calls e → e.name = v.name →
    ∀ c, v.variantContent? = some c → e.variantContent? = some c

/-- A sum that was classified has the variants that are declared for it exactly if it and they were
classified from what was declared like them. That is so if nothing else in the catalog has one of
their names. -/
theorem memoized_sum_iff (hcalls : ∀ c ∈ calls, c.OfCatalog (.ofList ds)) {name : String}
    {variants : List Descriptor} {rs : List (ResolvedVariant Classification)}
    (hk : (history (.ofList ds) calls).memoized name = some (.sum rs)) :
    (List.Forall₂ OwnVariant variants rs ↔ DeclaredAlike (.ofList ds) calls name variants) ∧
    ∀ companion, (∀ d ∈ Descriptor.sum name variants companion :: variants, ∀ standing e,
        Placed (.ofList ds) standing e → e.name = d.name → e = d) →
      List.Forall₂ OwnVariant variants rs := by
  have own_iff : List.Forall₂ OwnVariant variants rs ↔
      DeclaredAlike (.ofList ds) calls name variants := by
    constructor
    · intro own
      have htypes := forall₂_type_iff.1 (own.imp fun _ _ hvr => hvr.1)
      refine ⟨?_, ?_⟩
      · rintro e he rfl
        rw [← he.map_type hk, htypes]
      · intro v hv e he hname c hc
        obtain ⟨r, hr, htype, hown⟩ := exists_right_of_forall₂ own hv
        obtain ⟨hvariant, hmemo⟩ := recalled_of_mem hcalls hk hr
        rw [htype, ← hname] at hmemo
        rw [he.variantContent? hmemo hvariant, hown c hc]
    · intro alike
      obtain ⟨e, he, rfl⟩ := exists_origin hk
      have typed := List.forall₂_iff_zip.1
        (forall₂_type_iff.2 ((he.map_type hk).trans (alike.sum e he rfl)))
      refine List.forall₂_iff_zip.2 ⟨typed.1, fun {v r} hvr => ⟨typed.2 hvr, fun c hc => ?_⟩⟩
      obtain ⟨hv, hr⟩ := List.of_mem_zip hvr
      obtain ⟨hvariant, hmemo⟩ := recalled_of_mem hcalls hk hr
      obtain ⟨o, ho, hname⟩ := exists_origin hmemo
      rw [← hname] at hmemo
      rw [← ho.variantContent? hmemo hvariant]
      exact alike.variant v hv o ho (hname.trans (typed.2 hvr)) c hc
  refine ⟨own_iff, fun companion alone => own_iff.2 ⟨?_, ?_⟩⟩
  · intro e he hname
    obtain ⟨standing, hplaced⟩ := he.placed hcalls
    rw [alone _ List.mem_cons_self standing e hplaced hname]
    rfl
  · intro v hv e he hname c hc
    obtain ⟨standing, hplaced⟩ := he.placed hcalls
    rwa [alone v (List.mem_cons_of_mem _ hv) standing e hplaced hname]

end Sums

/-! ## A variant with the name of a declared type -/

/-- Types of which one is named like the variant of the other. -/
def namesakes : List Descriptor :=
  [.singleton "S::A" false, .sum "S" [.singleton "S::A" true] true]

theorem memoized_sum_iff_namesakes :
    (∀ c ∈ [Call.name "S", .name "S::A"], c.OfCatalog (.ofList namesakes)) ∧
      (history (.ofList namesakes) [.name "S", .name "S::A"]).memoized "S" =
        some (.sum [⟨"A", "S::A", .singleton true⟩]) ∧
      DeclaredAlike (.ofList namesakes) [.name "S", .name "S::A"] "S"
        [.singleton "S::A" true] := by
  have hcalls : ∀ c ∈ [Call.name "S", .name "S::A"], c.OfCatalog (.ofList namesakes) := by
    simp [Call.OfCatalog]
  have hk : (history (.ofList namesakes) [.name "S", .name "S::A"]).memoized "S" =
      some (.sum [⟨"A", "S::A", .singleton true⟩]) := rfl
  have own : List.Forall₂ OwnVariant [.singleton "S::A" true]
      [⟨"A", "S::A", .singleton true⟩] := .cons ⟨rfl, fun _ => id⟩ .nil
  exact ⟨hcalls, hk, (memoized_sum_iff hcalls hk).1.1 own⟩

/-- A document that describes them. -/
def collision : String :=
  "<fieldSchema package=\"p\"><types><singleton name=\"S::A\" valueless=\"false\"/>" ++
    "<sum name=\"S\"><singleton name=\"A\"/></sum></types></fieldSchema>"

/-- A variant can be found to be what another type of its name was declared to be. -/
theorem exists_variant_not_own :
    ∃ s : Schema, Schema.parse collision = .ok s ∧ s.check = .ok () ∧
      s.catalog = .ofList namesakes ∧
      ∃ rs, (history s.catalog [.name "S::A", .name "S"]).memoized "S" = some (.sum rs) ∧
        ¬ List.Forall₂ OwnVariant [.singleton "S::A" true] rs := by
  refine ⟨⟨"p", none, false, .snake, .ofList namesakes, []⟩, by cbv, by decide +kernel, rfl,
    [⟨"A", "S::A", .singleton false⟩], rfl, ?_⟩
  rintro (_ | ⟨⟨-, hown⟩, -⟩)
  cases hown _ rfl

end Survey

end EditableFields
