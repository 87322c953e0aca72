import EditableFields.Proofs.Planning.Making

/-!
# Planning: factories fit the values they are used for

Which types a factory makes fields for is said by `Implements`, without a planner: by the type of
the factory alone, the declared external factories, and the implementations that are generated. The
planner computes the type of a child's factory and the type of the child's values apart from one
another; `generate_fits` says that they stay in step. A type of primitive kind that is called
otherwise than its primitive would get the primitive's factory, which makes no fields for values of
that name; so such types are supposed to bear the names of their primitives.
-/

namespace EditableFields

namespace Planning

variable {ds : List Descriptor} {c : Configuration} {s : Planning} {requests : List Request}

/-- Factories of a type make fields that edit values of a type. -/
inductive Implements (catalog : Catalog) (s : Planning) : FactoryType → ValueType → Prop
  | leaf {kind} : Implements catalog s (.leaf kind) (.plain kind.typeName)
  | choice {type} : Implements catalog s (.choice type) (.plain type)
  | fixed {value} : Implements catalog s .fixed value
  | optional {inner type} : Implements catalog s inner (.plain type) →
      Implements catalog s (.optional inner type) (.optional type)
  | transform {inner type kind} : Implements catalog s inner (.plain kind.typeName) →
      Implements catalog s (.transform inner type kind) (.plain type)
  | shared {type} : Implements catalog s (.shared type) (.plain type)
  /-- An external factory is for the type that it was declared with. -/
  | external {type path} : catalog.get? type = some (.external type path) →
      Implements catalog s (.external path) (.plain type)
  /-- A generated factory has one implementation. -/
  | generated {p} : p ∈ s.inOrder → Implements catalog s (.generated p.name) (.plain p.value)

theorem type_child (p : Plan) (field : String) (receiver : Receiver) :
    (p.child field receiver).type = .generated p.name := by
  unfold Plan.child
  split <;> rfl

/-- What is planned as a product or sum has no primitive's name. -/
theorem ofTypeName?_of_mirrored {catalog : Catalog} {memo : List (String × Classification)}
    (h : Survey.Mirrored catalog memo) {n : String} {k : Classification}
    (hk : memo.lookup n = some k) (hc : k.isComposite) : Primitive.ofTypeName? n = none := by
  obtain ⟨standing, d, -, rfl, hmirrors⟩ := h n k hk
  cases k with
  | product style members =>
    obtain ⟨ms, hshape, -⟩ := hmirrors
    exact (Survey.descriptor_of_shape_product hshape).1
  | sum variants =>
    obtain ⟨vs, hshape, -⟩ := hmirrors
    exact (Survey.descriptor_of_shape_sum hshape).1
  | primitive | enumeration | singleton | external | unsupported => cases hc

/-! ## Children -/

/-- What a member is said to be is what the type that its type's name means was found to be. -/
structure Known (catalog : Catalog) (s : Planning) (m : ResolvedMember Classification) : Prop where
  declared : ∃ d, catalog.get? m.type = some d
  memoized : s.survey.memoized m.type = some m.classification

theorem Known.primitive {catalog : Catalog} (named : catalog.NamesPrimitives)
    (hs : Answered catalog c requests s) {m : ResolvedMember Classification}
    (hm : Known catalog s m) {kind : Primitive} (hk : m.classification = .primitive kind) :
    m.type = kind.typeName :=
  hs.mirrored.primitive named (hk ▸ hm.memoized)

/-- A type with an external factory was declared with it. -/
theorem Known.external (distinct : (variantNames ds).Nodup)
    (hs : Answered (.ofList ds) c requests s)
    {m : ResolvedMember Classification} (hm : Known (.ofList ds) s m) {path : String}
    (hk : m.classification = .external path) :
    (Catalog.ofList ds).get? m.type = some (.external m.type path) := by
  obtain ⟨standing, d, hd, hname, hmirrors⟩ := hs.mirrored _ _ hm.memoized
  rw [hk] at hmirrors
  obtain ⟨hprim, hexternal⟩ := Survey.descriptor_of_shape_external hmirrors
  obtain ⟨e, he⟩ := hm.declared
  have hename : e.name = d.name := (Catalog.get?_ofList_name he).trans hname.symm
  -- What has the name in the catalog is what was classified.
  obtain ⟨-, rfl⟩ := (Placed.of_get? he).unique distinct hd hename (hename ▸ hprim)
  rw [he, hexternal, hname]

/-- The plan of a type that stands in the catalog edits the values of this type. -/
theorem Answered.value_eq (distinct : (variantNames ds).Nodup)
    (hs : Answered (.ofList ds) c requests s) {key value : String} {q : Plan}
    (hq : s.plans.lookup key = some q) (hedits : Edits (.ofList ds) key value) :
    q.value = value := by
  obtain ⟨-, hedits', k, hk, hmade⟩ := hs.made key q hq
  exact hedits'.unique distinct hedits (ofTypeName?_of_mirrored hs.mirrored hk hmade.isComposite)

theorem Answered.implements_child {catalog : Catalog} (hs : Answered catalog c requests s)
    {key : String} {q : Plan} (hq : s.plans.lookup key = some q) (field : String)
    (receiver : Receiver) :
    Implements catalog s (q.child field receiver).type (.plain q.value) := by
  rw [type_child]
  refine .generated (hs.between.mem_inOrder.2 ?_)
  rwa [(hs.made key q hq).1]

theorem BaseOf.implements (distinct : (variantNames ds).Nodup)
    (named : (Catalog.ofList ds).NamesPrimitives)
    (hs : Answered (.ofList ds) c requests s) {receiver : Receiver}
    {m : ResolvedMember Classification} {child : ChildFactory}
    (hm : m.wrapper = none → m.classification.isSupported → Known (.ofList ds) s m)
    (h : BaseOf c s receiver m child) : Implements (.ofList ds) s child.type (.plain m.type) := by
  cases h with
  | wrapper hw => exact .transform .leaf
  | leaf hw hk =>
    rw [(hm hw (by rw [hk]; rfl)).primitive named hs hk]
    exact .leaf
  | choice hw hk => exact .choice
  | fixed hw hk => exact .fixed
  | external hw hk => exact .external ((hm hw (by rw [hk]; rfl)).external distinct hs hk)
  | planned hw hc hq =>
    obtain ⟨d, hd⟩ := (hm hw (isSupported_of_isComposite hc)).declared
    rw [← hs.value_eq distinct hq (edits_of_get? hd)]
    exact hs.implements_child hq _ _
  | obligation hw hk htolerant => exact .shared

/-- The factory of a member makes fields for what the member holds. -/
theorem ChildOf.implements (distinct : (variantNames ds).Nodup)
    (named : (Catalog.ofList ds).NamesPrimitives)
    (hs : Answered (.ofList ds) c requests s) {receiver : Receiver}
    {m : ResolvedMember Classification} {child : ChildFactory}
    (hm : m.wrapper = none → m.classification.isSupported → Known (.ofList ds) s m)
    (h : ChildOf c s receiver m child) : Implements (.ofList ds) s child.type m.value := by
  obtain ⟨base, hbase, rfl⟩ := h
  have himplements := hbase.implements distinct named hs hm
  unfold lift ResolvedMember.value
  split
  · exact .optional himplements
  · exact himplements

/-- The members of a product that was found are known. -/
theorem Answered.known (hs : Answered (.ofList ds) c requests s) {n : String}
    {style : ConstructorStyle} {members : List (ResolvedMember Classification)}
    (hk : s.survey.memoized n = some (.product style members)) :
    ∀ m ∈ members, m.wrapper = none → m.classification.isSupported → Known (.ofList ds) s m := by
  obtain ⟨standing, d, -, -, ms, -, mirrors⟩ := hs.mirrored n _ hk
  intro m hm hw hsupported
  obtain ⟨member, -, hmember⟩ := exists_left_of_forall₂ mirrors hm
  have part : (m.type, m.classification) ∈ (Classification.product style members).parts :=
    Classification.mem_parts_product.2 ⟨m, hm, hw, rfl⟩
  exact ⟨hmember.type_eq ▸ hmember.known hw hsupported,
    (hs.between.grounded.part hk part hsupported).1⟩

/-- The factory of a variant makes fields for values of the sum. -/
theorem VariantOf.implements (distinct : (variantNames ds).Nodup)
    (hs : Answered (.ofList ds) c requests s) {n : String}
    {variants : List (ResolvedVariant Classification)}
    (hk : s.survey.memoized n = some (.sum variants)) {v : ResolvedVariant Classification}
    (hv : v ∈ variants) {planned : VariantPlan} (h : VariantOf s v planned) :
    Implements (.ofList ds) s planned.factory.type (.plain n) := by
  have hedits := edits_variants_of_memoized hs.mirrored hk v hv
  cases h with
  | valueless => exact .fixed
  | marker => exact .fixed
  | product hq =>
    rw [← hs.value_eq distinct hq hedits]
    exact hs.implements_child hq _ _

/-! ## All that is generated -/

/-- Every factory that generated code uses makes fields for the values that it is used for. -/
structure Fits (catalog : Catalog) (s : Planning) : Prop where
  members : ∀ p ∈ s.inOrder, ∀ constructor style members standing,
    p.body = .product constructor style members standing →
      ∀ m ∈ members, Implements catalog s m.factory.type m.value
  variants : ∀ p ∈ s.inOrder, ∀ variants, p.body = .sum variants →
    ∀ v ∈ variants, Implements catalog s v.factory.type (.plain p.value)
  entries : ∀ e ∈ s.entries, Implements catalog s e.factory.type e.value

theorem Answered.fits (distinct : (variantNames ds).Nodup)
    (named : (Catalog.ofList ds).NamesPrimitives)
    (hs : Answered (.ofList ds) c requests s) : Fits (.ofList ds) s where
  members p hp constructor style members standing hbody m hm := by
    obtain ⟨-, -, k, hk, hmade⟩ := hs.made _ p (hs.between.mem_inOrder.1 hp)
    cases hmade with
    | product hbody' hmembers _ =>
      rw [hbody', PlanBody.product.injEq] at hbody
      obtain ⟨-, -, rfl, -⟩ := hbody
      obtain ⟨r, hr, child, hchild, rfl⟩ := exists_left_of_forall₂ hmembers hm
      exact hchild.implements distinct named hs (hs.known hk r hr)
    | sum hbody' => rw [hbody'] at hbody; cases hbody
  variants p hp variants hbody v hv := by
    obtain ⟨-, -, k, hk, hmade⟩ := hs.made _ p (hs.between.mem_inOrder.1 hp)
    cases hmade with
    | product hbody' => rw [hbody'] at hbody; cases hbody
    | sum hbody' hvariants hvalue _ =>
      rw [hbody', PlanBody.sum.injEq] at hbody
      subst hbody
      obtain ⟨r, hr, hvariant⟩ := exists_left_of_forall₂ hvariants hv
      rw [hvalue]
      exact hvariant.implements distinct hs hk hr
  entries e he := by
    obtain ⟨r, -, -, m, hm, hvalue, hchild⟩ := exists_left_of_forall₂ hs.entries he
    rw [hvalue]
    refine hchild.implements distinct named hs fun hw _ => ?_
    exact ⟨hm.type_eq ▸ hm.declared, hm.type_eq ▸ hm.memoized hw⟩

/-- Where names differ and types of primitive kind bear their primitives' names, every factory that
generated code uses for a member, for a variant or in an entry point makes fields for the values
that it is used for. -/
theorem generate_fits (distinct : (variantNames ds).Nodup)
    (named : (Catalog.ofList ds).NamesPrimitives) {text : String}
    (h : (Catalog.ofList ds).generate c requests = .ok text) :
    ∃ s, planRequests c (.ofList ds) requests .fresh = .ok s ∧ text = s.source c ∧
      Fits (.ofList ds) s := by
  obtain ⟨s, hs, htext, answered⟩ := generate_answered h
  exact ⟨s, hs, htext, answered.fits distinct named⟩

/-- The factories for a scene fit, among them one that the caller supplies. -/
theorem generate_fits_studio :
    (variantNames studio).Nodup ∧ (Catalog.ofList studio).NamesPrimitives ∧
      ∃ text, (Catalog.ofList studio).generate tolerantly studioRequests = .ok text ∧
        ∃ s, planRequests tolerantly (.ofList studio) studioRequests .fresh = .ok s ∧
          text = s.source tolerantly ∧ Fits (.ofList studio) s := by
  have distinct : (variantNames studio).Nodup := by decide
  have named : (Catalog.ofList studio).NamesPrimitives :=
    Catalog.namesPrimitives_ofList (by simp [studio, placesOf, Descriptor.places])
  obtain ⟨text, h⟩ := exists_generate_studio
  exact ⟨distinct, named, text, h, generate_fits distinct named h⟩

end Planning

end EditableFields
