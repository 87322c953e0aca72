import EditableFields.Proofs.Planning.Fit

/-!
# Planning: the names that plans are made with

Whatever is planned, its names come from the catalog, where a type or a variant at some depth is
written with them (`Catalog.Spells`). What a member was found to be names nothing else
(`SpelledMember`), and neither do the plans of products and sums (`Answered.spells_members`,
`Answered.spells_variants`) or the subjects of requests (`Subject.spelled`).
-/

namespace EditableFields

theorem Survey.descriptor_of_shape_enumeration {standing : Standing} {d : Descriptor}
    {entries : List String} (h : d.shape standing = .enumeration entries) :
    ∃ name, d = .enumeration name entries := by
  unfold Descriptor.shape at h
  split at h
  · cases h
  · cases d with
    | enumeration name entries' =>
      simp only at h
      split_ifs at h
      cases h
      exact ⟨name, rfl⟩
    | product => simp only [productShape] at h; split_ifs at h
    | sum => simp only [sumShape] at h; split_ifs at h
    | primitive | singleton | sealed | external => cases h

/-! ## Whose values are edited -/

mutual

/-- The values of a type and its variants are of that type, or of a type that stands within. -/
theorem Descriptor.spells_values {catalog : Catalog} {standing : Standing} {value : String} :
    ∀ d : Descriptor, Placed catalog standing d → ∀ p ∈ d.values value,
      p.2 = value ∨ catalog.Spells p.2
  | .sum name variants companion, hd, p, hp => by
    rw [Descriptor.values, List.mem_cons] at hp
    rcases hp with rfl | hp
    · exact .inl rfl
    · refine .inr ?_
      rcases spells_variantValues variants (fun v hv => .variant hd hv) p hp with h | h
      · rw [h]
        exact hd.spells_name
      · exact h
  | .primitive _, _, p, hp | .enumeration .., _, p, hp | .singleton .., _, p, hp
  | .product .., _, p, hp | .sealed _, _, p, hp | .external .., _, p, hp => by
    rw [Descriptor.values, List.mem_singleton] at hp
    exact .inl (congrArg Prod.snd hp)

theorem spells_variantValues {catalog : Catalog} {value : String} : ∀ ds : List Descriptor,
    (∀ d ∈ ds, Placed catalog .variant d) → ∀ p ∈ variantValues value ds,
      p.2 = value ∨ catalog.Spells p.2
  | [], _, p, hp => by simp [variantValues] at hp
  | d :: ds, hds, p, hp => by
    obtain ⟨hd, hds⟩ := List.forall_mem_cons.1 hds
    rw [variantValues, List.mem_append] at hp
    exact hp.elim (Descriptor.spells_values d hd p) (spells_variantValues ds hds p)

end

theorem Edits.spells {catalog : Catalog} {key value : String} (h : Edits catalog key value) :
    catalog.Spells value := by
  obtain ⟨d, hd, hp⟩ := List.mem_flatMap.1 h
  rcases d.spells_values (.type hd) _ hp with h | h
  · have hvalue : value = d.name := h
    exact hvalue ▸ (Placed.type hd).spells_name
  · exact h

namespace Planning

variable {ds : List Descriptor} {c : Configuration} {s : Planning} {requests : List Request}

/-! ## What is found of members and variants -/

/-- What a member's type was found to be names what the catalog does. -/
structure SpelledMember (catalog : Catalog) (m : ResolvedMember Classification) : Prop where
  type : catalog.Spells m.type
  wrapped : ∀ w, m.wrapper = some w → catalog.Spells w.member
  entry : ∀ entries, m.wrapper = none → m.classification = .enumeration entries →
    ∀ e ∈ entries, catalog.Spells e
  factory : ∀ path, m.wrapper = none → m.classification = .external path → catalog.Spells path

theorem Answered.spelledMember (hs : Answered (.ofList ds) c requests s)
    {m : ResolvedMember Classification} (htype : (Catalog.ofList ds).Spells m.type)
    (hw : ∀ w, m.wrapper = some w →
      ((Catalog.ofList ds).get? m.type).bind Descriptor.valueWrapper? = some w)
    (hk : m.wrapper = none → m.classification.isSupported →
      s.survey.memoized m.type = some m.classification) : SpelledMember (.ofList ds) m where
  type := htype
  wrapped w h := by
    obtain ⟨d, hd, hwrapped⟩ := Option.bind_eq_some_iff.1 (hw w h)
    exact (Placed.of_get? hd).spells_wrapped hwrapped
  entry entries h heq e he := by
    obtain ⟨standing, d, hd, -, hshape⟩ := hs.mirrored _ _ (hk h (by rw [heq]; rfl))
    rw [heq] at hshape
    obtain ⟨name, rfl⟩ := Survey.descriptor_of_shape_enumeration hshape
    exact hd.spells_entry he
  factory path h heq := by
    obtain ⟨standing, d, hd, -, hshape⟩ := hs.mirrored _ _ (hk h (by rw [heq]; rfl))
    rw [heq] at hshape
    rw [(Survey.descriptor_of_shape_external hshape).2] at hd
    exact hd.spells_factory

/-- The members of a product that was found are those of a product of the catalog. -/
theorem Answered.spells_members (hs : Answered (.ofList ds) c requests s) {n : String}
    {style : ConstructorStyle} {members : List (ResolvedMember Classification)}
    (hk : s.survey.memoized n = some (.product style members)) :
    ∀ m ∈ members, (Catalog.ofList ds).Spells m.name ∧ SpelledMember (.ofList ds) m := by
  obtain ⟨standing, d, hd, -, declared, hshape, mirrors⟩ := hs.mirrored n _ hk
  obtain ⟨-, name, content, rfl, rfl, rfl⟩ := Survey.descriptor_of_shape_product hshape
  intro r hr
  obtain ⟨m, hm, hmember⟩ := exists_left_of_forall₂ mirrors hr
  obtain ⟨hname, htype⟩ := hd.spells_member hm
  refine ⟨hmember.name_eq ▸ hname, hs.spelledMember (hmember.type_eq ▸ htype) ?_ ?_⟩
  · intro w hw
    rw [hmember.type_eq, ← hmember.wrapper_eq, hw]
  · exact fun hw hsupported => (hs.known hk r hr hw hsupported).memoized

theorem Subject.spelled (hs : Answered (.ofList ds) c requests s) {r : Request}
    {m : ResolvedMember Classification} (hm : Subject (.ofList ds) s r m) :
    SpelledMember (.ofList ds) m := by
  obtain ⟨d, hd⟩ := hm.declared
  refine hs.spelledMember (hm.type_eq ▸ Catalog.spells_of_get? hd) (fun w hw => ?_) fun hw _ => ?_
  · rw [hm.wrapper_eq, requestWrapper] at hw
    split at hw
    · rw [hm.type_eq, hw]
    · cases hw
  · rw [hm.type_eq]
    exact hm.memoized hw

/-- The variants of a sum that was found are those of a sum of the catalog. -/
theorem Answered.spells_variants (hs : Answered (.ofList ds) c requests s) {n : String}
    {variants : List (ResolvedVariant Classification)}
    (hk : s.survey.memoized n = some (.sum variants)) :
    ∀ v ∈ variants, (Catalog.ofList ds).Spells v.type ∧ v.name = Name.simple v.type := by
  obtain ⟨standing, d, hd, -, declared, hshape, mirrors⟩ := hs.mirrored n _ hk
  obtain ⟨-, name, companion, rfl⟩ := Survey.descriptor_of_shape_sum hshape
  intro r hr
  obtain ⟨v, hv, hname, htype⟩ := exists_left_of_forall₂ mirrors hr
  rw [htype, hname]
  exact ⟨(Placed.variant hd hv).spells_name, rfl⟩

/-- The key of a plan and the type of its values are names of the catalog. -/
theorem Answered.spells_plan (hs : Answered (.ofList ds) c requests s) {p : Plan}
    (hp : p ∈ s.inOrder) :
    (Catalog.ofList ds).Spells p.key ∧ (Catalog.ofList ds).Spells p.value := by
  obtain ⟨-, hedits, k, hk, -⟩ := hs.made _ p (hs.between.mem_inOrder.1 hp)
  obtain ⟨standing, d, hd, hname, -⟩ := hs.mirrored _ _ hk
  exact ⟨hname ▸ hd.spells_name, hedits.spells⟩

end Planning

end EditableFields
