import EditableFields.Proofs.Planning.Made

/-!
# Planning: plans are made of classifications

The planner makes every plan of what its key was found to be (`planType_made`), and one entry point
for each request, for its subject as a member would be edited (`EntryOf`). `generate_made` sums it
up for all that is generated.
-/

namespace EditableFields

namespace Planning

variable {ds : List Descriptor} {c : Configuration} {opens : List String} {s t u : Planning}
  {k : Classification}

/-! ## While plans are under way -/

/-- What holds while the plans of `opens` are under way, with what plans are made of. -/
structure Underway (catalog : Catalog) (c : Configuration) (opens : List String) (s : Planning) :
    Prop where
  grounded : Survey.Grounded s.survey.memo
  mirrored : Survey.Mirrored catalog s.survey.memo
  sound : Sound c opens s
  made : AllMade catalog c s

theorem Underway.outcome {catalog : Catalog} {order : List String}
    (h : Underway catalog c opens s) (ho : Outcome c opens s t order)
    (hm : AllMade catalog c t) : Underway catalog c opens t :=
  ⟨ho.grown.survey ▸ h.grounded, ho.grown.survey ▸ h.mirrored, ho.sound, hm⟩

theorem Underway.alike {catalog : Catalog} (h : Underway catalog c opens s) (ha : Alike s t) :
    Underway catalog c opens t :=
  ⟨ha.survey ▸ h.grounded, ha.survey ▸ h.mirrored, h.sound.keep ha.kept ha.order ha.plans,
    h.made.keep ha.kept ha.plans⟩

theorem Underway.start {catalog : Catalog} {name key : String} (h : Underway catalog c opens s)
    (hb : Below s opens key k) (hnew : ¬ s.Planned key) (hstart : s.start name key = .ok t) :
    Underway catalog c (key :: opens) t ∧ PartsBelow t (key :: opens) k := by
  obtain ⟨hgrown, -, hplans, -⟩ := start_ok hstart
  obtain ⟨hg, hs, hparts⟩ := hb.start h.grounded h.sound hnew hstart
  exact ⟨⟨hg, hgrown.survey ▸ h.mirrored, hs, h.made.keep hgrown.kept hplans⟩, hparts⟩

/-- Members whose types need plans are of types that edit their own values. -/
def OwnTypes (catalog : Catalog) (members : List (ResolvedMember Classification)) : Prop :=
  ∀ m ∈ members, m.wrapper = none → m.classification.isComposite → Edits catalog m.type m.type

theorem ownTypes_of_memoized {memo : List (String × Classification)}
    (h : Survey.Mirrored (.ofList ds) memo) {n : String} {style : ConstructorStyle}
    {members : List (ResolvedMember Classification)}
    (hk : memo.lookup n = some (.product style members)) : OwnTypes (.ofList ds) members := by
  obtain ⟨standing, d, -, -, ms, -, mirrors⟩ := h n _ hk
  intro r hr hw hc
  obtain ⟨m, -, hm⟩ := exists_left_of_forall₂ mirrors hr
  obtain ⟨e, he⟩ := hm.known hw (isSupported_of_isComposite hc)
  rw [hm.type_eq]
  exact edits_of_get? he

theorem edits_variants_of_memoized {catalog : Catalog} {memo : List (String × Classification)}
    (h : Survey.Mirrored catalog memo) {n : String}
    {variants : List (ResolvedVariant Classification)}
    (hk : memo.lookup n = some (.sum variants)) : ∀ v ∈ variants, Edits catalog v.type n := by
  obtain ⟨standing, d, hd, rfl, vs, hshape, mirrors⟩ := h n _ hk
  obtain ⟨-, name, companion, rfl⟩ := Survey.descriptor_of_shape_sum hshape
  intro r hr
  obtain ⟨v, hv, -, htype⟩ := exists_left_of_forall₂ mirrors hr
  rw [htype]
  exact hd.edits_variant hv

/-- A plan whose children were planned is finished. -/
theorem AllMade.finish_filled {catalog : Catalog} {order : List String} {p : Plan}
    (hall : AllMade catalog c u)
    (hfill : Filled c (p.key :: opens) t u order k p.body.children p.held)
    (hedits : Edits catalog p.key p.value) (hmemo : t.survey.memoized p.key = some k)
    (hmade : Made c u p k) : AllMade catalog c (u.finish p).2 :=
  hall.finish (hfill.sound.opens_unplanned _ List.mem_cons_self) hedits
    (hfill.grown.kept.memoized hmemo) hmade

/-- Planning a product variant makes its plan, if planning its members makes theirs. -/
theorem planVariant_made {owner type : String} {style : ConstructorStyle}
    {members : List (ResolvedMember Classification)} {p : Plan}
    (hu : Underway (.ofList ds) c opens s) (hb : Below s opens type (.product style members))
    (he : Edits (.ofList ds) type owner)
    (h : planVariant c owner type style members s = .ok (p, t))
    (planned : ∀ {s u : Planning} {name : String} {ps : List MemberPlan}
      {held : List HeldFactory}, Underway (.ofList ds) c (type :: opens) s →
      PartsBelow s (type :: opens) (.product style members) → OwnTypes (.ofList ds) members →
      planMembers c type name members [] s = .ok (ps, held, u) →
      AllMade (.ofList ds) c u ∧ List.Forall₂ (MemberOf c u) members ps ∧
        (ps.map (·.factory)).foldlM (hold c name) [] = .ok held) :
    AllMade (.ofList ds) c t := by
  unfold planVariant at h
  cases hnew : s.plans.lookup type with
  | some q =>
    simp only [hnew] at h
    cases h
    exact hu.made
  | none =>
    have hnew' : ¬ s.Planned type := by simp [Planned, hnew]
    simp only [hnew] at h
    obtain ⟨s₁, hstart, h⟩ := bind_eq_ok.1 h
    obtain ⟨⟨ms, held, u⟩, hmembers, h⟩ := bind_eq_ok.1 h
    cases h
    obtain ⟨hu₁, hb₁⟩ := hu.start hb hnew' hstart
    have hmemo := (start_ok hstart).1.kept.memoized hb.memoized
    have hfill := planMembers_outcome style members hu₁.grounded hu₁.sound hb₁ (by simp) hmembers
    obtain ⟨hall, hmade, hheld⟩ :=
      planned hu₁ hb₁ (ownTypes_of_memoized hu₁.mirrored hmemo) hmembers
    exact hall.finish_filled (p := ⟨type, _, owner, .product type style ms .variant, held⟩)
      hfill he hmemo (.product rfl hmade hheld)

/-! ## The whole classification -/

-- Along the recursion of the planner, as for what the planner goes through. That a plan found for
-- a child is still there at the end is known from there.
mutual

/-- Planning a type makes plans of what it and its parts were found to be. -/
theorem planType_made {opens : List String} {s t : Planning} {type : String} {p : Plan} :
    ∀ k : Classification, Underway (.ofList ds) c opens s → Below s opens type k →
      Edits (.ofList ds) type type → planType c type k s = .ok (p, t) →
      AllMade (.ofList ds) c t
  | k, hu, hb, he, h => by
    unfold planType at h
    cases hnew : s.plans.lookup type with
    | some q =>
      simp only [hnew] at h
      cases h
      exact hu.made
    | none =>
      have hnew' : ¬ s.Planned type := by simp [Planned, hnew]
      simp only [hnew] at h
      cases k with
      | product style members =>
        obtain ⟨s₁, hstart, h⟩ := bind_eq_ok.1 h
        obtain ⟨⟨ms, held, u⟩, hmembers, h⟩ := bind_eq_ok.1 h
        cases h
        obtain ⟨hu₁, hb₁⟩ := hu.start hb hnew' hstart
        have hmemo := (start_ok hstart).1.kept.memoized hb.memoized
        have hfill := planMembers_outcome style members hu₁.grounded hu₁.sound hb₁ (by simp)
          hmembers
        obtain ⟨hall, hmade, hheld⟩ := planMembers_made style members hu₁ hb₁
          (ownTypes_of_memoized hu₁.mirrored hmemo) (by simp) hmembers
        exact hall.finish_filled (p := ⟨type, _, type, .product type style ms .topLevel, held⟩)
          hfill he hmemo (.product rfl hmade hheld)
      | sum variants =>
        obtain ⟨s₁, hstart, h⟩ := bind_eq_ok.1 h
        obtain ⟨⟨vs, held, u⟩, hvariants, h⟩ := bind_eq_ok.1 h
        cases h
        obtain ⟨hu₁, hb₁⟩ := hu.start hb hnew' hstart
        have hmemo := (start_ok hstart).1.kept.memoized hb.memoized
        have hfill := planVariants_outcome variants hu₁.grounded hu₁.sound hb₁ (by simp) hvariants
        obtain ⟨hall, hmade, hheld⟩ := planVariants_made variants hu₁ hb₁
          (edits_variants_of_memoized hu₁.mirrored hmemo) (by simp) hvariants
        exact hall.finish_filled (p := ⟨type, _, type, .sum vs, held⟩)
          hfill he hmemo (.sum rfl hmade rfl hheld)
      | primitive | enumeration | singleton | external | unsupported => cases h

/-- Planning a member makes the plan that its factory is given by. -/
theorem memberFactory_made {opens : List String} {s t : Planning} {owner : String}
    {receiver : Receiver} {factory : ChildFactory} (style : ConstructorStyle) :
    ∀ m : ResolvedMember Classification, Underway (.ofList ds) c opens s →
      PartsBelow s opens (.product style [m]) → OwnTypes (.ofList ds) [m] →
      memberFactory c owner receiver m s = .ok (factory, t) →
      AllMade (.ofList ds) c t ∧ ChildOf c t receiver m factory
  | ⟨name, type, nullable, wrapper, k⟩, hu, hb, he, h => by
    rw [memberFactory_eq] at h
    obtain ⟨⟨base, s₁⟩, hbase, h⟩ := bind_eq_ok.1 h
    have made : AllMade (.ofList ds) c s₁ ∧
        BaseOf c s₁ receiver ⟨name, type, nullable, wrapper, k⟩ base := by
      cases wrapper with
      | some w =>
        cases hbase
        exact ⟨hu.made, .wrapper rfl⟩
      | none =>
        cases k with
        | product | sum =>
          obtain ⟨⟨p, s₂⟩, hplan, hret⟩ := bind_eq_ok.1 hbase
          cases hret
          have hbelow := hb _ (Classification.mem_parts_product.2
            ⟨_, List.mem_singleton_self _, rfl, rfl⟩) rfl
          have hp := (planType_outcome _ hu.grounded hu.sound hbelow hplan).2
          have hedits := he _ (List.mem_singleton_self _) rfl rfl
          exact ⟨planType_made _ hu hbelow hedits hplan, .planned rfl rfl hp⟩
        | unsupported reason =>
          obtain ⟨f, hf, hret⟩ := bind_eq_ok.1 hbase
          cases hret
          unfold obligation at hf
          split at hf
          · rename_i htolerant
            cases hf
            exact ⟨hu.made, .obligation rfl rfl htolerant⟩
          · cases hf
        | primitive kind =>
          cases hbase
          exact ⟨hu.made, .leaf rfl rfl⟩
        | enumeration entries =>
          cases hbase
          exact ⟨hu.made, .choice rfl rfl⟩
        | singleton valueless =>
          cases hbase
          exact ⟨hu.made, .fixed rfl rfl⟩
        | external path =>
          cases hbase
          exact ⟨hu.made, .external rfl rfl⟩
    dsimp only at h
    split at h
    · rename_i hn
      cases h
      exact ⟨made.1, base, made.2, by simp [lift, hn]⟩
    · rename_i hn
      cases h
      exact ⟨made.1, factory, made.2, by simp [lift, hn]⟩

/-- Planning members makes the plans that their factories are given by. -/
theorem planMembers_made {opens : List String} {s t : Planning} {owner name : String}
    {ps : List MemberPlan} {held held' : List HeldFactory} (style : ConstructorStyle) :
    ∀ members : List (ResolvedMember Classification), Underway (.ofList ds) c opens s →
      PartsBelow s opens (.product style members) → OwnTypes (.ofList ds) members →
      (∀ h ∈ held, ∀ n ∈ h.type.generatedNames, s.Named n) →
      planMembers c owner name members held s = .ok (ps, held', t) →
      AllMade (.ofList ds) c t ∧ List.Forall₂ (MemberOf c t) members ps ∧
        (ps.map (·.factory)).foldlM (hold c name) held = .ok held'
  | [], hu, hb, he, hheld, h => by
    unfold planMembers at h
    cases h
    exact ⟨hu.made, .nil, rfl⟩
  | m :: ms, hu, hb, he, hheld, h => by
    unfold planMembers at h
    obtain ⟨⟨factory, s₁⟩, hfactory, h⟩ := bind_eq_ok.1 h
    obtain ⟨held₁, hhold, h⟩ := bind_eq_ok.1 h
    obtain ⟨⟨ps, held₂, s₂⟩, hrest, h⟩ := bind_eq_ok.1 h
    cases h
    obtain ⟨hbm, hbms⟩ := hb.split (parts_product_cons style m ms)
    obtain ⟨hem, hems⟩ := List.forall_mem_cons.1 he
    have first := memberFactory_outcome style m hu.grounded hu.sound hbm hfactory
    obtain ⟨hall, hchild⟩ :=
      memberFactory_made style m hu hbm (List.forall_mem_singleton.2 hem) hfactory
    have hu₁ := hu.outcome first.toOutcome hall
    have hbms₁ := hbms.grow first.grown
    have hheld₁ := first.hold hhold hheld
    have rest := planMembers_outcome style ms hu₁.grounded hu₁.sound hbms₁ hheld₁ hrest
    obtain ⟨hall', hmade, hfold⟩ := planMembers_made style ms hu₁ hbms₁ hems hheld₁ hrest
    refine ⟨hall', .cons ⟨factory, hchild.keep rest.grown.kept, rfl⟩ hmade, ?_⟩
    exact bind_eq_ok.2 ⟨held₁, hhold, hfold⟩

/-- Planning variants makes the plans that their factories are given by. -/
theorem planVariants_made {opens : List String} {s t : Planning} {owner name : String}
    {ps : List VariantPlan} {held held' : List HeldFactory} :
    ∀ variants : List (ResolvedVariant Classification), Underway (.ofList ds) c opens s →
      PartsBelow s opens (.sum variants) → (∀ v ∈ variants, Edits (.ofList ds) v.type owner) →
      (∀ h ∈ held, ∀ n ∈ h.type.generatedNames, s.Named n) →
      planVariants c owner name variants held s = .ok (ps, held', t) →
      AllMade (.ofList ds) c t ∧ List.Forall₂ (VariantOf t) variants ps ∧
        (ps.map (·.factory)).foldlM (hold c name) held = .ok held'
  | [], hu, hb, he, hheld, h => by
    unfold planVariants at h
    cases h
    exact ⟨hu.made, .nil, rfl⟩
  | ⟨tag, type, .singleton valueless⟩ :: vs, hu, hb, he, hheld, h => by
    unfold planVariants at h
    obtain ⟨⟨ps, held₁, s₁⟩, hrest, h⟩ := bind_eq_ok.1 h
    cases h
    have hbvs := (hb.split (parts_sum_cons ⟨tag, type, .singleton valueless⟩ vs)).2
    obtain ⟨hall, hmade, hfold⟩ :=
      planVariants_made vs hu hbvs (List.forall_mem_cons.1 he).2 hheld hrest
    cases valueless with
    | true => exact ⟨hall, .cons .valueless hmade, hfold⟩
    | false => exact ⟨hall, .cons .marker hmade, hfold⟩
  | ⟨tag, type, .product style members⟩ :: vs, hu, hb, he, hheld, h => by
    rw [planVariants_product] at h
    obtain ⟨⟨p, s₁⟩, hplan, h⟩ := bind_eq_ok.1 h
    obtain ⟨held₁, hhold, h⟩ := bind_eq_ok.1 h
    obtain ⟨⟨ps, held₂, s₂⟩, hrest, h⟩ := bind_eq_ok.1 h
    cases h
    obtain ⟨hbv, hbvs⟩ := hb.split (parts_sum_cons ⟨tag, type, .product style members⟩ vs)
    obtain ⟨hev, hevs⟩ := List.forall_mem_cons.1 he
    have hbelow := hbv _ (Classification.mem_parts_sum.2 ⟨_, List.mem_cons_self, rfl⟩) rfl
    obtain ⟨hout, hp⟩ := planVariant_outcome hu.grounded hu.sound hbelow hplan
      fun hg₁ hs₁ hb₁ => planMembers_outcome style members hg₁ hs₁ hb₁ (by simp)
    have hall := planVariant_made hu hbelow hev hplan fun hu₁ hb₁ htypes =>
      planMembers_made style members hu₁ hb₁ htypes (by simp)
    have hu₁ := hu.outcome hout hall
    have hbvs₁ := hbvs.grow hout.grown
    have hfill : Filled c opens s s₁ _ (.sum [⟨tag, type, .product style members⟩])
        [p.child (Name.snake tag) .own] [] := hout.filled hp rfl rfl _ _
    have hheld₁ := hfill.hold hhold hheld
    have rest := planVariants_outcome vs hu₁.grounded hu₁.sound hbvs₁ hheld₁ hrest
    obtain ⟨hall', hmade, hfold⟩ := planVariants_made vs hu₁ hbvs₁ hevs hheld₁ hrest
    refine ⟨hall', .cons (.product (rest.grown.plans hp)) hmade, ?_⟩
    exact bind_eq_ok.2 ⟨held₁, hhold, hfold⟩
  | ⟨tag, type, .primitive _⟩ :: vs, hu, hb, he, hheld, h
  | ⟨tag, type, .enumeration _⟩ :: vs, hu, hb, he, hheld, h
  | ⟨tag, type, .sum _⟩ :: vs, hu, hb, he, hheld, h
  | ⟨tag, type, .external _⟩ :: vs, hu, hb, he, hheld, h
  | ⟨tag, type, .unsupported _⟩ :: vs, hu, hb, he, hheld, h => by
    unfold planVariants at h
    cases h

end

/-! ## Requests -/

/-- The wrapper that a request is answered by, if it is one: a field of a value wrapper edits the
primitive in it, whereas a factory is for the members of its subject. -/
def requestWrapper (catalog : Catalog) (r : Request) : Option ValueWrapper :=
  if r.directive = .field then (catalog.get? r.type).bind Descriptor.valueWrapper? else none

/-- The subject of a request, seen as a member that is edited. -/
structure Subject (catalog : Catalog) (s : Planning) (r : Request)
    (m : ResolvedMember Classification) : Prop where
  type_eq : m.type = r.type
  wrapper_eq : m.wrapper = requestWrapper catalog r
  supported : m.classification.isSupported
  memoized : m.wrapper = none → s.survey.memoized r.type = some m.classification
  declared : ∃ d, catalog.get? r.type = some d

theorem Subject.keep {catalog : Catalog} {r : Request} {m : ResolvedMember Classification}
    (h : Subject catalog s r m) (hk : Kept s t) : Subject catalog t r m :=
  ⟨h.type_eq, h.wrapper_eq, h.supported, fun hw => hk.memoized (h.memoized hw), h.declared⟩

/-- The entry point of a request. -/
structure EntryOf (catalog : Catalog) (c : Configuration) (s : Planning) (r : Request)
    (e : Entry) : Prop where
  subject_eq : e.subject = r.type
  child : ∃ m, Subject catalog s r m ∧ e.value = m.value ∧ ChildOf c s .parameter m e.factory

theorem EntryOf.keep {catalog : Catalog} {r : Request} {e : Entry}
    (h : EntryOf catalog c s r e) (hk : Kept s t) : EntryOf catalog c t r e := by
  obtain ⟨hsubject, m, hm, hvalue, hchild⟩ := h
  exact ⟨hsubject, m, hm.keep hk, hvalue, hchild.keep hk⟩

/-- What is planned when requests were answered. -/
structure Answered (catalog : Catalog) (c : Configuration) (requests : List Request)
    (s : Planning) : Prop where
  between : Between c s
  mirrored : Survey.Mirrored catalog s.survey.memo
  made : AllMade catalog c s
  entries : List.Forall₂ (EntryOf catalog c s) requests s.entries

theorem answered_fresh (catalog : Catalog) (c : Configuration) :
    Answered catalog c [] fresh where
  between := between_fresh c
  mirrored := Survey.mirrored_nil
  made key p h := by simp [fresh] at h
  entries := .nil

theorem Made.isComposite {p : Plan} (h : Made c s p k) : k.isComposite := by
  cases h with
  | product => rfl
  | sum => rfl

theorem AllMade.made_of_memoized {catalog : Catalog} (h : AllMade catalog c s) {key : String}
    {p : Plan} (hp : s.plans.lookup key = some p) (hk : s.survey.memoized key = some k) :
    Made c s p k := by
  obtain ⟨-, -, k', hk', hmade⟩ := h key p hp
  rw [hk, Option.some_inj] at hk'
  exact hk' ▸ hmade

theorem Answered.underway {catalog : Catalog} {rs : List Request}
    (h : Answered catalog c rs s) : Underway catalog c [] s :=
  ⟨h.between.grounded, h.mirrored, h.between.sound, h.made⟩

/-- Planning can start from what was found of the subject. -/
theorem Answered.classify {rs : List Request} (h : Answered (.ofList ds) c rs s) {n : String}
    {d : Descriptor} (hget : (Catalog.ofList ds).get? n = some d) :
    Underway (.ofList ds) c [] { s with survey := (s.survey.classify (.ofList ds) d).2 } := by
  obtain ⟨hb, hkept, -⟩ := h.between.classify hget
  exact ⟨hb.grounded, h.between.idle.mirrored_classify h.mirrored (.of_get? hget), hb.sound,
    h.made.keep hkept rfl⟩

/-- With what was planned for it and its entry point, a request is answered. -/
theorem Answered.entry {rs : List Request} {r : Request} {e : Entry}
    (h : Answered (.ofList ds) c rs s) (hb : Between c t) (hk : Kept s t)
    (hmirrored : Survey.Mirrored (.ofList ds) t.survey.memo) (hmade : AllMade (.ofList ds) c t)
    (hentries : t.entries = s.entries ++ [e]) (he : EntryOf (.ofList ds) c t r e) :
    Answered (.ofList ds) c (rs ++ [r]) t := by
  refine ⟨hb, hmirrored, hmade, ?_⟩
  rw [hentries]
  exact List.rel_append (h.entries.imp fun _ _ h => h.keep hk) (.cons he .nil)

theorem planFactory_answered {rs : List Request} {r : Request} {d : Descriptor}
    (ha : Answered (.ofList ds) c rs s) (hget : (Catalog.ofList ds).get? r.type = some d)
    (hr : r.directive = .factory) (h : planFactory c (.ofList ds) r d s = .ok t) :
    Answered (.ofList ds) c (rs ++ [r]) t := by
  have advance := (planFactory_advance ha.between hget h).1
  obtain ⟨hk, p, u, v, e, hplan, hclaim, hfactory, hsubject, hvalue, rfl⟩ := planFactory_ok h
  obtain ⟨hb₁, -, hbelow⟩ := ha.between.classify hget
  have hu := ha.classify hget
  obtain ⟨hout, hp⟩ := planType_outcome _ hb₁.grounded hb₁.sound hbelow hplan
  have hedits : Edits (.ofList ds) r.type r.type := edits_of_get? hget
  have hall := planType_made _ hu hbelow hedits hplan
  obtain ⟨halike, hentries⟩ := claimFunction_ok hclaim
  have halike' := halike.trans (alike_addEntry v e)
  have hu' := hu.outcome hout hall
  refine ha.entry (e := e) advance.between advance.kept ?_ ?_ ?_ ?_
  · rw [halike'.survey]
    exact hu'.mirrored
  · exact hall.keep halike'.kept halike'.plans
  · rw [addEntry, hentries, hout.grown.entries]
  · have hmemo := hout.grown.kept.memoized hbelow.memoized
    have hcomposite := (hall.made_of_memoized hp hmemo).isComposite
    -- The subject is edited like a member that is not optional.
    refine ⟨hsubject, ⟨"", r.type, false, none, _⟩, ⟨rfl, ?_, hk, fun _ => ?_, d, hget⟩, hvalue,
      _, .planned rfl hcomposite (halike'.kept.plans hp), hfactory⟩
    · simp [requestWrapper, hr]
    · exact halike'.kept.memoized hmemo

/-- The subject of a request for a field is planned like a member. -/
theorem Answered.field {rs : List Request} {r : Request} {e : Entry}
    {m : ResolvedMember Classification} (ha : Answered (.ofList ds) c rs s)
    (hb : Between c (u.addEntry e)) (hk : Kept s (u.addEntry e))
    (hu : Underway (.ofList ds) c [] t) (hentries : t.entries = s.entries)
    (hbelow : PartsBelow t [] (.product .named [m])) (hm : Subject (.ofList ds) t r m)
    (hown : OwnTypes (.ofList ds) [m])
    (hchild : memberFactory c r.type .parameter m t = .ok (e.factory, u))
    (hsubject : e.subject = r.type) (hvalue : e.value = m.value) :
    Answered (.ofList ds) c (rs ++ [r]) (u.addEntry e) := by
  have hfill := memberFactory_outcome .named m hu.grounded hu.sound hbelow hchild
  obtain ⟨hall, hof⟩ := memberFactory_made .named m hu hbelow hown hchild
  have hadd := alike_addEntry u e
  refine ha.entry (e := e) hb hk (hu.outcome hfill.toOutcome hall).mirrored
    (hall.keep hadd.kept rfl) ?_ ⟨hsubject, m, ?_, hvalue, hof.keep hadd.kept⟩
  · rw [addEntry, hfill.grown.entries, hentries]
  · exact hm.keep (hfill.grown.kept.trans hadd.kept)

theorem planField_answered {rs : List Request} {r : Request} {d : Descriptor}
    (ha : Answered (.ofList ds) c rs s) (hget : (Catalog.ofList ds).get? r.type = some d)
    (hr : r.directive = .field) (h : planField c (.ofList ds) r d s = .ok t) :
    Answered (.ofList ds) c (rs ++ [r]) t := by
  have hedits : Edits (.ofList ds) r.type r.type := edits_of_get? hget
  have hwrapper : requestWrapper (.ofList ds) r = d.valueWrapper? := by
    simp [requestWrapper, hr, hget]
  cases hw : d.valueWrapper? with
  | some w =>
    have advance := (planField_advance_wrapper ha.between hw h).1
    obtain ⟨hk, s₁, factory, u, e, hclaim, hchild, rfl, hsubject, hvalue, rfl⟩ := planField_ok h
    simp only [subjectOf, hw] at hk hclaim hchild hvalue
    obtain ⟨halike, hentries⟩ := claimFunction_ok hclaim
    refine ha.field advance.between advance.kept (ha.underway.alike halike) hentries ?_
      ⟨rfl, (hwrapper.trans hw).symm, hk, ?_, d, hget⟩ ?_ hchild hsubject hvalue
    · simp [PartsBelow, Classification.parts]
    · simp
    · simp [OwnTypes]
  | none =>
    have advance := (planField_advance ha.between hget hw h).1
    obtain ⟨hk, s₁, factory, u, e, hclaim, hchild, rfl, hsubject, hvalue, rfl⟩ := planField_ok h
    simp only [subjectOf, hw] at hk hclaim hchild hvalue
    obtain ⟨halike, hentries⟩ := claimFunction_ok hclaim
    have hmemo := halike.kept.memoized (ha.between.classify hget).2.2.memoized
    refine ha.field advance.between advance.kept ((ha.classify hget).alike halike) hentries ?_
      ⟨rfl, (hwrapper.trans hw).symm, hk, fun _ => hmemo, d, hget⟩ ?_ hchild hsubject hvalue
    · intro part hp _
      obtain ⟨m, hm, -, rfl⟩ := Classification.mem_parts_product.1 hp
      cases List.mem_singleton.1 hm
      exact ⟨hmemo, by simp⟩
    · exact List.forall_mem_singleton.2 fun _ _ => hedits

theorem planRequest_answered {rs : List Request} {r : Request}
    (ha : Answered (.ofList ds) c rs s) (h : planRequest c (.ofList ds) r s = .ok t) :
    Answered (.ofList ds) c (rs ++ [r]) t := by
  unfold planRequest at h
  cases hget : (Catalog.ofList ds).get? r.type with
  | none => simp [hget] at h
  | some d =>
    simp only [hget] at h
    cases hr : r.directive with
    | factory =>
      simp only [hr] at h
      exact planFactory_answered ha hget hr h
    | field =>
      simp only [hr] at h
      exact planField_answered ha hget hr h

theorem planRequests_answered {before rs : List Request} (ha : Answered (.ofList ds) c before s)
    (h : planRequests c (.ofList ds) rs s = .ok t) :
    Answered (.ofList ds) c (before ++ rs) t := by
  induction rs generalizing before s with
  | nil =>
    cases h
    rwa [List.append_nil]
  | cons r rs ih =>
    obtain ⟨u, hr, hrs⟩ := bind_eq_ok.1 h
    rw [List.append_cons]
    exact ih (planRequest_answered ha hr) hrs

/-- What is generated for requests is made of what their subjects were found to be. -/
theorem generate_answered {requests : List Request} {text : String}
    (h : (Catalog.ofList ds).generate c requests = .ok text) :
    ∃ s, planRequests c (.ofList ds) requests .fresh = .ok s ∧ text = s.source c ∧
      Answered (.ofList ds) c requests s := by
  obtain ⟨s, hs, htext⟩ := bind_eq_ok.1 h
  cases htext
  exact ⟨s, hs, rfl, planRequests_answered (answered_fresh _ c) hs⟩

/-- A scene, with a member of every kind, optional and not, and an image deep in it that cannot be
edited without the caller. -/
def studio : List Descriptor :=
  [.product "Scene" ⟨[⟨"title", "String", true⟩, ⟨"tint", "Tint", false⟩, ⟨"area", "Area", true⟩,
      ⟨"font", "Font", false⟩, ⟨"origin", "Origin", false⟩, ⟨"shape", "Shape", true⟩],
      .named, true, false⟩,
    .enumeration "Tint" ["Red", "Blue"],
    .product "Area" ⟨[⟨"0", "f64", false⟩], .positional, true, true⟩,
    .external "Font" "FontFactory",
    .singleton "Origin" false,
    .sum "Shape" [.product "Shape::Picture" ⟨[⟨"0", "Image", false⟩], .positional, true, false⟩,
      .singleton "Shape::Dot" true] true,
    .product "Image" ⟨[⟨"pixels", "Blob", false⟩, ⟨"width", "i32", false⟩], .named, true, false⟩,
    .sealed "Blob"]

/-- The settings that leave to the caller what cannot be edited. -/
def tolerantly : Configuration :=
  { Configuration.standard with tolerant := true }

/-- Entry points for a scene, an optional shape, an amount of area, and a number. -/
def studioRequests : List Request :=
  [.plain .factory "Scene", { Request.plain .field "Shape" with nullable := true },
    .plain .field "Area", .plain .field "i32"]

theorem exists_generate_studio :
    ∃ text, (Catalog.ofList studio).generate tolerantly studioRequests = .ok text :=
  exists_eq_ok_of_isOk (by decide +kernel)

end Planning

end EditableFields
