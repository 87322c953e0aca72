import EditableFields.Proofs.Planning.Fit
import EditableFields.Proofs.Planning.Sites

/-!
# Planning: replays within a finished planning

Suppose that planning has come to an end with the plans of `s`. Then any type that was planned there
can be planned again from every state whose plans and claimed names are among those of `s`
(`Within`): planning succeeds there, whatever is planned already and whatever is not, makes the very
plan that `s` has, and stays within `s` (`planType_replay`). For each name that is claimed on the
way was claimed in `s` for the same key, and what is held for children is told by the plan in `s`.

That a plan drawn anew is the one in `s` needs that the key tells what the type stands as and whose
values it describes (`Plan.Proper`, `Settled.plan_eq`), hence that names differ.
-/

namespace EditableFields

/-- A plan is named for its key as that stands in the catalog. -/
def Plan.Proper (catalog : Catalog) (p : Plan) : Prop :=
  p.name = factoryName p.standing p.value p.key ∧ ∃ d, Placed catalog p.standing d ∧ d.name = p.key

namespace Planning

variable {ds : List Descriptor} {c : Configuration} {rs : List Request} {s t u v w : Planning}
  {k : Classification}

/-! ## Plans are proper -/

/-- The site is that of something in the catalog, and the key was found to be the classification
there. -/
def Stands (catalog : Catalog) (memo : List (String × Classification)) (site : Site) : Prop :=
  memo.lookup site.key = some site.classification ∧
    ∃ d, Placed catalog site.standing d ∧ d.name = site.key

theorem covers_stands {memo : List (String × Classification)}
    (hmirrored : Survey.Mirrored (.ofList ds) memo) (hg : Survey.Grounded memo) :
    Covers (Stands (.ofList ds) memo) (Plan.Proper (.ofList ds)) where
  part ha hab := by
    cases hab with
    | @member standing value key style members m hm hw hc =>
      have hpart := hg.part ha.1 (Classification.mem_parts_product.2 ⟨m, hm, hw, rfl⟩)
        (isSupported_of_isComposite hc)
      obtain ⟨_, d, -, -, ms, -, mirrors⟩ := hmirrored key _ ha.1
      obtain ⟨member, -, hmember⟩ := exists_left_of_forall₂ mirrors hm
      obtain ⟨e, he⟩ := hmember.known hw (isSupported_of_isComposite hc)
      refine ⟨hpart.1, e, .of_get? he, ?_⟩
      rw [Catalog.get?_ofList_name he, ← hmember.type_eq]
      rfl
    | @variant key variants v style members hv hk =>
      have hpart := hg.part ha.1 (Classification.mem_parts_sum.2 ⟨v, hv, rfl⟩) (by rw [hk]; rfl)
      obtain ⟨_, d, hd, -, vs, hshape, mirrors⟩ := hmirrored key _ ha.1
      obtain ⟨-, name, companion, rfl⟩ := Survey.descriptor_of_shape_sum hshape
      obtain ⟨variant, hvariant, -, htype⟩ := exists_left_of_forall₂ mirrors hv
      exact ⟨hpart.1, variant, .variant hd hvariant, htype.symm⟩
  draws hsite hp := by
    obtain ⟨hkey, -, hstanding, hname⟩ := hp.proper
    obtain ⟨-, d, hd, hdname⟩ := hsite
    exact ⟨hname, d, hstanding ▸ hd, hdname.trans hkey.symm⟩

/-- What a request starts at stands in the catalog. -/
theorem stands_startOf {r : Request} (ha : Answered (.ofList ds) c rs s)
    (h : planRequest c (.ofList ds) r s = .ok t) :
    ∀ tree ∈ (startOf (.ofList ds) r s.survey).1,
      Stands (.ofList ds) t.survey.memo (.ofType tree.1 tree.2) := by
  intro tree htree
  have hmemo := ((planRequest_advance ha.between h).1.started tree htree).1
  unfold startOf at htree
  split at htree
  · cases htree
  · rename_i d hget
    split at htree
    · cases htree
    · cases List.mem_singleton.1 htree
      exact ⟨hmemo, d, .of_get? hget, Catalog.get?_ofList_name hget⟩

theorem planRequest_takes {r : Request} (ha : Answered (.ofList ds) c rs s)
    (hs : ∀ entry ∈ s.plans, entry.2.Proper (.ofList ds))
    (h : planRequest c (.ofList ds) r s = .ok t) :
    Takes (.ofList ds) c r (Plan.Proper (.ofList ds)) s t := by
  have ht := planRequest_answered ha h
  have ends := planRequest_ends (c := c) (covers_stands ht.mirrored ht.between.grounded) hs
    (stands_startOf ha h)
  rwa [h] at ends

/-! ## What a finished planning tells of a plan -/

/-- Requests were answered, and the plans are named for what they are of. -/
structure Settled (ds : List Descriptor) (c : Configuration) (rs : List Request) (s : Planning) :
    Prop extends Answered (.ofList ds) c rs s where
  distinct : (variantNames ds).Nodup
  proper : ∀ entry ∈ s.plans, entry.2.Proper (.ofList ds)

/-- The plan of a key that stands in the catalog is made of what the key was found to be, edits the
values that the key describes, and is named for it. -/
theorem Settled.plan_eq (hs : Settled ds c rs s) {standing : Standing} {key value : String}
    {p : Plan} {d : Descriptor} (hp : s.plans.lookup key = some p)
    (hk : s.survey.memoized key = some k) (he : Edits (.ofList ds) key value)
    (hd : Placed (.ofList ds) standing d) (hname : d.name = key) :
    (p.key = key ∧ p.value = value ∧ p.standing = standing ∧
      p.name = factoryName standing value key) ∧ Made c s p k := by
  have hmade := hs.made.made_of_memoized hp hk
  have hprim := ofTypeName?_of_mirrored hs.mirrored hk hmade.isComposite
  obtain ⟨hkey, hedits, -⟩ := hs.made key p hp
  obtain ⟨newer, older, hplans, -⟩ := List.lookup_eq_some_iff.1 hp
  obtain ⟨hpname, d', hd', hdname⟩ : p.Proper (.ofList ds) := hs.proper (key, p) (by simp [hplans])
  have hvalue := hedits.unique hs.distinct he hprim
  -- The key has one place in the catalog, where names differ.
  have hsame : d'.name = d.name := by rw [hdname, hkey, hname]
  obtain ⟨rfl, -⟩ := hd'.unique hs.distinct hd hsame (by rwa [hdname, hkey])
  exact ⟨⟨hkey, hvalue, rfl, by rw [hpname, hkey, hvalue]⟩, hmade⟩

/-- The plan of a product, from what the planner makes of its members. -/
theorem Settled.plan_product (hs : Settled ds c rs s) {standing : Standing} {key value : String}
    {style : ConstructorStyle} {members : List (ResolvedMember Classification)} {p : Plan}
    {d : Descriptor} (hp : s.plans.lookup key = some p)
    (hk : s.survey.memoized key = some (.product style members))
    (he : Edits (.ofList ds) key value) (hd : Placed (.ofList ds) standing d)
    (hname : d.name = key) :
    p.name = factoryName standing value key ∧ p.key = key ∧ ∃ plans,
      p = ⟨key, factoryName standing value key, value, .product key style plans standing, p.held⟩ ∧
      List.Forall₂ (MemberOf c s) members plans ∧
      (plans.map (·.factory)).foldlM (hold c (factoryName standing value key)) [] =
        .ok p.held := by
  obtain ⟨⟨hkey, hvalue, hstanding, hpname⟩, hmade⟩ := hs.plan_eq hp hk he hd hname
  refine ⟨hpname, hkey, ?_⟩
  cases hmade with
  | @product _ _ plans standing' hbody hmembers hheld =>
    have hsame : standing' = standing := by
      rw [← hstanding, Plan.standing, hbody]
    refine ⟨plans, ?_, hmembers, ?_⟩
    · calc p = ⟨p.key, p.name, p.value, p.body, p.held⟩ := rfl
        _ = _ := by rw [hbody, hpname, hkey, hvalue, hsame]
    · rwa [HoldsFor, hbody, hpname] at hheld

/-- The plan of a sum, from what the planner makes of its variants. -/
theorem Settled.plan_sum (hs : Settled ds c rs s) {key : String}
    {variants : List (ResolvedVariant Classification)} {p : Plan} {d : Descriptor}
    (hp : s.plans.lookup key = some p) (hk : s.survey.memoized key = some (.sum variants))
    (hget : (Catalog.ofList ds).get? key = some d) :
    p.name = Name.factoryType key ∧ p.key = key ∧ ∃ plans,
      p = ⟨key, Name.factoryType key, key, .sum plans, p.held⟩ ∧
      List.Forall₂ (VariantOf s) variants plans ∧
      (plans.map (·.factory)).foldlM (hold c (Name.factoryType key)) [] = .ok p.held := by
  have hd : Placed (.ofList ds) .topLevel d := .of_get? hget
  obtain ⟨⟨hkey, hvalue, -, hpname⟩, hmade⟩ :=
    hs.plan_eq hp hk (edits_of_get? hget) hd (Catalog.get?_ofList_name hget)
  refine ⟨hpname, hkey, ?_⟩
  cases hmade with
  | @sum _ plans hbody hvariants _ hheld =>
    refine ⟨plans, ?_, hvariants, ?_⟩
    · calc p = ⟨p.key, p.name, p.value, p.body, p.held⟩ := rfl
        _ = _ := by rw [hbody, hpname, hkey, hvalue]; rfl
    · rwa [HoldsFor, hbody, hpname] at hheld

/-- What a variant that needs a plan is said to be is what its name was found to be, and it is a
variant of the sum `owner`. -/
structure KnownVariant (catalog : Catalog) (s : Planning) (owner : String)
    (v : ResolvedVariant Classification) : Prop where
  memoized : s.survey.memoized v.type = some v.classification
  edits : Edits catalog v.type owner
  placed : ∃ d, Placed catalog .variant d ∧ d.name = v.type

/-- The variants of a sum that was found are known. -/
theorem Answered.knownVariant (hs : Answered (.ofList ds) c rs s) {n : String}
    {variants : List (ResolvedVariant Classification)}
    (hk : s.survey.memoized n = some (.sum variants)) :
    ∀ v ∈ variants, v.classification.isSupported → KnownVariant (.ofList ds) s n v := by
  obtain ⟨_, d, hd, -, vs, hshape, mirrors⟩ := hs.mirrored n _ hk
  obtain ⟨-, name, companion, rfl⟩ := Survey.descriptor_of_shape_sum hshape
  intro r hr hsupported
  obtain ⟨v, hv, -, htype⟩ := exists_left_of_forall₂ mirrors hr
  have part : (r.type, r.classification) ∈ (Classification.sum variants).parts :=
    Classification.mem_parts_sum.2 ⟨r, hr, rfl⟩
  exact ⟨(hs.between.grounded.part hk part hsupported).1,
    edits_variants_of_memoized hs.mirrored hk r hr, v, .variant hd hv, htype.symm⟩

/-! ## States within a finished planning -/

/-- What was planned and claimed in `u` was so in `s`. -/
structure Within (u s : Planning) : Prop where
  plans : ∀ {key p}, u.plans.lookup key = some p → s.plans.lookup key = some p
  names : ∀ {n key}, u.names.lookup n = some key → s.names.lookup n = some key

/-- Planning went on from `u` to `v` within `s`: nothing was classified, claimed or added for a
request. -/
structure Replayed (s u v : Planning) : Prop where
  within : Within v s
  survey_eq : v.survey = u.survey
  functions_eq : v.functions = u.functions
  entries_eq : v.entries = u.entries

theorem Replayed.refl (h : Within u s) : Replayed s u u := ⟨h, rfl, rfl, rfl⟩

theorem Replayed.trans (h : Replayed s u v) (h' : Replayed s v w) : Replayed s u w :=
  ⟨h'.within, h'.survey_eq.trans h.survey_eq, h'.functions_eq.trans h.functions_eq,
    h'.entries_eq.trans h.entries_eq⟩

theorem Within.plan_eq (hu : Within u s) {key : String} {p q : Plan}
    (hp : s.plans.lookup key = some p) (hq : u.plans.lookup key = some q) : q = p :=
  Option.some_inj.1 ((hu.plans hq).symm.trans hp)

/-- A plan can be started again: its name was claimed for its key. -/
theorem start_replay (hs : Settled ds c rs s) {key : String} {p : Plan}
    (hp : s.plans.lookup key = some p) (hu : Within u s) :
    ∃ v, u.start p.name key = .ok v ∧ Replayed s u v := by
  have claimed := (hs.between.sound.finished key p hp).claimed
  cases hname : u.names.lookup p.name with
  | some first =>
    have hfirst : first = key := Option.some_inj.1 ((hu.names hname).symm.trans claimed)
    refine ⟨{ u with order := u.order ++ [key] }, ?_, ⟨hu.plans, hu.names⟩, rfl, rfl, rfl⟩
    simp [start, claimName, hname, hfirst, bind, Except.bind, pure, Except.pure]
  | none =>
    refine ⟨{ u with names := (p.name, key) :: u.names, order := u.order ++ [key] }, ?_,
      ⟨hu.plans, fun {n key'} hn => ?_⟩, rfl, rfl, rfl⟩
    · simp [start, claimName, hname, bind, Except.bind, pure, Except.pure]
    · simp only [List.lookup_cons] at hn
      split at hn
      · rename_i heq
        cases hn
        rwa [LawfulBEq.eq_of_beq heq]
      · exact hu.names hn

/-- A plan that is finished again stays within. -/
theorem Replayed.finish (h : Replayed s u v) {p : Plan} (hp : s.plans.lookup p.key = some p) :
    Replayed s u (v.finish p).2 := by
  refine ⟨⟨fun {key q} hq => ?_, h.within.names⟩, h.survey_eq, h.functions_eq, h.entries_eq⟩
  rw [lookup_finish] at hq
  split at hq
  · rename_i heq
    cases hq
    rwa [heq]
  · exact h.within.plans hq

/-- The plan of a product is drawn again, if its members can be planned again. -/
theorem product_replay (hs : Settled ds c rs s) {standing : Standing} {key value name : String}
    {style : ConstructorStyle} {members : List (ResolvedMember Classification)} {p : Plan}
    {d : Descriptor} (hp : s.plans.lookup key = some p)
    (hk : s.survey.memoized key = some (.product style members))
    (he : Edits (.ofList ds) key value) (hd : Placed (.ofList ds) standing d)
    (hdname : d.name = key) (hname : factoryName standing value key = name) (hu : Within u s)
    (planned : ∀ {plans : List MemberPlan} {held : List HeldFactory} {u : Planning},
      List.Forall₂ (MemberOf c s) members plans →
      (plans.map (·.factory)).foldlM (hold c name) [] = .ok held → Within u s →
      ∃ v, planMembers c key name members [] u = .ok (plans, held, v) ∧ Replayed s u v) :
    ∃ v, (do
        let u ← u.start name key
        let (ms, held, u) ← planMembers c key name members [] u
        return u.finish ⟨key, name, value, .product key style ms standing, held⟩) = .ok (p, v) ∧
      Replayed s u v := by
  obtain ⟨hpname, hkey, plans, hdrawn, hmembers, hheld⟩ := hs.plan_product hp hk he hd hdname
  rw [hname] at hpname hdrawn hheld
  obtain ⟨u₁, hstart, h₁⟩ := start_replay hs hp hu
  obtain ⟨u₂, hplan, h₂⟩ := planned hmembers hheld h₁.within
  rw [hpname] at hstart
  refine ⟨(u₂.finish p).2, bind_eq_ok.2 ⟨u₁, hstart, bind_eq_ok.2 ⟨_, hplan, ?_⟩⟩,
    (h₁.trans h₂).finish (hkey.symm ▸ hp)⟩
  dsimp only
  rw [← hdrawn]
  rfl

/-- The plan of a product variant is found, or drawn again. -/
theorem planVariant_replay (hs : Settled ds c rs s) {owner type : String}
    {style : ConstructorStyle} {members : List (ResolvedMember Classification)} {p : Plan}
    {d : Descriptor} (hp : s.plans.lookup type = some p)
    (hk : s.survey.memoized type = some (.product style members))
    (he : Edits (.ofList ds) type owner) (hd : Placed (.ofList ds) .variant d)
    (hdname : d.name = type) (hu : Within u s)
    (planned : ∀ {plans : List MemberPlan} {held : List HeldFactory} {u : Planning},
      List.Forall₂ (MemberOf c s) members plans →
      (plans.map (·.factory)).foldlM (hold c (Name.variantFactoryType owner type)) [] = .ok held →
      Within u s →
      ∃ v, planMembers c type (Name.variantFactoryType owner type) members [] u =
        .ok (plans, held, v) ∧ Replayed s u v) :
    ∃ v, planVariant c owner type style members u = .ok (p, v) ∧ Replayed s u v := by
  unfold planVariant
  cases hnew : u.plans.lookup type with
  | some p' =>
    obtain rfl := hu.plan_eq hp hnew
    exact ⟨u, rfl, .refl hu⟩
  | none => exact product_replay hs hp hk he hd hdname rfl hu planned

/-! ## The planner -/

-- Along the recursion of the planner. The plans in `s` tell what comes back from each call, so the
-- calls are replayed for what they returned when `s` was planned.
mutual

theorem planType_replay (hs : Settled ds c rs s) {type : String} {d : Descriptor} {p : Plan} :
    ∀ (k : Classification) {u : Planning}, s.survey.memoized type = some k →
      (Catalog.ofList ds).get? type = some d → s.plans.lookup type = some p → Within u s →
      ∃ v, planType c type k u = .ok (p, v) ∧ Replayed s u v
  | k, u, hk, hget, hp, hu => by
    unfold planType
    cases hnew : u.plans.lookup type with
    | some q =>
      obtain rfl := hu.plan_eq hp hnew
      exact ⟨u, rfl, .refl hu⟩
    | none =>
      cases k with
      | product style members =>
        have hd : Placed (.ofList ds) .topLevel d := .of_get? hget
        exact product_replay hs hp hk (edits_of_get? hget) hd (Catalog.get?_ofList_name hget) rfl hu
          fun hmade hheld hu => planMembers_replay hs members (hs.known hk) hmade hheld hu
      | sum variants =>
        obtain ⟨hpname, hkey, plans, hdrawn, hvariants, hheld⟩ := hs.plan_sum hp hk hget
        obtain ⟨u₁, hstart, h₁⟩ := start_replay hs hp hu
        obtain ⟨u₂, hplan, h₂⟩ :=
          planVariants_replay hs variants (hs.knownVariant hk) hvariants hheld h₁.within
        rw [hpname] at hstart
        refine ⟨(u₂.finish p).2, bind_eq_ok.2 ⟨u₁, hstart, bind_eq_ok.2 ⟨_, hplan, ?_⟩⟩,
          (h₁.trans h₂).finish (hkey.symm ▸ hp)⟩
        dsimp only
        rw [← hdrawn]
        rfl
      | primitive | enumeration | singleton | external | unsupported =>
        cases (hs.made.made_of_memoized hp hk).isComposite

theorem memberFactory_replay (hs : Settled ds c rs s) (owner : String) {receiver : Receiver} :
    ∀ (m : ResolvedMember Classification) {child : ChildFactory} {u : Planning},
      (m.wrapper = none → m.classification.isSupported → Known (.ofList ds) s m) →
      ChildOf c s receiver m child → Within u s →
      ∃ v, memberFactory c owner receiver m u = .ok (child, v) ∧ Replayed s u v
  | ⟨name, type, nullable, wrapper, k⟩, child, u, hm, hchild, hu => by
    obtain ⟨base, hbase, rfl⟩ := hchild
    rw [memberFactory_eq]
    have replayed : ∃ v, baseFactory c owner receiver ⟨name, type, nullable, wrapper, k⟩ u =
        .ok (base, v) ∧ Replayed s u v := by
      cases hbase with
      | planned hw hc hp =>
        dsimp only at hw hc hp
        subst hw
        obtain ⟨⟨d, hget⟩, hk⟩ := hm rfl (isSupported_of_isComposite hc)
        cases k with
        | product | sum =>
          obtain ⟨v, hplan, hv⟩ := planType_replay hs _ hk hget hp hu
          exact ⟨v, bind_eq_ok.2 ⟨_, hplan, rfl⟩, hv⟩
        | primitive | enumeration | singleton | external | unsupported => cases hc
      | obligation hw hk htolerant =>
        dsimp only at hw hk
        subst hw hk
        refine ⟨u, ?_, .refl hu⟩
        simp [baseFactory, obligation, htolerant, bind, Except.bind, pure, Except.pure]
      | wrapper hw =>
        dsimp only at hw
        subst hw
        exact ⟨u, rfl, .refl hu⟩
      | leaf hw hk | choice hw hk | fixed hw hk | external hw hk =>
        dsimp only at hw hk
        subst hw hk
        exact ⟨u, rfl, .refl hu⟩
    obtain ⟨v, hbase, hv⟩ := replayed
    refine ⟨v, bind_eq_ok.2 ⟨_, hbase, ?_⟩, hv⟩
    cases nullable <;> rfl

theorem planMembers_replay (hs : Settled ds c rs s) {owner name : String} :
    ∀ (members : List (ResolvedMember Classification)) {plans : List MemberPlan}
      {held held' : List HeldFactory} {u : Planning},
      (∀ m ∈ members, m.wrapper = none → m.classification.isSupported →
        Known (.ofList ds) s m) →
      List.Forall₂ (MemberOf c s) members plans →
      (plans.map (·.factory)).foldlM (hold c name) held = .ok held' → Within u s →
      ∃ v, planMembers c owner name members held u = .ok (plans, held', v) ∧ Replayed s u v
  | [], plans, held, held', u, hknown, hmade, hheld, hu => by
    cases hmade
    cases hheld
    unfold planMembers
    exact ⟨u, rfl, .refl hu⟩
  | m :: ms, plans, held, held', u, hknown, hmade, hheld, hu => by
    obtain ⟨hm, hms⟩ := List.forall_mem_cons.1 hknown
    cases hmade with
    | cons hfirst hrest =>
      obtain ⟨child, hchild, rfl⟩ := hfirst
      obtain ⟨held₁, hhold, hheld⟩ := bind_eq_ok.1 hheld
      obtain ⟨u₁, hfactory, h₁⟩ := memberFactory_replay hs owner m hm hchild hu
      obtain ⟨u₂, hmembers, h₂⟩ := planMembers_replay hs ms hms hrest hheld h₁.within
      unfold planMembers
      exact ⟨u₂, bind_eq_ok.2 ⟨_, hfactory, bind_eq_ok.2 ⟨_, hhold, bind_eq_ok.2 ⟨_, hmembers,
        rfl⟩⟩⟩, h₁.trans h₂⟩

theorem planVariants_replay (hs : Settled ds c rs s) {owner name : String} :
    ∀ (variants : List (ResolvedVariant Classification)) {plans : List VariantPlan}
      {held held' : List HeldFactory} {u : Planning},
      (∀ v ∈ variants, v.classification.isSupported → KnownVariant (.ofList ds) s owner v) →
      List.Forall₂ (VariantOf s) variants plans →
      (plans.map (·.factory)).foldlM (hold c name) held = .ok held' → Within u s →
      ∃ v, planVariants c owner name variants held u = .ok (plans, held', v) ∧ Replayed s u v
  | [], plans, held, held', u, hknown, hmade, hheld, hu => by
    cases hmade
    cases hheld
    unfold planVariants
    exact ⟨u, rfl, .refl hu⟩
  | ⟨tag, type, .singleton valueless⟩ :: vs, plans, held, held', u, hknown, hmade, hheld, hu => by
    have hvs := (List.forall_mem_cons.1 hknown).2
    cases hmade with
    | cons hfirst hrest =>
      obtain ⟨held₁, hhold, hheldRest⟩ := bind_eq_ok.1 hheld
      cases hfirst with
      | valueless | marker =>
        cases hhold
        obtain ⟨u₁, hvariants, h₁⟩ := planVariants_replay hs vs hvs hrest hheldRest hu
        unfold planVariants
        exact ⟨u₁, bind_eq_ok.2 ⟨_, hvariants, rfl⟩, h₁⟩
  | ⟨tag, type, .product style members⟩ :: vs, plans, held, held', u, hknown, hmade, hheld, hu => by
    obtain ⟨hv, hvs⟩ := List.forall_mem_cons.1 hknown
    obtain ⟨hk, he, d, hd, hname⟩ := hv rfl
    cases hmade with
    | cons hfirst hrest =>
      obtain ⟨held₁, hhold, hheldRest⟩ := bind_eq_ok.1 hheld
      cases hfirst with
      | @product _ _ _ _ q hq =>
        obtain ⟨u₁, hplan, h₁⟩ := planVariant_replay hs hq hk he hd hname hu
          fun hmade hheld hu => planMembers_replay hs members (hs.known hk) hmade hheld hu
        obtain ⟨u₂, hvariants, h₂⟩ := planVariants_replay hs vs hvs hrest hheldRest h₁.within
        rw [planVariants_product]
        exact ⟨u₂,
          bind_eq_ok.2 ⟨_, hplan, bind_eq_ok.2 ⟨_, hhold, bind_eq_ok.2 ⟨_, hvariants, rfl⟩⟩⟩,
          h₁.trans h₂⟩
  | ⟨_, _, .primitive _⟩ :: _, plans, held, held', u, hknown, hmade, hheld, hu
  | ⟨_, _, .enumeration _⟩ :: _, plans, held, held', u, hknown, hmade, hheld, hu
  | ⟨_, _, .sum _⟩ :: _, plans, held, held', u, hknown, hmade, hheld, hu
  | ⟨_, _, .external _⟩ :: _, plans, held, held', u, hknown, hmade, hheld, hu
  | ⟨_, _, .unsupported _⟩ :: _, plans, held, held', u, hknown, hmade, hheld, hu => by
    cases hmade with
    | cons hfirst hrest => cases hfirst

end

end Planning

end EditableFields
