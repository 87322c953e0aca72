import EditableFields.Proofs.Planning.Invariant

/-!
# Planning: plans of classifications

Planning a type goes through what `visit` goes through, and finishes a plan for each product and
sum there (`planType_outcome`). A plan enters the order before it is finished, so all depends on
no type being met again while its own plan is under way: what a classification is made of was
found before the classification itself (`Below`), and so before everything under way.
-/

namespace EditableFields

namespace Planning

variable {c : Configuration} {opens : List String} {s t u : Planning} {k : Classification}

/-! ## One member, one variant -/

/-- The factory of a member, not looking at whether the member is optional. -/
def baseFactory (c : Configuration) (owner : String) (receiver : Receiver)
    (m : ResolvedMember Classification) (s : Planning) :
    Except GenerationError (ChildFactory × Planning) :=
  match m.wrapper, m.classification with
  | some w, _ => .ok (.wrapper m.type w, s)
  | none, .primitive kind => .ok (.leaf kind, s)
  | none, .enumeration entries => .ok (.choice m.type entries, s)
  | none, .singleton _ => .ok (.fixed, s)
  | none, .external path => .ok (.external path, s)
  | none, .unsupported reason => do
    let f ← obligation c owner m.name m.type reason
    return (f, s)
  | none, k => do
    let (p, s) ← planType c m.type k s
    return (p.child (Name.snake (Name.simple m.type)) receiver, s)

theorem memberFactory_composite (c : Configuration) (owner : String) (receiver : Receiver)
    {k : Classification} (hk : k.isComposite) (name type : String) (nullable : Bool)
    (s : Planning) :
    memberFactory c owner receiver ⟨name, type, nullable, none, k⟩ s = do
      let (p, s) ← planType c type k s
      let base := p.child (Name.snake (Name.simple type)) receiver
      if nullable then return (.optional base type (valueDefault type none k), s)
      else return (base, s) := by
  cases k with
  | product | sum => rfl
  | primitive | enumeration | singleton | external | unsupported => cases hk

theorem memberFactory_eq (c : Configuration) (owner : String) (receiver : Receiver)
    (m : ResolvedMember Classification) (s : Planning) :
    memberFactory c owner receiver m s = do
      let (base, s) ← baseFactory c owner receiver m s
      if m.nullable then
        return (.optional base m.type (valueDefault m.type m.wrapper m.classification), s)
      else return (base, s) := by
  rcases m with ⟨name, type, nullable, _ | w, k⟩
  · cases k with
    | product | sum =>
      rw [memberFactory_composite c owner receiver rfl]
      simp only [baseFactory, bind_assoc, pure_bind]
    | unsupported reason => rcases c with ⟨_, _ | _, _, _⟩ <;> rfl
    | primitive | enumeration | singleton | external => rfl
  · rfl

/-- The plan of a variant that is a product. -/
def planVariant (c : Configuration) (owner type : String) (style : ConstructorStyle)
    (members : List (ResolvedMember Classification)) (s : Planning) :
    Except GenerationError (Plan × Planning) :=
  match s.plans.lookup type with
  | some p => .ok (p, s)
  | none => do
    let name := Name.variantFactoryType owner type
    let s ← s.start name type
    let (ms, held, s) ← planMembers c type name members [] s
    return s.finish ⟨type, name, owner, .product type style ms .variant, held⟩

theorem planVariants_product (c : Configuration) (owner name tag type : String)
    (style : ConstructorStyle) (members : List (ResolvedMember Classification))
    (vs : List (ResolvedVariant Classification)) (held : List HeldFactory) (s : Planning) :
    planVariants c owner name (⟨tag, type, .product style members⟩ :: vs) held s = do
      let (p, s) ← planVariant c owner type style members s
      let held ← hold c name held (p.child (Name.snake tag) .own)
      let (ps, held, s) ← planVariants c owner name vs held s
      return (⟨tag, type, match style with
        | .named => .named
        | .positional => .positional, construct type style p.body.memberDefaults,
        p.child (Name.snake tag) .own, some (Name.accessor tag)⟩ :: ps, held, s) := by
  unfold planVariant
  conv_lhs => unfold planVariants
  cases s.plans.lookup type with
  | some p => rfl
  | none => cases style <;> simp only [bind_assoc, pure_bind]

/-! ## Nothing is met again while it is under way -/

/-- The type named `n` was found to be `k`, and found so before every type under way. -/
structure Below (s : Planning) (opens : List String) (n : String) (k : Classification) :
    Prop where
  memoized : s.survey.memoized n = some k
  earlier : ∀ m ∈ opens, Survey.rank s.survey.memo n < Survey.rank s.survey.memo m

/-- All that a classification is made of was found before every type under way. -/
def PartsBelow (s : Planning) (opens : List String) (k : Classification) : Prop :=
  ∀ part ∈ k.parts, part.2.isSupported → Below s opens part.1 part.2

theorem Below.not_mem {n : String} (h : Below s opens n k) : n ∉ opens := fun hn =>
  Nat.lt_irrefl _ (h.earlier n hn)

theorem Below.parts {n : String} (h : Below s opens n k) (hg : Survey.Grounded s.survey.memo) :
    PartsBelow s (n :: opens) k := by
  intro part hp hs
  obtain ⟨hmemo, hrank⟩ := hg.part h.memoized hp hs
  refine ⟨hmemo, fun m hm => ?_⟩
  rcases List.mem_cons.1 hm with rfl | hm
  · exact hrank
  · exact Nat.lt_trans hrank (h.earlier m hm)

theorem PartsBelow.grow (h : PartsBelow s opens k) (hg : Grown s t) : PartsBelow t opens k :=
  fun part hp hs => ⟨hg.survey ▸ (h part hp hs).memoized, hg.survey ▸ (h part hp hs).earlier⟩

/-- What a classification is made of, part after part. -/
theorem PartsBelow.split {k₁ k₂ : Classification} (h : PartsBelow s opens k)
    (heq : k.parts = k₁.parts ++ k₂.parts) : PartsBelow s opens k₁ ∧ PartsBelow s opens k₂ :=
  ⟨fun part hp => h part (by simp [heq, hp]), fun part hp => h part (by simp [heq, hp])⟩

theorem Provided.append {k₁ k₂ : Classification} (h₁ : Provided c s k₁) (h₂ : Provided c s k₂)
    (heq : k.parts = k₁.parts ++ k₂.parts) : Provided c s k where
  planned part hp := by
    rw [heq] at hp
    exact (List.mem_append.1 hp).elim (h₁.planned part) (h₂.planned part)
  strict hc part hp := by
    rw [heq] at hp
    exact (List.mem_append.1 hp).elim (h₁.strict hc part) (h₂.strict hc part)

theorem Provided.of_part {part : String × Classification} (heq : k.parts = [part])
    (hplanned : part.2.isComposite → s.Planned part.1)
    (hs : c.tolerant = false → part.2.isSupported) : Provided c s k where
  planned := by
    simp only [heq, List.forall_mem_singleton]
    exact hplanned
  strict hc := by
    simp only [heq, List.forall_mem_singleton]
    exact hs hc

theorem parts_product_cons (style : ConstructorStyle) (m : ResolvedMember Classification)
    (ms : List (ResolvedMember Classification)) :
    (Classification.product style (m :: ms)).parts =
      (Classification.product style [m]).parts ++ (Classification.product style ms).parts := by
  cases hw : m.wrapper <;> simp [Classification.parts, hw]

theorem parts_sum_cons (v : ResolvedVariant Classification)
    (vs : List (ResolvedVariant Classification)) :
    (Classification.sum (v :: vs)).parts =
      (Classification.sum [v]).parts ++ (Classification.sum vs).parts := by
  simp [Classification.parts]

/-- A type that is planned already is not planned again, nor visited again. -/
theorem outcome_of_planned (hs : Sound c opens s) {type : String} (h : s.Planned type)
    (k : Classification) : Outcome c opens s s (visit type k s.order) where
  sound := hs
  grown := .refl s
  order_eq := (visit_of_mem ((hs.mem_order type).2 (.inr h)) k).symm

/-! ## One plan -/

/-- When a plan is started, what it is made of was found before everything under way. -/
theorem Below.start {name key : String} (hb : Below s opens key k)
    (hg : Survey.Grounded s.survey.memo) (hs : Sound c opens s) (hnew : ¬ s.Planned key)
    (hstart : s.start name key = .ok t) :
    Survey.Grounded t.survey.memo ∧ Sound c (key :: opens) t ∧ PartsBelow t (key :: opens) k :=
  have hgrown := (start_ok hstart).1
  ⟨hgrown.survey ▸ hg, hs.start hstart hb.not_mem hnew, (hb.parts hg).grow hgrown⟩

/-- The order when a plan is started is where the visit of its type goes on from. -/
theorem Below.order_start {name key : String} (hb : Below s opens key k) (hs : Sound c opens s)
    (hnew : ¬ s.Planned key) (hstart : s.start name key = .ok t) :
    key ∉ s.order ∧ t.order = s.order ++ [key] := by
  refine ⟨fun hmem => ?_, (start_ok hstart).2.2.2⟩
  exact ((hs.mem_order key).1 hmem).elim hb.not_mem hnew

/-- The plan of a product or sum is started, its parts are visited, and it is finished. -/
theorem plan_outcome (p : Plan) (hs : Sound c opens s) (hb : Below s opens p.key k)
    (hk : k.isComposite) (hnew : ¬ s.Planned p.key) (hstart : s.start p.name p.key = .ok t)
    (hfill : Filled c (p.key :: opens) t u (visitParts k t.order) k p.body.children p.held) :
    Outcome c opens s (u.finish p).2 (visit p.key k s.order) ∧
      (u.finish p).2.plans.lookup p.key = some p := by
  obtain ⟨hkey, horder⟩ := hb.order_start hs hnew hstart
  rw [visit_of_not_mem hkey hk, ← horder]
  exact hfill.finish hb.not_mem hstart hb.memoized hk

/-! ## Children -/

/-- A member that nothing is planned for. -/
theorem filled_of_not_composite {m : ResolvedMember Classification} {child : ChildFactory}
    (style : ConstructorStyle) (hs : Sound c opens s)
    (hm : m.wrapper = none → m.classification.isComposite = false ∧
      (c.tolerant = false → m.classification.isSupported))
    (hchild : child.mentions = []) :
    Filled c opens s s (visitMembers [m] s.order) (.product style [m]) [child] [] := by
  have hpart : ∀ part ∈ (Classification.product style [m]).parts,
      part.2.isComposite = false ∧ (c.tolerant = false → part.2.isSupported) := by
    intro part hp
    obtain ⟨m', hm', hw, rfl⟩ := Classification.mem_parts_product.1 hp
    cases List.mem_singleton.1 hm'
    exact hm hw
  refine ⟨⟨hs, .refl s, ?_⟩, ⟨fun part hp hc => ?_, fun hc part hp => (hpart part hp).2 hc⟩,
    by simp [hchild], by simp⟩
  · rcases m with ⟨_, _, _, _ | w, k⟩
    · have hk := (hm rfl).1
      cases k <;> simp_all [visitMembers, visit, Classification.isComposite]
    · simp [visitMembers]
  · simp [(hpart part hp).1] at hc

/-- A child that is edited by the factory of its type, which was just planned. -/
theorem Outcome.filled {order : List String} (h : Outcome c opens s t order) {type : String}
    {p : Plan} (hp : t.plans.lookup type = some p) {k' : Classification}
    (heq : k.parts = [(type, k')]) (hk' : k'.isSupported) (field : String) (receiver : Receiver) :
    Filled c opens s t order k [p.child field receiver] [] := by
  refine ⟨h, .of_part heq (fun _ => ⟨p, hp⟩) fun _ => hk', ?_, by simp⟩
  simp only [List.forall_mem_singleton, Plan.mentions_child]
  exact ⟨type, p, hp, rfl⟩

/-- After a child is planned, what is held with it only needs finished plans. -/
theorem Filled.hold {order : List String} {name : String} {child : ChildFactory}
    {held held' : List HeldFactory} (h : Filled c opens s t order k [child] [])
    (hhold : hold c name held child = .ok held')
    (hheld : ∀ h ∈ held, ∀ n ∈ h.type.generatedNames, s.Named n) :
    ∀ h ∈ held', ∀ n ∈ h.type.generatedNames, t.Named n :=
  hold_named hhold (fun f hf n hn => (hheld f hf n hn).keep h.grown.kept)
    (h.children_named child (List.mem_singleton_self _))

/-- One child is planned, then the others. -/
theorem Filled.cons {order order' : List String} {k₁ k₂ : Classification} {child : ChildFactory}
    {children : List ChildFactory} {held : List HeldFactory}
    (first : Filled c opens s t order k₁ [child] [])
    (rest : Filled c opens t u order' k₂ children held) (heq : k.parts = k₁.parts ++ k₂.parts) :
    Filled c opens s u order' k (child :: children) held where
  sound := rest.sound
  grown := first.grown.trans rest.grown
  order_eq := rest.order_eq
  provided := (first.provided.keep rest.grown.kept).append rest.provided heq
  children_named := by
    refine List.forall_mem_cons.2 ⟨fun n hn => ?_, rest.children_named⟩
    exact (first.children_named child (List.mem_singleton_self _) n hn).keep rest.grown.kept
  held_named := rest.held_named

/-- Planning a product variant visits it, and its plan is finished then, if planning its members
visits their types. -/
theorem planVariant_outcome {owner type : String} {style : ConstructorStyle}
    {members : List (ResolvedMember Classification)} {p : Plan}
    (hg : Survey.Grounded s.survey.memo) (hs : Sound c opens s)
    (hb : Below s opens type (.product style members))
    (h : planVariant c owner type style members s = .ok (p, t))
    (planned : ∀ {s u : Planning} {name : String} {ps : List MemberPlan}
      {held : List HeldFactory}, Survey.Grounded s.survey.memo → Sound c (type :: opens) s →
      PartsBelow s (type :: opens) (.product style members) →
      planMembers c type name members [] s = .ok (ps, held, u) →
      Filled c (type :: opens) s u (visitMembers members s.order) (.product style members)
        (ps.map (·.factory)) held) :
    Outcome c opens s t (visit type (.product style members) s.order) ∧
      t.plans.lookup type = some p := by
  unfold planVariant at h
  cases hnew : s.plans.lookup type with
  | some q =>
    simp only [hnew] at h
    cases h
    exact ⟨outcome_of_planned hs ⟨p, hnew⟩ _, hnew⟩
  | none =>
    have hnew' : ¬ s.Planned type := by simp [Planned, hnew]
    simp only [hnew] at h
    obtain ⟨s₁, hstart, h⟩ := bind_eq_ok.1 h
    obtain ⟨⟨ms, held, u⟩, hmembers, h⟩ := bind_eq_ok.1 h
    cases h
    obtain ⟨hg₁, hs₁, hb₁⟩ := hb.start hg hs hnew' hstart
    exact plan_outcome _ hs hb rfl hnew' hstart (planned hg₁ hs₁ hb₁ hmembers)

/-! ## The whole classification -/

-- The four go along the recursion of the planner over a classification: types, members, variants.
mutual

/-- Planning a type visits it, and its plan is finished then. -/
theorem planType_outcome {opens : List String} {s t : Planning} {type : String} {p : Plan} :
    ∀ k : Classification, Survey.Grounded s.survey.memo → Sound c opens s →
      Below s opens type k → planType c type k s = .ok (p, t) →
      Outcome c opens s t (visit type k s.order) ∧ t.plans.lookup type = some p
  | k, hg, hs, hb, h => by
    unfold planType at h
    cases hnew : s.plans.lookup type with
    | some q =>
      simp only [hnew] at h
      cases h
      exact ⟨outcome_of_planned hs ⟨p, hnew⟩ k, hnew⟩
    | none =>
      -- The type is not under way either, so its plan is started.
      have hnew' : ¬ s.Planned type := by simp [Planned, hnew]
      simp only [hnew] at h
      cases k with
      | product style members =>
        obtain ⟨s₁, hstart, h⟩ := bind_eq_ok.1 h
        obtain ⟨⟨ms, held, u⟩, hmembers, h⟩ := bind_eq_ok.1 h
        cases h
        obtain ⟨hg₁, hs₁, hb₁⟩ := hb.start hg hs hnew' hstart
        exact plan_outcome _ hs hb rfl hnew' hstart
          (planMembers_outcome style members hg₁ hs₁ hb₁ (by simp) hmembers)
      | sum variants =>
        obtain ⟨s₁, hstart, h⟩ := bind_eq_ok.1 h
        obtain ⟨⟨vs, held, u⟩, hvariants, h⟩ := bind_eq_ok.1 h
        cases h
        obtain ⟨hg₁, hs₁, hb₁⟩ := hb.start hg hs hnew' hstart
        exact plan_outcome _ hs hb rfl hnew' hstart
          (planVariants_outcome variants hg₁ hs₁ hb₁ (by simp) hvariants)
      | primitive | enumeration | singleton | external | unsupported => cases h

/-- Planning a member visits its type, if it has to be looked into. -/
theorem memberFactory_outcome {opens : List String} {s t : Planning} {owner : String}
    {receiver : Receiver} {factory : ChildFactory} (style : ConstructorStyle) :
    ∀ m : ResolvedMember Classification, Survey.Grounded s.survey.memo → Sound c opens s →
      PartsBelow s opens (.product style [m]) →
      memberFactory c owner receiver m s = .ok (factory, t) →
      Filled c opens s t (visitMembers [m] s.order) (.product style [m]) [factory] []
  | ⟨name, type, nullable, wrapper, k⟩, hg, hs, hb, h => by
    rw [memberFactory_eq] at h
    obtain ⟨⟨base, s₁⟩, hbase, h⟩ := bind_eq_ok.1 h
    have hfill : Filled c opens s s₁
        (visitMembers [⟨name, type, nullable, wrapper, k⟩] s.order)
        (.product style [⟨name, type, nullable, wrapper, k⟩]) [base] [] := by
      cases wrapper with
      | some w =>
        cases hbase
        exact filled_of_not_composite style hs (by simp) rfl
      | none =>
        cases k with
        | product | sum =>
          obtain ⟨⟨p, s₂⟩, hplan, hret⟩ := bind_eq_ok.1 hbase
          cases hret
          have hbelow := hb _ (Classification.mem_parts_product.2
            ⟨_, List.mem_singleton_self _, rfl, rfl⟩) rfl
          obtain ⟨hout, hp⟩ := planType_outcome _ hg hs hbelow hplan
          exact hout.filled hp rfl rfl _ _
        | unsupported reason =>
          obtain ⟨f, hf, hret⟩ := bind_eq_ok.1 hbase
          cases hret
          unfold obligation at hf
          split at hf
          · rename_i htolerant
            cases hf
            exact filled_of_not_composite style hs (fun _ => ⟨rfl, by simp [htolerant]⟩) rfl
          · cases hf
        | primitive | enumeration | singleton | external =>
          cases hbase
          exact filled_of_not_composite style hs (fun _ => ⟨rfl, fun _ => rfl⟩) rfl
    dsimp only at h
    split at h
    · cases h
      exact { hfill with children_named := by simpa [ChildFactory.mentions, ChildFactory.type,
        FactoryType.generatedNames] using hfill.children_named }
    · cases h
      exact hfill

/-- Planning members visits their types in order. -/
theorem planMembers_outcome {opens : List String} {s t : Planning} {owner name : String}
    {ps : List MemberPlan} {held held' : List HeldFactory} (style : ConstructorStyle) :
    ∀ members : List (ResolvedMember Classification), Survey.Grounded s.survey.memo →
      Sound c opens s → PartsBelow s opens (.product style members) →
      (∀ h ∈ held, ∀ n ∈ h.type.generatedNames, s.Named n) →
      planMembers c owner name members held s = .ok (ps, held', t) →
      Filled c opens s t (visitMembers members s.order) (.product style members)
        (ps.map (·.factory)) held'
  | [], hg, hs, hb, hheld, h => by
    unfold planMembers at h
    cases h
    exact ⟨⟨hs, .refl s, rfl⟩, ⟨by simp [Classification.parts], by simp [Classification.parts]⟩,
      by simp, hheld⟩
  | m :: ms, hg, hs, hb, hheld, h => by
    unfold planMembers at h
    obtain ⟨⟨factory, s₁⟩, hfactory, h⟩ := bind_eq_ok.1 h
    obtain ⟨held₁, hhold, h⟩ := bind_eq_ok.1 h
    obtain ⟨⟨ps, held₂, s₂⟩, hrest, h⟩ := bind_eq_ok.1 h
    cases h
    obtain ⟨hbm, hbms⟩ := hb.split (parts_product_cons style m ms)
    have first := memberFactory_outcome style m hg hs hbm hfactory
    have rest := planMembers_outcome style ms (first.grown.survey ▸ hg) first.sound
      (hbms.grow first.grown) (first.hold hhold hheld) hrest
    rw [first.order_eq, ← visitMembers_cons] at rest
    exact first.cons rest (parts_product_cons style m ms)

/-- Planning variants visits them in order. -/
theorem planVariants_outcome {opens : List String} {s t : Planning} {owner name : String}
    {ps : List VariantPlan} {held held' : List HeldFactory} :
    ∀ variants : List (ResolvedVariant Classification), Survey.Grounded s.survey.memo →
      Sound c opens s → PartsBelow s opens (.sum variants) →
      (∀ h ∈ held, ∀ n ∈ h.type.generatedNames, s.Named n) →
      planVariants c owner name variants held s = .ok (ps, held', t) →
      Filled c opens s t (visitVariants variants s.order) (.sum variants)
        (ps.map (·.factory)) held'
  | [], hg, hs, hb, hheld, h => by
    unfold planVariants at h
    cases h
    exact ⟨⟨hs, .refl s, rfl⟩, ⟨by simp [Classification.parts], by simp [Classification.parts]⟩,
      by simp, hheld⟩
  | ⟨tag, type, .singleton valueless⟩ :: vs, hg, hs, hb, hheld, h => by
    unfold planVariants at h
    obtain ⟨⟨ps, held₁, s₁⟩, hrest, h⟩ := bind_eq_ok.1 h
    cases h
    have hparts := parts_sum_cons ⟨tag, type, .singleton valueless⟩ vs
    have first : Filled c opens s s s.order (.sum [⟨tag, type, .singleton valueless⟩]) [.fixed]
        [] :=
      ⟨⟨hs, .refl s, rfl⟩, .of_part rfl nofun fun _ => rfl,
        by simp [ChildFactory.mentions, ChildFactory.type, FactoryType.generatedNames], by simp⟩
    have rest := planVariants_outcome vs hg hs (hb.split hparts).2 hheld hrest
    cases valueless <;> exact first.cons rest hparts
  | ⟨tag, type, .product style members⟩ :: vs, hg, hs, hb, hheld, h => by
    rw [planVariants_product] at h
    obtain ⟨⟨p, s₁⟩, hplan, h⟩ := bind_eq_ok.1 h
    obtain ⟨held₁, hhold, h⟩ := bind_eq_ok.1 h
    obtain ⟨⟨ps, held₂, s₂⟩, hrest, h⟩ := bind_eq_ok.1 h
    cases h
    have hparts := parts_sum_cons ⟨tag, type, .product style members⟩ vs
    obtain ⟨hbv, hbvs⟩ := hb.split hparts
    have hbelow := hbv _ (Classification.mem_parts_sum.2 ⟨_, List.mem_cons_self, rfl⟩) rfl
    obtain ⟨hout, hp⟩ := planVariant_outcome hg hs hbelow hplan fun hg₁ hs₁ hb₁ =>
      planMembers_outcome style members hg₁ hs₁ hb₁ (by simp)
    have first : Filled c opens s s₁ _ (.sum [⟨tag, type, .product style members⟩])
        [p.child (Name.snake tag) .own] [] := hout.filled hp rfl rfl _ _
    have rest := planVariants_outcome vs (hout.grown.survey ▸ hg) hout.sound (hbvs.grow hout.grown)
      (first.hold hhold hheld) hrest
    rw [hout.order_eq] at rest
    exact first.cons rest hparts
  | ⟨tag, type, .primitive _⟩ :: vs, hg, hs, hb, hheld, h
  | ⟨tag, type, .enumeration _⟩ :: vs, hg, hs, hb, hheld, h
  | ⟨tag, type, .sum _⟩ :: vs, hg, hs, hb, hheld, h
  | ⟨tag, type, .external _⟩ :: vs, hg, hs, hb, hheld, h
  | ⟨tag, type, .unsupported _⟩ :: vs, hg, hs, hb, hheld, h => by
    unfold planVariants at h
    cases h

end

end Planning

end EditableFields
