import EditableFields.Generation
import EditableFields.Proofs.Planning.Plans
import EditableFields.Proofs.Source.Lines

/-!
# Planning: what is generated

Between requests nothing is under way (`Between`), and one request advances planning through what
it starts at (`planRequest_advance`). So the factories that are generated for requests are those
that the traversal of the requests' classifications goes through, once each and in that order, and
the text is made of their blocks (`generate_emits`): all that is generated is needed, and all that
generated code needs is generated.
-/

namespace EditableFields

namespace Planning

variable {c : Configuration} {s t u : Planning} {ds : List Descriptor}

/-! ## Between requests -/

/-- What holds between requests. -/
structure Between (c : Configuration) (s : Planning) : Prop where
  idle : s.survey.Idle
  grounded : Survey.Grounded s.survey.memo
  sound : Sound c [] s
  entries_named : ∀ e ∈ s.entries, ∀ n ∈ e.factory.mentions, s.Named n

/-- The two differ in claimed functions and entry points only. -/
structure Alike (s t : Planning) : Prop where
  survey : t.survey = s.survey
  plans : t.plans = s.plans
  order : t.order = s.order
  names : t.names = s.names

theorem Alike.kept (h : Alike s t) : Kept s t :=
  ⟨fun hk => h.survey ▸ hk, fun hp => h.plans ▸ hp, fun hn => h.names ▸ hn⟩

theorem Alike.trans (h : Alike s t) (h' : Alike t u) : Alike s u :=
  ⟨h'.survey.trans h.survey, h'.plans.trans h.plans, h'.order.trans h.order,
    h'.names.trans h.names⟩

theorem alike_addEntry (s : Planning) (e : Entry) : Alike s (s.addEntry e) :=
  ⟨rfl, rfl, rfl, rfl⟩

theorem claimFunction_ok {scope name : String} (h : s.claimFunction scope name = .ok t) :
    Alike s t ∧ t.entries = s.entries := by
  unfold claimFunction at h
  split at h
  · cases h
  · cases h
    exact ⟨⟨rfl, rfl, rfl, rfl⟩, rfl⟩

theorem Between.of_alike (hb : Between c s) (h : Alike s t)
    (hentries : ∀ e ∈ t.entries, ∀ n ∈ e.factory.mentions, t.Named n) : Between c t where
  idle := h.survey ▸ hb.idle
  grounded := h.survey ▸ hb.grounded
  sound := hb.sound.keep h.kept h.order h.plans
  entries_named := hentries

theorem Between.claimFunction {scope name : String} (hb : Between c s)
    (h : s.claimFunction scope name = .ok t) : Between c t := by
  obtain ⟨halike, hentries⟩ := claimFunction_ok h
  refine hb.of_alike halike fun e he n hn => ?_
  rw [hentries] at he
  exact (hb.entries_named e he n hn).keep halike.kept

theorem Between.addEntry (hb : Between c s) {e : Entry}
    (he : ∀ n ∈ e.factory.mentions, s.Named n) : Between c (s.addEntry e) := by
  refine hb.of_alike (alike_addEntry s e) fun e' he' n hn => ?_
  refine Named.keep ?_ (alike_addEntry s e).kept
  rcases List.mem_append.1 he' with he' | he'
  · exact hb.entries_named e' he' n hn
  · cases List.mem_singleton.1 he'
    exact he n hn

/-- What was planned for one request leaves nothing under way. -/
theorem Outcome.between {order : List String} (h : Outcome c [] s t order) (hb : Between c s) :
    Between c t where
  idle := h.grown.survey ▸ hb.idle
  grounded := h.grown.survey ▸ hb.grounded
  sound := h.sound
  entries_named e he n hn :=
    (hb.entries_named e (h.grown.entries ▸ he) n hn).keep h.grown.kept

/-- Nothing is under way after a subject is classified, so all is found before that. -/
theorem Between.classify (hb : Between c s) {n : String} {d : Descriptor}
    (hget : (Catalog.ofList ds).get? n = some d) :
    Between c { s with survey := (s.survey.classify (.ofList ds) d).2 } ∧
      Kept s { s with survey := (s.survey.classify (.ofList ds) d).2 } ∧
      Below { s with survey := (s.survey.classify (.ofList ds) d).2 } [] n
        (s.survey.classify (.ofList ds) d).1 := by
  obtain ⟨hidle, hext, hmemo⟩ := Survey.Idle.classify hb.idle d
  have hkept : Kept s { s with survey := (s.survey.classify (.ofList ds) d).2 } :=
    ⟨fun hk => hext.memoized hk, id, id⟩
  refine ⟨⟨hidle, hb.idle.grounded_classify hb.grounded (.of_get? hget),
    hb.sound.keep hkept rfl rfl, ?_⟩, hkept, ?_, by simp⟩
  · exact fun e he n hn => (hb.entries_named e he n hn).keep hkept
  · rwa [Catalog.get?_ofList_name hget] at hmemo

/-! ## One request -/

/-- Planning went on from `s` to `t` through classifications that are started at. -/
structure Advance (c : Configuration) (s t : Planning) (trees : List (String × Classification)) :
    Prop where
  between : Between c t
  kept : Kept s t
  order_eq : t.order = trees.foldl (fun seen tree => visit tree.1 tree.2 seen) s.order
  started : ∀ tree ∈ trees, t.survey.memoized tree.1 = some tree.2 ∧ tree.2.isSupported ∧
    (tree.2.isComposite → t.Planned tree.1)

theorem Advance.trans {trees trees' : List (String × Classification)} (h : Advance c s t trees)
    (h' : Advance c t u trees') : Advance c s u (trees ++ trees') where
  between := h'.between
  kept := h.kept.trans h'.kept
  order_eq := by rw [h'.order_eq, h.order_eq, List.foldl_append]
  started tree htree := by
    rcases List.mem_append.1 htree with htree | htree
    · obtain ⟨hm, hs, hp⟩ := h.started tree htree
      exact ⟨h'.kept.memoized hm, hs, fun hc => (hp hc).keep h'.kept⟩
    · exact h'.started tree htree

/-- A subject is classified, its plans are made, and all else is claims and an entry point. -/
theorem Outcome.advance {n : String} {k : Classification}
    (hout : Outcome c [] t u (visit n k t.order)) (hkept : Kept s t) (horder : t.order = s.order)
    (hbelow : Below t [] n k) (hk : k.isSupported) (hplanned : k.isComposite → u.Planned n)
    {v : Planning} (halike : Alike u v) (hb : Between c v) : Advance c s v [(n, k)] where
  between := hb
  kept := hkept.trans (hout.grown.kept.trans halike.kept)
  order_eq := by rw [halike.order, hout.order_eq, horder]; rfl
  started tree htree := by
    cases List.mem_singleton.1 htree
    exact ⟨halike.kept.memoized (hout.grown.kept.memoized hbelow.memoized), hk,
      fun hc => (hplanned hc).keep halike.kept⟩

theorem claimFunction_eq_ok_iff {scope name : String} :
    s.claimFunction scope name = .ok t ↔
      (scope, name) ∉ s.functions ∧ t = { s with functions := (scope, name) :: s.functions } := by
  unfold claimFunction
  split
  · rename_i hmem
    simp [List.contains_iff_mem.1 hmem]
  · rename_i hmem
    simp [mt List.contains_iff_mem.2 hmem, eq_comm]

/-- A factory is planned for a subject with a companion that is not refused. -/
theorem planFactory_eq_ok_iff {catalog : Catalog} {r : Request} {d : Descriptor} :
    planFactory c catalog r d s = .ok t ↔
      companionOf r.type d = .ok true ∧ (s.survey.classify catalog d).1.isSupported ∧
      ∃ p u v, planType c r.type (s.survey.classify catalog d).1
          { s with survey := (s.survey.classify catalog d).2 } = .ok (p, u) ∧
        u.claimFunction r.type (c.nameCase.entryName r.type r.function r.autoLabel).function =
          .ok v ∧
        t = v.addEntry ⟨.factory, r.type, c.nameCase.entryName r.type r.function r.autoLabel,
          .plain r.type, p.child (Name.snake (Name.simple r.type)) .parameter⟩ := by
  unfold planFactory
  constructor
  · intro h
    obtain ⟨companion, hcompanion, h⟩ := bind_eq_ok.1 h
    cases companion with
    | false => cases h
    | true =>
      dsimp only at h
      split at h
      · cases h
      · split at h
        · cases h
        · rename_i hk
          obtain ⟨⟨p, u⟩, hplan, h⟩ := bind_eq_ok.1 h
          obtain ⟨v, hclaim, h⟩ := bind_eq_ok.1 h
          cases h
          exact ⟨hcompanion, isSupported_of_ne hk, p, u, v, hplan, hclaim, rfl⟩
  · rintro ⟨hcompanion, hk, p, u, v, hplan, hclaim, rfl⟩
    refine bind_eq_ok.2 ⟨true, hcompanion, ?_⟩
    dsimp only
    split
    · contradiction
    · split
      · rename_i heq
        rw [heq] at hk
        cases hk
      · exact bind_eq_ok.2 ⟨(p, u), hplan, bind_eq_ok.2 ⟨v, hclaim, rfl⟩⟩

/-- A field is planned for a subject that is not refused. -/
theorem planField_eq_ok_iff {catalog : Catalog} {r : Request} {d : Descriptor} :
    planField c catalog r d s = .ok t ↔
      (subjectOf catalog r d s.survey).1.classification.isSupported ∧ ∃ s₁ factory u,
        claimFunction { s with survey := (subjectOf catalog r d s.survey).2 } ""
          (c.nameCase.entryName r.type r.function r.autoLabel).function = .ok s₁ ∧
        memberFactory c r.type .parameter (subjectOf catalog r d s.survey).1 s₁ =
          .ok (factory, u) ∧
        t = u.addEntry ⟨.field, r.type, c.nameCase.entryName r.type r.function r.autoLabel,
          (subjectOf catalog r d s.survey).1.value, factory⟩ := by
  unfold planField
  constructor
  · intro h
    dsimp only at h
    split at h
    · cases h
    · rename_i hk
      obtain ⟨s₁, hclaim, h⟩ := bind_eq_ok.1 h
      obtain ⟨⟨factory, u⟩, hfactory, h⟩ := bind_eq_ok.1 h
      cases h
      exact ⟨isSupported_of_ne hk, s₁, factory, u, hclaim, hfactory, rfl⟩
  · rintro ⟨hk, s₁, factory, u, hclaim, hfactory, rfl⟩
    dsimp only
    split
    · rename_i heq
      rw [heq] at hk
      cases hk
    · exact bind_eq_ok.2 ⟨s₁, hclaim, bind_eq_ok.2 ⟨(factory, u), hfactory, rfl⟩⟩

theorem planFactory_ok {catalog : Catalog} {r : Request} {d : Descriptor}
    (h : planFactory c catalog r d s = .ok t) :
    (s.survey.classify catalog d).1.isSupported ∧ ∃ p u v e,
      planType c r.type (s.survey.classify catalog d).1
        { s with survey := (s.survey.classify catalog d).2 } = .ok (p, u) ∧
      u.claimFunction r.type (c.nameCase.entryName r.type r.function r.autoLabel).function = .ok v ∧
      e.factory = p.child (Name.snake (Name.simple r.type)) .parameter ∧ e.subject = r.type ∧
      e.value = .plain r.type ∧ t = v.addEntry e := by
  obtain ⟨-, hk, p, u, v, hplan, hclaim, rfl⟩ := planFactory_eq_ok_iff.1 h
  exact ⟨hk, p, u, v, _, hplan, hclaim, rfl, rfl, rfl, rfl⟩

theorem planField_ok {catalog : Catalog} {r : Request} {d : Descriptor}
    (h : planField c catalog r d s = .ok t) :
    (subjectOf catalog r d s.survey).1.classification.isSupported ∧ ∃ s₁ factory u e,
      claimFunction { s with survey := (subjectOf catalog r d s.survey).2 } ""
        (c.nameCase.entryName r.type r.function r.autoLabel).function = .ok s₁ ∧
      memberFactory c r.type .parameter (subjectOf catalog r d s.survey).1 s₁ = .ok (factory, u) ∧
      e.factory = factory ∧ e.subject = r.type ∧
      e.value = (subjectOf catalog r d s.survey).1.value ∧ t = u.addEntry e := by
  obtain ⟨hk, s₁, factory, u, hclaim, hfactory, rfl⟩ := planField_eq_ok_iff.1 h
  exact ⟨hk, s₁, factory, u, _, hclaim, hfactory, rfl, rfl, rfl, rfl⟩

/-- A request for a factory advances through the classification of its subject. -/
theorem planFactory_advance (hb : Between c s) {r : Request} {d : Descriptor}
    (hget : (Catalog.ofList ds).get? r.type = some d)
    (h : planFactory c (.ofList ds) r d s = .ok t) :
    Advance c s t [(r.type, (s.survey.classify (.ofList ds) d).1)] ∧
      t.survey = (s.survey.classify (.ofList ds) d).2 := by
  obtain ⟨hb₁, hkept, hbelow⟩ := hb.classify hget
  obtain ⟨hk, p, u, v, e, hplan, hclaim, he, -, -, rfl⟩ := planFactory_ok h
  obtain ⟨hout, hp⟩ := planType_outcome _ hb₁.grounded hb₁.sound hbelow hplan
  have halike := (claimFunction_ok hclaim).1
  have halike' := halike.trans (alike_addEntry v e)
  have hbetween : Between c (v.addEntry e) := by
    refine ((hout.between hb₁).claimFunction hclaim).addEntry fun n hn => ?_
    rw [he, Plan.mentions_child, List.mem_singleton] at hn
    exact ⟨r.type, p, halike.kept.plans hp, hn.symm⟩
  exact ⟨hout.advance hkept rfl hbelow hk (fun _ => ⟨p, hp⟩) halike' hbetween,
    halike'.survey.trans hout.grown.survey⟩

/-- A request for a field of a value wrapper advances through nothing. -/
theorem planField_advance_wrapper (hb : Between c s) {r : Request} {d : Descriptor}
    {w : ValueWrapper} (hw : d.valueWrapper? = some w)
    (h : planField c (.ofList ds) r d s = .ok t) :
    Advance c s t [] ∧ t.survey = s.survey := by
  obtain ⟨-, s₁, factory, u, e, hclaim, hfactory, he, -, -, rfl⟩ := planField_ok h
  simp only [subjectOf, hw] at hclaim hfactory
  have hb₁ := hb.claimFunction hclaim
  have halike := (claimFunction_ok hclaim).1
  have hfill := memberFactory_outcome .named _ hb₁.grounded hb₁.sound
    (by simp [PartsBelow, Classification.parts]) hfactory
  have hadd := alike_addEntry u e
  refine ⟨⟨?_, halike.kept.trans (hfill.grown.kept.trans hadd.kept), ?_, by simp⟩, ?_⟩
  · exact (hfill.between hb₁).addEntry (he ▸ hfill.children_named factory (by simp))
  · rw [hadd.order, hfill.order_eq, halike.order]
    rfl
  · rw [hadd.survey, hfill.grown.survey, halike.survey]

/-- A request for a field of any other type advances through its classification. -/
theorem planField_advance (hb : Between c s) {r : Request} {d : Descriptor}
    (hget : (Catalog.ofList ds).get? r.type = some d) (hw : d.valueWrapper? = none)
    (h : planField c (.ofList ds) r d s = .ok t) :
    Advance c s t [(r.type, (s.survey.classify (.ofList ds) d).1)] ∧
      t.survey = (s.survey.classify (.ofList ds) d).2 := by
  obtain ⟨hb₁, hkept, hbelow⟩ := hb.classify hget
  obtain ⟨hk, s₁, factory, u, e, hclaim, hfactory, he, -, -, rfl⟩ := planField_ok h
  simp only [subjectOf, hw] at hk hclaim hfactory
  have hb₂ := hb₁.claimFunction hclaim
  have halike := (claimFunction_ok hclaim).1
  have hbelow₂ : Below s₁ [] r.type (s.survey.classify (.ofList ds) d).1 :=
    ⟨halike.kept.memoized hbelow.memoized, by simp⟩
  have hfill := memberFactory_outcome .named _ hb₂.grounded hb₂.sound (fun part hp _ => by
    obtain ⟨m, hm, -, rfl⟩ := Classification.mem_parts_product.1 hp
    cases List.mem_singleton.1 hm
    exact hbelow₂) hfactory
  have hadd := alike_addEntry u e
  have hbetween := (hfill.between hb₂).addEntry (he ▸ hfill.children_named factory (by simp))
  have hout : Outcome c [] s₁ u (visit r.type (s.survey.classify (.ofList ds) d).1 s₁.order) :=
    hfill.toOutcome
  refine ⟨hout.advance (hkept.trans halike.kept) halike.order hbelow₂ hk (fun hc => ?_) hadd
    hbetween, ?_⟩
  · exact hfill.provided.planned _
      (Classification.mem_parts_product.2 ⟨_, List.mem_singleton_self _, rfl, rfl⟩) hc
  · rw [hadd.survey, hfill.grown.survey, halike.survey]

/-- One request advances through what it starts at. -/
theorem planRequest_advance (hb : Between c s) {r : Request}
    (h : planRequest c (.ofList ds) r s = .ok t) :
    Advance c s t (startOf (.ofList ds) r s.survey).1 ∧
      t.survey = (startOf (.ofList ds) r s.survey).2 := by
  unfold planRequest at h
  unfold startOf
  cases hget : (Catalog.ofList ds).get? r.type with
  | none => simp [hget] at h
  | some d =>
    simp only [hget] at h ⊢
    cases hdir : r.directive with
    | factory =>
      simp only [hdir] at h ⊢
      simpa using planFactory_advance hb hget h
    | field =>
      simp only [hdir] at h ⊢
      cases hw : d.valueWrapper? with
      | some w => simpa using planField_advance_wrapper hb hw h
      | none => simpa using planField_advance hb hget hw h

/-! ## All requests -/

theorem between_fresh (c : Configuration) : Between c fresh where
  idle := ⟨Survey.coherent_fresh, rfl⟩
  grounded := .nil
  sound := ⟨List.nodup_nil, by simp [fresh, Planned], by simp, by simp [fresh]⟩
  entries_named := by simp [fresh]

theorem planRequests_advance {rs : List Request} (hb : Between c s)
    (h : planRequests c (.ofList ds) rs s = .ok t) :
    Advance c s t (requestTrees (.ofList ds) rs s.survey) := by
  induction rs generalizing s with
  | nil =>
    cases h
    exact ⟨hb, ⟨id, id, id⟩, rfl, by simp [requestTrees]⟩
  | cons r rs ih =>
    obtain ⟨u, hr, hrs⟩ := bind_eq_ok.1 h
    obtain ⟨hadvance, hsurvey⟩ := planRequest_advance hb hr
    have rest := ih hadvance.between hrs
    rw [hsurvey] at rest
    exact hadvance.trans rest

/-! ## What is generated -/

/-- What is planned to be generated for requests. -/
structure Emits (catalog : Catalog) (requests : List Request) (s : Planning) : Prop where
  /-- The plans are those of the traversal, in its order. -/
  traversal : s.inOrder.map (·.key) = visitAll (requestTrees catalog requests .fresh)
  /-- No plan is generated twice. -/
  once : (s.inOrder.map (·.key)).Nodup
  /-- No two factories have one name. -/
  distinct : (s.inOrder.map (·.name)).Nodup
  /-- Each factory that a generated factory needs is generated. -/
  closed : ∀ p ∈ s.inOrder, ∀ n ∈ p.mentions, ∃ q ∈ s.inOrder, q.name = n
  /-- Each factory that an entry point needs is generated. -/
  entries_closed : ∀ e ∈ s.entries, ∀ n ∈ e.factory.mentions, ∃ q ∈ s.inOrder, q.name = n
  /-- The types of the plans are those that can be reached from what requests start at. -/
  needed : ∀ n, n ∈ s.inOrder.map (·.key) ↔
    ∃ tree ∈ requestTrees catalog requests .fresh, LeadsTo tree n

theorem Between.planned_of_mem (hb : Between c s) {key : String} (h : key ∈ s.order) :
    ∃ p, s.plans.lookup key = some p ∧ p.key = key := by
  obtain ⟨p, hp⟩ := ((hb.sound.mem_order key).1 h).resolve_left List.not_mem_nil
  exact ⟨p, hp, (hb.sound.finished key p hp).key_eq⟩

theorem Between.map_key_inOrder (hb : Between c s) : s.inOrder.map (·.key) = s.order := by
  suffices all : ∀ keys, keys ⊆ s.order →
      (keys.filterMap fun key => s.plans.lookup key).map (·.key) = keys from
    all s.order (List.Subset.refl _)
  intro keys hkeys
  induction keys with
  | nil => rfl
  | cons key keys ih =>
    obtain ⟨p, hp, hkey⟩ := hb.planned_of_mem (hkeys List.mem_cons_self)
    have rest := ih fun m hm => hkeys (List.mem_cons_of_mem _ hm)
    simp [hp, hkey, rest]

theorem Between.mem_inOrder (hb : Between c s) {p : Plan} :
    p ∈ s.inOrder ↔ s.plans.lookup p.key = some p := by
  simp only [inOrder, List.mem_filterMap]
  constructor
  · rintro ⟨key, -, hp⟩
    rwa [(hb.sound.finished key p hp).key_eq]
  · exact fun hp => ⟨p.key, (hb.sound.mem_order _).2 (.inr ⟨p, hp⟩), hp⟩

theorem Between.exists_of_named (hb : Between c s) {n : String} (h : s.Named n) :
    ∃ q ∈ s.inOrder, q.name = n := by
  obtain ⟨key, q, hq, hn⟩ := h
  refine ⟨q, hb.mem_inOrder.2 ?_, hn⟩
  rwa [(hb.sound.finished key q hq).key_eq]

/-- A factory name was claimed for one key, so it tells which plan it is. -/
theorem Between.nodup_names (hb : Between c s) : (s.inOrder.map (·.name)).Nodup := by
  have keys : (s.inOrder.map (·.key)).Nodup := hb.map_key_inOrder ▸ hb.sound.order_nodup
  refine (List.Nodup.of_map _ keys).map_on fun p hp q hq hname => ?_
  have hp' := hb.mem_inOrder.1 hp
  have hq' := hb.mem_inOrder.1 hq
  have claimed := (hb.sound.finished _ p hp').claimed
  rw [hname, (hb.sound.finished _ q hq').claimed, Option.some_inj] at claimed
  rw [← claimed, hq', Option.some_inj] at hp'
  exact hp'.symm

/-- What can be reached from a planned classification is planned. -/
theorem Between.planned_of_leads (hb : Between c s) {a b : String × Classification}
    (ha : s.survey.memoized a.1 = some a.2 ∧ s.Planned a.1)
    (hab : Relation.ReflTransGen Leads a b) :
    s.survey.memoized b.1 = some b.2 ∧ s.Planned b.1 := by
  induction hab with
  | refl => exact ha
  | @tail b d _ hbd ih =>
    -- The plan was made from what is in the memory, which is the classification on the way.
    obtain ⟨hmemo, p, hp⟩ := ih
    obtain ⟨k, hk, -, hprovided⟩ := (hb.sound.finished _ p hp).found
    rw [hmemo, Option.some_inj] at hk
    obtain ⟨hpart, hcomposite⟩ := hbd.mem_parts
    have hpart' := hb.grounded.part hmemo hpart (isSupported_of_isComposite hcomposite)
    exact ⟨hpart'.1, hprovided.planned d (hk ▸ hpart) hcomposite⟩

/-- A text of generated code declares a public factory of a name, without a body or with one. -/
def DeclaresFactory (text name : String) : Prop :=
  ∃ tail ∈ [";\n", " \x7b\n"], ("pub struct " ++ name ++ tail).toList <:+: text.toList

/-- Where the factory of a plan is declared among the lines about it. -/
theorem exists_declaration_mem_lines (c : Configuration) (p : Plan) :
    ∃ tail ∈ [";", " \x7b"], .code 0 ("pub struct " ++ p.name ++ tail) ∈ p.lines c := by
  by_cases hheld : p.held.isEmpty = true
  · exact ⟨";", by simp, by simp [Plan.lines, Plan.declaration, hheld]⟩
  · exact ⟨" \x7b", by simp, by simp [Plan.lines, Plan.declaration, hheld]⟩

theorem declaresFactory_source (c : Configuration) {p : Plan} (hp : p ∈ s.inOrder) :
    DeclaresFactory (s.source c) p.name := by
  obtain ⟨tail, htail, hline⟩ := exists_declaration_mem_lines c p
  have written : .code 0 ("pub struct " ++ p.name ++ tail) ∈ s.lines c := by
    simp only [lines, List.mem_append, List.mem_flatMap]
    exact .inl (.inr ⟨p, hp, List.mem_cons_of_mem _ hline⟩)
  have declared := code_infix_renderLines written c.docs
  rw [String.append_assoc] at declared
  refine ⟨tail ++ "\n", ?_, declared⟩
  simp only [List.mem_cons, List.not_mem_nil, or_false] at htail
  rcases htail with rfl | rfl <;> decide

/-- The factories generated for requests are those that the traversal of the classifications of the
requests goes through, once each and in that order. The text is made of them and of the entry points
in their orders, and declares each of the factories. -/
theorem generate_emits {requests : List Request} {text : String}
    (h : (Catalog.ofList ds).generate c requests = .ok text) :
    ∃ s, planRequests c (.ofList ds) requests .fresh = .ok s ∧ text = s.source c ∧
      text = assembled c s.inOrder s.entries ∧ (∀ p ∈ s.inOrder, DeclaresFactory text p.name) ∧
      Emits (.ofList ds) requests s := by
  obtain ⟨s, hs, htext⟩ := bind_eq_ok.1 h
  cases htext
  have advance := planRequests_advance (between_fresh c) hs
  have hb := advance.between
  have keys := hb.map_key_inOrder
  have order : s.order = visitAll (requestTrees (.ofList ds) requests .fresh) := advance.order_eq
  refine ⟨s, hs, rfl, source_eq_assembled c s, fun p hp => declaresFactory_source c hp, ?_⟩
  exact
    { traversal := keys.trans order
      once := keys ▸ hb.sound.order_nodup
      distinct := hb.nodup_names
      closed := fun p hp n hn =>
        hb.exists_of_named ((hb.sound.finished _ p (hb.mem_inOrder.1 hp)).mentions n hn)
      entries_closed := fun e he n hn => hb.exists_of_named (hb.entries_named e he n hn)
      needed := fun n => by
        rw [keys]
        constructor
        · exact fun hn => mem_visitAll (order ▸ hn)
        · rintro ⟨tree, htree, hcomposite, k, hk⟩
          obtain ⟨hmemo, -, hplanned⟩ := advance.started tree htree
          have := hb.planned_of_leads ⟨hmemo, hplanned hcomposite⟩ hk
          exact (hb.sound.mem_order n).2 (.inr this.2) }

/-- An order, with a type that two others share, a sum, and a value wrapper. -/
def shop : List Descriptor :=
  [.product "Order" ⟨[⟨"customer", "Customer", false⟩, ⟨"payment", "Payment", true⟩,
      ⟨"total", "Money", false⟩], .named, true, false⟩,
    .product "Customer" ⟨[⟨"home", "Address", false⟩], .named, true, false⟩,
    .sum "Payment" [.product "Payment::Card" ⟨[⟨"0", "Address", false⟩], .positional, true, false⟩,
      .singleton "Payment::Cash" true] true,
    .product "Address" ⟨[⟨"street", "String", false⟩], .named, true, false⟩,
    .product "Money" ⟨[⟨"0", "i64", false⟩], .positional, true, true⟩]

/-- Entry points for an order, a payment, and an amount of money. -/
def shopRequests : List Request :=
  [.plain .factory "Order", .plain .field "Payment", .plain .field "Money"]

theorem exists_generate_shop :
    ∃ text, (Catalog.ofList shop).generate .standard shopRequests = .ok text :=
  exists_eq_ok_of_isOk (by decide +kernel)

/-- The factories for an order: the address comes after the customer, and comes once. -/
theorem generate_emits_shop :
    visitAll (requestTrees (.ofList shop) shopRequests .fresh) =
        ["Order", "Customer", "Address", "Payment", "Payment::Card"] ∧
      ∃ text, (Catalog.ofList shop).generate .standard shopRequests = .ok text ∧
        ∃ s, planRequests .standard (.ofList shop) shopRequests .fresh = .ok s ∧
          text = s.source .standard ∧ text = assembled .standard s.inOrder s.entries ∧
          (∀ p ∈ s.inOrder, DeclaresFactory text p.name) ∧ Emits (.ofList shop) shopRequests s := by
  obtain ⟨text, h⟩ := exists_generate_shop
  exact ⟨by decide +kernel, text, h, generate_emits h⟩

end Planning

end EditableFields
