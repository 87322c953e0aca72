import EditableFields.Proofs.Planning.Traversal
import EditableFields.Proofs.Result
import EditableFields.Proofs.Survey.Grounded

/-!
# Planning: what holds at every moment

While plans are under way, their keys are in the order already but not among the finished plans
(`Sound`); every finished plan mentions finished plans only and has all it is made of finished
(`Finished`). Starting a plan, holding a factory and finishing a plan keep this (`Sound.start`,
`hold_named`, `Sound.finish`), and nothing that was collected is lost (`Grown`).
-/

namespace EditableFields

/-! ## Parts -/

theorem Leads.mem_parts {a b : String × Classification} (h : Leads a b) :
    b ∈ a.2.parts ∧ b.2.isComposite := by
  cases h with
  | member hm hw hc => exact ⟨Classification.mem_parts_product.2 ⟨_, hm, hw, rfl⟩, hc⟩
  | variant hv hk =>
    exact ⟨Classification.mem_parts_sum.2 ⟨_, hv, rfl⟩, by simp [hk, Classification.isComposite]⟩

theorem isComposite_of_mem_parts {k : Classification} {p : String × Classification}
    (h : p ∈ k.parts) : k.isComposite := by
  cases k with
  | product | sum => rfl
  | primitive | enumeration | singleton | external | unsupported =>
    simp [Classification.parts] at h

/-! ## What generated code mentions -/

/-- Names of the generated factories in the type of a factory. -/
def FactoryType.generatedNames : FactoryType → List String
  | optional inner _ => inner.generatedNames
  | transform inner _ _ => inner.generatedNames
  | generated name => [name]
  | _ => []

/-- Names of the generated factories that a child needs. -/
def ChildFactory.mentions (child : ChildFactory) : List String :=
  child.type.generatedNames

/-- Factories of members, or of variants. -/
def PlanBody.children : PlanBody → List ChildFactory
  | product _ _ members _ => members.map (·.factory)
  | sum variants => variants.map (·.factory)

/-- Names of the generated factories that a plan needs, for its children and as what it holds. -/
def Plan.mentions (p : Plan) : List String :=
  p.body.children.flatMap (·.mentions) ++ p.held.flatMap (·.type.generatedNames)

/-- What has to be held for a child is needed for the child. -/
theorem ChildFactory.generatedNames_held {child : ChildFactory} {h : HeldFactory}
    (hh : child.held? = some h) : h.type.generatedNames ⊆ child.mentions := by
  induction child with
  | held receiver factory =>
    cases hh
    exact List.Subset.refl _
  | optional inner _ _ ih => exact ih hh
  | leaf | choice | fixed | wrapper | external | unit => cases hh

theorem Plan.mentions_child (p : Plan) (field : String) (receiver : Receiver) :
    (p.child field receiver).mentions = [p.name] := by
  unfold Plan.child
  split <;> rfl

namespace Planning

/-! ## The invariant -/

variable {c : Configuration} {opens : List String} {s t u : Planning} {key name n : String}
  {k : Classification} {p : Plan}

/-- The plan of a key is finished. -/
def Planned (s : Planning) (key : String) : Prop :=
  ∃ p, s.plans.lookup key = some p

/-- The plan of a factory name is finished. -/
def Named (s : Planning) (n : String) : Prop :=
  ∃ key p, s.plans.lookup key = some p ∧ p.name = n

/-- What a classification is made of is planned, as far as it needs plans, and is never refused
unless that is tolerated. -/
structure Provided (c : Configuration) (s : Planning) (k : Classification) : Prop where
  planned : ∀ part ∈ k.parts, part.2.isComposite → s.Planned part.1
  strict : c.tolerant = false → ∀ part ∈ k.parts, part.2.isSupported

/-- A finished plan. -/
structure Finished (c : Configuration) (s : Planning) (key : String) (p : Plan) : Prop where
  key_eq : p.key = key
  claimed : s.names.lookup p.name = some key
  mentions : ∀ n ∈ p.mentions, s.Named n
  found : ∃ k, s.survey.memoized key = some k ∧ k.isComposite ∧ Provided c s k

/-- What holds while the plans of `opens` are under way. -/
structure Sound (c : Configuration) (opens : List String) (s : Planning) : Prop where
  order_nodup : s.order.Nodup
  mem_order : ∀ key, key ∈ s.order ↔ key ∈ opens ∨ s.Planned key
  opens_unplanned : ∀ key ∈ opens, ¬ s.Planned key
  finished : ∀ key p, s.plans.lookup key = some p → Finished c s key p

/-- What was collected in `s` is kept in `t`. -/
structure Kept (s t : Planning) : Prop where
  memoized : ∀ {n k}, s.survey.memoized n = some k → t.survey.memoized n = some k
  plans : ∀ {key p}, s.plans.lookup key = some p → t.plans.lookup key = some p
  names : ∀ {n key}, s.names.lookup n = some key → t.names.lookup n = some key

theorem Kept.trans (h : Kept s t) (h' : Kept t u) : Kept s u :=
  ⟨fun hk => h'.memoized (h.memoized hk), fun hp => h'.plans (h.plans hp),
    fun hn => h'.names (h.names hn)⟩

theorem Planned.keep (h : s.Planned key) (hk : Kept s t) : t.Planned key :=
  h.imp fun _ => hk.plans

theorem Named.keep (h : s.Named n) (hk : Kept s t) : t.Named n :=
  let ⟨key, p, hp, hn⟩ := h
  ⟨key, p, hk.plans hp, hn⟩

theorem Provided.keep (h : Provided c s k) (hk : Kept s t) : Provided c t k :=
  ⟨fun part hp hc => (h.planned part hp hc).keep hk, h.strict⟩

theorem Finished.keep (h : Finished c s key p) (hk : Kept s t) : Finished c t key p where
  key_eq := h.key_eq
  claimed := hk.names h.claimed
  mentions n hn := (h.mentions n hn).keep hk
  found :=
    let ⟨k, hm, hc, hp⟩ := h.found
    ⟨k, hk.memoized hm, hc, hp.keep hk⟩

/-- What a sound planning relies on is in the order, the plans, and what is kept. -/
theorem Sound.keep (h : Sound c opens s) (hk : Kept s t) (horder : t.order = s.order)
    (hplans : t.plans = s.plans) : Sound c opens t where
  order_nodup := horder ▸ h.order_nodup
  mem_order m := by rw [horder, h.mem_order, Planned, Planned, hplans]
  opens_unplanned m hm := by
    rw [Planned, hplans]
    exact h.opens_unplanned m hm
  finished m p hp := (h.finished m p (hplans ▸ hp)).keep hk

/-- Planning went on from `s` to `t` for one request: nothing else was classified. -/
structure Grown (s t : Planning) : Prop where
  survey : t.survey = s.survey
  plans : ∀ {key p}, s.plans.lookup key = some p → t.plans.lookup key = some p
  names : ∀ {n key}, s.names.lookup n = some key → t.names.lookup n = some key
  entries : t.entries = s.entries

theorem Grown.refl (s : Planning) : Grown s s := ⟨rfl, id, id, rfl⟩

theorem Grown.trans (h : Grown s t) (h' : Grown t u) : Grown s u :=
  ⟨h'.survey.trans h.survey, fun hp => h'.plans (h.plans hp), fun hn => h'.names (h.names hn),
    h'.entries.trans h.entries⟩

theorem Grown.kept (h : Grown s t) : Kept s t :=
  ⟨fun hk => h.survey ▸ hk, h.plans, h.names⟩

/-! ## Steps -/

theorem claimName_ok (h : s.claimName name key = .ok t) :
    Grown s t ∧ t.names.lookup name = some key ∧ t.plans = s.plans ∧ t.order = s.order := by
  unfold claimName at h
  split at h
  · rename_i first hfirst
    split at h
    · rename_i heq
      cases h
      exact ⟨.refl s, heq ▸ hfirst, rfl, rfl⟩
    · cases h
  · rename_i hnone
    cases h
    refine ⟨⟨rfl, id, fun {n key'} hn => ?_, rfl⟩, by simp, rfl, rfl⟩
    have hne : n ≠ name := fun h => by simp [← h, hn] at hnone
    simp [List.lookup_cons, beq_eq_false_iff_ne.2 hne, hn]

theorem start_ok (h : s.start name key = .ok t) :
    Grown s t ∧ t.names.lookup name = some key ∧ t.plans = s.plans ∧
      t.order = s.order ++ [key] := by
  unfold start at h
  obtain ⟨s', hs', hret⟩ := bind_eq_ok.1 h
  obtain ⟨hgrown, hname, hplans, horder⟩ := claimName_ok hs'
  cases hret
  refine ⟨?_, hname, hplans, by simp [horder]⟩
  exact ⟨hgrown.survey, hgrown.plans, hgrown.names, hgrown.entries⟩

/-- A plan is started for a key that has none yet. -/
theorem Sound.start (h : Sound c opens s) (hstart : s.start name key = .ok t)
    (hopen : key ∉ opens) (hnew : ¬ s.Planned key) : Sound c (key :: opens) t := by
  obtain ⟨hgrown, -, hplans, horder⟩ := start_ok hstart
  have same : ∀ m, t.Planned m ↔ s.Planned m := fun m => by rw [Planned, hplans, Planned]
  refine ⟨?_, fun m => ?_, fun m hm => ?_, fun m p hp => ?_⟩
  · rw [horder]
    -- The order holds what is under way and what is planned, and the key is neither.
    have hkey : key ∉ s.order := fun hmem => ((h.mem_order key).1 hmem).elim hopen hnew
    exact List.nodup_append.2 ⟨h.order_nodup, List.nodup_singleton key, by
      rintro a ha b hb rfl
      exact hkey (List.mem_singleton.1 hb ▸ ha)⟩
  · rw [horder, same, List.mem_append, h.mem_order, List.mem_singleton, List.mem_cons]
    tauto
  · rw [same]
    rcases List.mem_cons.1 hm with rfl | hm
    · exact hnew
    · exact h.opens_unplanned m hm
  · exact (h.finished m p (hplans ▸ hp)).keep hgrown.kept

theorem lookup_finish (t : Planning) (p : Plan) (m : String) :
    (t.finish p).2.plans.lookup m = if m = p.key then some p else t.plans.lookup m := by
  simp only [finish, List.lookup_cons]
  by_cases hm : m = p.key
  · simp [hm]
  · simp [hm, beq_eq_false_iff_ne.2 hm]

theorem Grown.finish (t : Planning) (hnew : ¬ t.Planned p.key) : Grown t (t.finish p).2 where
  survey := rfl
  plans {m q} hq := by
    -- The new plan hides no other one.
    have hne : m ≠ p.key := fun h => hnew ⟨q, h ▸ hq⟩
    rw [lookup_finish, if_neg hne, hq]
  names := id
  entries := rfl

/-- A plan that is under way is finished. -/
theorem Sound.finish (h : Sound c (p.key :: opens) t) (hopen : p.key ∉ opens)
    (hp : Finished c t p.key p) : Sound c opens (t.finish p).2 := by
  have hgrown : Grown t (t.finish p).2 := .finish t (h.opens_unplanned _ List.mem_cons_self)
  have planned : ∀ m, (t.finish p).2.Planned m ↔ m = p.key ∨ t.Planned m := by
    intro m
    rw [Planned, lookup_finish]
    split <;> simp_all [Planned]
  refine ⟨h.order_nodup, fun m => ?_, fun m hm => ?_, fun m q hq => ?_⟩
  · have same : m ∈ (t.finish p).2.order ↔ m ∈ t.order := Iff.rfl
    rw [same, h.mem_order, planned, List.mem_cons]
    tauto
  · rw [planned]
    rintro (rfl | hm')
    · exact hopen hm
    · exact h.opens_unplanned m (List.mem_cons_of_mem _ hm) hm'
  · rw [lookup_finish] at hq
    split at hq
    · rename_i hm
      cases hq
      exact hm ▸ hp.keep hgrown.kept
    · exact (h.finished m q hq).keep hgrown.kept

/-- What is held, a child's factory added, only needs finished plans if the child does. -/
theorem hold_named {held held' : List HeldFactory} {child : ChildFactory}
    (hhold : hold c name held child = .ok held')
    (hheld : ∀ h ∈ held, ∀ n ∈ h.type.generatedNames, s.Named n)
    (hchild : ∀ n ∈ child.mentions, s.Named n) :
    ∀ h ∈ held', ∀ n ∈ h.type.generatedNames, s.Named n := by
  unfold hold at hhold
  split at hhold
  · cases hhold
    exact hheld
  · rename_i f hf
    split at hhold
    · cases hhold
      intro h hh
      rcases List.mem_append.1 hh with hh | hh
      · exact hheld h hh
      · cases List.mem_singleton.1 hh
        exact fun n hn => hchild n (ChildFactory.generatedNames_held hf hn)
    · split at hhold
      · cases hhold
        exact hheld
      · cases hhold

/-! ## Results -/

/-- What planning one thing comes to: it went on soundly, through all that is to be visited. -/
structure Outcome (c : Configuration) (opens : List String) (s t : Planning)
    (order : List String) : Prop where
  sound : Sound c opens t
  grown : Grown s t
  order_eq : t.order = order

/-- What planning the children of an owner comes to, which was found to be `k`. -/
structure Filled (c : Configuration) (opens : List String) (s t : Planning)
    (order : List String) (k : Classification) (children : List ChildFactory)
    (held : List HeldFactory) : Prop extends Outcome c opens s t order where
  provided : Provided c t k
  children_named : ∀ child ∈ children, ∀ n ∈ child.mentions, t.Named n
  held_named : ∀ h ∈ held, ∀ n ∈ h.type.generatedNames, t.Named n

/-- A plan is started, its children are planned, and it is finished. -/
theorem Filled.finish {order : List String} (hopen : p.key ∉ opens)
    (hstart : s.start p.name p.key = .ok t)
    (hfill : Filled c (p.key :: opens) t u order k p.body.children p.held)
    (hmemo : s.survey.memoized p.key = some k) (hk : k.isComposite) :
    Outcome c opens s (u.finish p).2 order ∧ (u.finish p).2.plans.lookup p.key = some p := by
  obtain ⟨hgrown, hname, -, -⟩ := start_ok hstart
  have hnew' : ¬ u.Planned p.key := hfill.sound.opens_unplanned _ List.mem_cons_self
  have hsurvey : u.survey = s.survey := hfill.grown.survey.trans hgrown.survey
  have finished : Finished c u p.key p := by
    refine ⟨rfl, hfill.grown.names hname, fun n hn => ?_, k, hsurvey ▸ hmemo, hk, hfill.provided⟩
    simp only [Plan.mentions, List.mem_append, List.mem_flatMap] at hn
    rcases hn with ⟨child, hchild, hn⟩ | ⟨held, hheld, hn⟩
    · exact hfill.children_named child hchild n hn
    · exact hfill.held_named held hheld n hn
  refine ⟨⟨hfill.sound.finish hopen finished, ?_, hfill.order_eq⟩, ?_⟩
  · exact hgrown.trans (hfill.grown.trans (.finish u hnew'))
  · rw [lookup_finish, if_pos rfl]

end Planning

end EditableFields
