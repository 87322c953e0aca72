import EditableFields.Proofs.Planning.Refusals
import EditableFields.Proofs.Survey.WellFormed

/-!
# Planning: what plans are drawn for

A plan is drawn for one place in a classification (`Site`): for a type that stands by itself, or
for a product among the variants of a sum. The name, the key, the type of values and the body of
the plan are given by the site alone (`Draws`), whatever else was planned.

So what holds of every plan that is drawn for some sites is kept by planning at one of them, if the
sites go on to the types of members and to variants (`planType_ends`, `planRequest_ends`). Along
with it goes the one error that is about the classification and not about names: a variant that
cannot be planned is a variant of a sum at one of the sites.
-/

namespace EditableFields

/-- Where a plan is drawn: what its type stands as, the type of the values it edits, its key, and
what the key was found to be. -/
structure Site where
  standing : Standing
  value : String
  key : String
  classification : Classification

/-- Name of the factory of a type that stands by itself, or as a variant of the sum `value`. -/
def factoryName (standing : Standing) (value key : String) : String :=
  match standing with
  | .topLevel => Name.factoryType key
  | .variant => Name.variantFactoryType value key

namespace Site

/-- The site of a type that stands by itself. -/
def ofType (type : String) (k : Classification) : Site :=
  ⟨.topLevel, type, type, k⟩

/-- The site of a variant of the sum `owner`. -/
def ofVariant (owner : String) (v : ResolvedVariant Classification) : Site :=
  ⟨.variant, owner, v.type, v.classification⟩

/-- From a site, planning goes on to the types of a product's members that have to be planned, and
to the products among a sum's variants. -/
inductive Part : Site → Site → Prop
  | member {standing value key style members m} : m ∈ members → m.wrapper = none →
      m.classification.isComposite →
      Part ⟨standing, value, key, .product style members⟩ (.ofType m.type m.classification)
  | variant {key variants v style members} : v ∈ variants →
      v.classification = .product style members →
      Part (.ofType key (.sum variants)) (.ofVariant key v)

end Site

/-- What the type of a plan stands as; only a product can be a variant. -/
def Plan.standing (p : Plan) : Standing :=
  match p.body with
  | .product _ _ _ standing => standing
  | .sum _ => .topLevel

/-- A plan is drawn for a site. -/
inductive Draws : Site → Plan → Prop
  | product {standing value key style members plans held} : plans.length = members.length →
      Draws ⟨standing, value, key, .product style members⟩
        ⟨key, factoryName standing value key, value, .product key style plans standing, held⟩
  | sum {key variants plans held} :
      Draws (.ofType key (.sum variants))
        ⟨key, Name.factoryType key, key, .sum plans, held⟩

/-- The name and the key of a plan are those of the site. -/
theorem Draws.proper {site : Site} {p : Plan} (h : Draws site p) :
    p.key = site.key ∧ p.value = site.value ∧ p.standing = site.standing ∧
      p.name = factoryName p.standing p.value p.key := by
  cases h with
  | product => exact ⟨rfl, rfl, rfl, rfl⟩
  | sum => exact ⟨rfl, rfl, rfl, rfl⟩

/-- The function that a request claims: for a factory it is attached to the subject, for a field to
nothing. -/
def Request.claim (c : Configuration) (r : Request) : String × String :=
  (match r.directive with
    | .factory => r.type
    | .field => "",
    (c.nameCase.entryName r.type r.function r.autoLabel).function)

namespace Planning

/-- A variant that cannot be planned is reported for a sum at one of the sites only. -/
def Blames (sites : Site → Prop) (e : GenerationError) : Prop :=
  ∀ variant owner kind, e = .variantNotPlannable variant owner kind →
    ∃ variants v, sites (.ofType owner (.sum variants)) ∧
      v ∈ variants ∧ ¬ v.classification.IsVariant

/-- Planning at one of the sites ends well: with a result of some kind, or with an error that
blames no other site. -/
def Ends {α : Type} (sites : Site → Prop) (P : α → Prop) : Except GenerationError α → Prop
  | .ok a => P a
  | .error e => Blames sites e

namespace Ends

variable {α β : Type} {sites : Site → Prop} {P : α → Prop} {Q : β → Prop}

theorem bind {x : Except GenerationError α} {f : α → Except GenerationError β}
    (h : Ends sites P x) (hf : ∀ a, P a → Ends sites Q (f a)) : Ends sites Q (x >>= f) := by
  cases x with
  | error e => exact h
  | ok a => exact hf a h

/-- A step that never reports a variant ends well with whatever it comes to. -/
theorem of_step {x : Except GenerationError α} (hok : ∀ a, x = .ok a → P a)
    (herror : ∀ variant owner kind, x ≠ .error (.variantNotPlannable variant owner kind)) :
    Ends sites P x := by
  cases x with
  | ok a => exact hok a rfl
  | error e =>
    rintro variant owner kind rfl
    exact absurd rfl (herror _ _ _)

end Ends

/-! ## Single steps -/

/-- Planning of types went on from `s`: nothing was classified or claimed for a request, and every
plan that was finished is good. -/
structure Keeps (Good : Plan → Prop) (s t : Planning) : Prop where
  survey_eq : t.survey = s.survey
  functions_eq : t.functions = s.functions
  plans : ∀ entry ∈ t.plans, Good entry.2

section Steps

variable {sites : Site → Prop} {Good : Plan → Prop} {c : Configuration} {s t : Planning}

theorem Keeps.finish (h : Keeps Good s t) {p : Plan} (hp : Good p) :
    Keeps Good s (t.finish p).2 :=
  ⟨h.survey_eq, h.functions_eq, List.forall_mem_cons.2 ⟨hp, h.plans⟩⟩

theorem claimName_functions {name key : String} (h : s.claimName name key = .ok t) :
    t.functions = s.functions := by
  unfold claimName at h
  split at h
  · split at h
    · cases h
      rfl
    · cases h
  · cases h
    rfl

theorem Keeps.start (h : Keeps Good s t) (name key : String) :
    Ends sites (Keeps Good s) (t.start name key) := by
  refine .of_step (fun u hu => ?_) fun _ _ _ hu => ?_
  · obtain ⟨hgrown, -, hplans, -⟩ := start_ok hu
    obtain ⟨u', hclaim, hu'⟩ := bind_eq_ok.1 hu
    cases hu'
    exact ⟨hgrown.survey.trans h.survey_eq, (claimName_functions hclaim).trans h.functions_eq,
      hplans ▸ h.plans⟩
  · obtain ⟨_, hu⟩ := start_error hu
    cases hu

theorem claimFunction_ends (s : Planning) (scope name : String) :
    Ends sites (fun t => (scope, name) ∉ s.functions ∧
      t = { s with functions := (scope, name) :: s.functions }) (s.claimFunction scope name) := by
  refine .of_step (fun t ht => claimFunction_eq_ok_iff.1 ht) fun _ _ _ ht => ?_
  cases claimFunction_error ht

theorem hold_ends (name : String) (held : List HeldFactory) (child : ChildFactory) :
    Ends sites (fun _ => True) (hold c name held child) := by
  refine .of_step (fun _ _ => trivial) fun _ _ _ h => ?_
  obtain ⟨_, _, _, h⟩ := hold_error h
  cases h

theorem obligation_ends (owner member type : String) (reason : Refusal) :
    Ends sites (fun _ => True) (obligation c owner member type reason) := by
  refine .of_step (fun _ _ => trivial) fun _ _ _ h => ?_
  cases (obligation_error h).2

end Steps

/-! ## The planner -/

/-- The sites go on to what is planned at them, and what is drawn for them is good. -/
structure Covers (sites : Site → Prop) (Good : Plan → Prop) : Prop where
  part : ∀ {a b}, sites a → Site.Part a b → sites b
  draws : ∀ {site p}, sites site → Draws site p → Good p

variable {sites : Site → Prop} {Good : Plan → Prop} {c : Configuration} {s₀ : Planning}

-- Along the recursion of the planner: what is planned inside one site is planned at its parts.
mutual

theorem planType_ends (h : Covers sites Good) (type : String) :
    ∀ (k : Classification) (s : Planning), sites (.ofType type k) → Keeps Good s₀ s →
      Ends sites (fun r => Keeps Good s₀ r.2) (planType c type k s)
  | k, s, hsite, hs => by
    unfold planType
    cases hnew : s.plans.lookup type with
    | some p => exact hs
    | none =>
      cases k with
      | product style members =>
        refine (hs.start _ type).bind fun t ht => ?_
        refine (planMembers_ends h type _ members [] t ?_ ht).bind
          fun ⟨ms, held, u⟩ ⟨hlen, hu⟩ => ?_
        · exact fun m hm hw hc => h.part hsite (.member hm hw hc)
        · exact hu.finish (h.draws hsite (.product hlen))
      | sum variants =>
        refine (hs.start _ type).bind fun t ht => ?_
        refine (planVariants_ends h type _ variants [] t hsite (List.Subset.refl _) ht).bind
          fun ⟨vs, held, u⟩ hu => ?_
        exact hu.finish (h.draws hsite .sum)
      | primitive | enumeration | singleton | external | unsupported => exact nofun

theorem memberFactory_ends (h : Covers sites Good) (owner : String) (receiver : Receiver) :
    ∀ (m : ResolvedMember Classification) (s : Planning),
      (m.wrapper = none → m.classification.isComposite →
        sites (.ofType m.type m.classification)) → Keeps Good s₀ s →
      Ends sites (fun r => Keeps Good s₀ r.2) (memberFactory c owner receiver m s)
  | ⟨name, type, nullable, wrapper, k⟩, s, hsite, hs => by
    rw [memberFactory_eq]
    have base : Ends sites (fun r => Keeps Good s₀ r.2)
        (baseFactory c owner receiver ⟨name, type, nullable, wrapper, k⟩ s) := by
      cases wrapper with
      | some w => exact hs
      | none =>
        cases k with
        | product | sum =>
          exact (planType_ends h type _ s (hsite rfl rfl) hs).bind fun _ ht => ht
        | unsupported reason => exact (obligation_ends owner name type reason).bind fun _ _ => hs
        | primitive | enumeration | singleton | external => exact hs
    refine base.bind fun ⟨factory, t⟩ ht => ?_
    dsimp only
    split <;> exact ht

theorem planMembers_ends (h : Covers sites Good) (owner name : String) :
    ∀ (members : List (ResolvedMember Classification)) (held : List HeldFactory) (s : Planning),
      (∀ m ∈ members, m.wrapper = none → m.classification.isComposite →
        sites (.ofType m.type m.classification)) → Keeps Good s₀ s →
      Ends sites (fun r => r.1.length = members.length ∧ Keeps Good s₀ r.2.2)
        (planMembers c owner name members held s)
  | [], held, s, hsites, hs => by
    unfold planMembers
    exact ⟨rfl, hs⟩
  | m :: ms, held, s, hsites, hs => by
    unfold planMembers
    obtain ⟨hm, hms⟩ := List.forall_mem_cons.1 hsites
    refine (memberFactory_ends h owner .own m s hm hs).bind fun ⟨factory, t⟩ ht => ?_
    refine (hold_ends name held factory).bind fun held' _ => ?_
    refine (planMembers_ends h owner name ms held' t hms ht).bind fun ⟨ps, _, u⟩ ⟨hlen, hu⟩ => ?_
    exact ⟨congrArg (· + 1) hlen, hu⟩

theorem planVariants_ends (h : Covers sites Good) (owner name : String)
    {all : List (ResolvedVariant Classification)} :
    ∀ (variants : List (ResolvedVariant Classification)) (held : List HeldFactory) (s : Planning),
      sites (.ofType owner (.sum all)) → variants ⊆ all → Keeps Good s₀ s →
      Ends sites (fun r => Keeps Good s₀ r.2.2) (planVariants c owner name variants held s)
  | [], held, s, hsite, hall, hs => by
    unfold planVariants
    exact hs
  | ⟨tag, type, .singleton valueless⟩ :: vs, held, s, hsite, hall, hs => by
    unfold planVariants
    exact (planVariants_ends h owner name vs held s hsite (List.cons_subset.1 hall).2 hs).bind
      fun _ ht => ht
  | ⟨tag, type, .product style members⟩ :: vs, held, s, hsite, hall, hs => by
    rw [planVariants_product]
    obtain ⟨hv, hvs⟩ := List.cons_subset.1 hall
    have hvariant : sites (.ofVariant owner ⟨tag, type, .product style members⟩) :=
      h.part hsite (.variant hv rfl)
    have planned : Ends sites (fun r => Keeps Good s₀ r.2)
        (planVariant c owner type style members s) := by
      unfold planVariant
      cases hnew : s.plans.lookup type with
      | some p => exact hs
      | none =>
        refine (hs.start _ type).bind fun t ht => ?_
        refine (planMembers_ends h type _ members [] t ?_ ht).bind
          fun ⟨ms, held, u⟩ ⟨hlen, hu⟩ => ?_
        · exact fun m hm hw hc => h.part hvariant (.member hm hw hc)
        · exact hu.finish (h.draws hvariant (.product hlen))
    refine planned.bind fun ⟨p, t⟩ ht => ?_
    refine (hold_ends name held _).bind fun held' _ => ?_
    exact (planVariants_ends h owner name vs held' t hsite hvs ht).bind fun _ hu => hu
  | ⟨tag, type, .primitive kind⟩ :: vs, held, s, hsite, hall, hs
  | ⟨tag, type, .enumeration entries⟩ :: vs, held, s, hsite, hall, hs
  | ⟨tag, type, .sum inner⟩ :: vs, held, s, hsite, hall, hs
  | ⟨tag, type, .external path⟩ :: vs, held, s, hsite, hall, hs
  | ⟨tag, type, .unsupported reason⟩ :: vs, held, s, hsite, hall, hs => by
    unfold planVariants
    rintro _ _ _ ⟨⟩
    exact ⟨all, _, hsite, (List.cons_subset.1 hall).1, id⟩

end

/-! ## Requests -/

variable {catalog : Catalog} {r : Request} {d : Descriptor} {s : Planning}

/-- A request was planned: its subject was classified, its function was claimed, and every plan
that was finished is good. -/
structure Takes (catalog : Catalog) (c : Configuration) (r : Request) (Good : Plan → Prop)
    (s t : Planning) : Prop where
  survey_eq : t.survey = (startOf catalog r s.survey).2
  unclaimed : r.claim c ∉ s.functions
  functions_eq : t.functions = r.claim c :: s.functions
  plans : ∀ entry ∈ t.plans, Good entry.2

theorem planFactory_ends (h : Covers sites Good) (hs : ∀ entry ∈ s.plans, Good entry.2)
    (hget : catalog.get? r.type = some d) (hdir : r.directive = .factory)
    (hsite : sites (.ofType r.type (s.survey.classify catalog d).1)) :
    Ends sites (Takes catalog c r Good s) (planFactory c catalog r d s) := by
  have hstart : (startOf catalog r s.survey).2 = (s.survey.classify catalog d).2 := by
    simp [startOf, hget, hdir]
  have hclaim : r.claim c =
      (r.type, (c.nameCase.entryName r.type r.function r.autoLabel).function) := by
    simp [Request.claim, hdir]
  unfold planFactory
  refine Ends.bind (P := fun _ => True) (.of_step (fun _ _ => trivial) fun _ _ _ h => ?_)
    fun companion _ => ?_
  · cases companionOf_error h
  · split
    · exact nofun
    · dsimp only
      split
      · exact nofun
      · have kept : Keeps Good { s with survey := (s.survey.classify catalog d).2 }
            { s with survey := (s.survey.classify catalog d).2 } := ⟨rfl, rfl, hs⟩
        refine (planType_ends h r.type _ _ hsite kept).bind fun ⟨p, t⟩ ht => ?_
        refine (claimFunction_ends t r.type _).bind fun u ⟨hfree, hu⟩ => ?_
        have hfunctions : t.functions = s.functions := ht.functions_eq
        subst hu
        rw [hfunctions, ← hclaim] at hfree ⊢
        exact ⟨hstart ▸ ht.survey_eq, hfree, rfl, ht.plans⟩

theorem planField_ends (h : Covers sites Good) (hs : ∀ entry ∈ s.plans, Good entry.2)
    (hget : catalog.get? r.type = some d) (hdir : r.directive = .field)
    (hsite : d.valueWrapper? = none →
      sites (.ofType r.type (s.survey.classify catalog d).1)) :
    Ends sites (Takes catalog c r Good s) (planField c catalog r d s) := by
  have hstart : (startOf catalog r s.survey).2 = (subjectOf catalog r d s.survey).2 := by
    cases hw : d.valueWrapper? <;> simp [startOf, subjectOf, hget, hdir, hw]
  have hclaim : r.claim c =
      ("", (c.nameCase.entryName r.type r.function r.autoLabel).function) := by
    simp [Request.claim, hdir]
  unfold planField
  dsimp only
  split
  · intro _ _ _ hvariant
    cases hvariant
  · refine (claimFunction_ends _ "" _).bind fun t hclaimed => ?_
    obtain ⟨hfree, ht⟩ := hclaimed
    have kept : Keeps Good t t := ⟨rfl, rfl, ht ▸ hs⟩
    refine (memberFactory_ends h r.type .parameter _ t (fun hw _ => ?_) kept).bind
      fun held hu => ?_
    · cases hwrapper : d.valueWrapper? with
      | some w => simp [subjectOf, hwrapper] at hw
      | none =>
        simp only [subjectOf, hwrapper]
        exact hsite hwrapper
    · obtain ⟨factory, u⟩ := held
      subst ht
      exact ⟨hstart ▸ hu.survey_eq, hclaim ▸ hfree, hclaim ▸ hu.functions_eq, hu.plans⟩

/-- One request is planned at what it starts at. -/
theorem planRequest_ends (h : Covers sites Good) (hs : ∀ entry ∈ s.plans, Good entry.2)
    (hsites : ∀ tree ∈ (startOf catalog r s.survey).1, sites (.ofType tree.1 tree.2)) :
    Ends sites (Takes catalog c r Good s) (planRequest c catalog r s) := by
  unfold planRequest
  unfold startOf at hsites
  cases hget : catalog.get? r.type with
  | none => exact nofun
  | some d =>
    simp only [hget] at hsites ⊢
    cases hdir : r.directive with
    | factory => exact planFactory_ends h hs hget hdir (by simpa [hdir] using hsites)
    | field =>
      refine planField_ends h hs hget hdir fun hw => ?_
      simpa [hdir, hw] using hsites

end Planning

end EditableFields
