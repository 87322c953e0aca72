import EditableFields.Proofs.Planning.Sites

/-!
# Planning: products have the arities that the runtime combines

A product's factory makes combinations of as many fields as the product has members, and the
runtime has such combinations for one to `maxMembers` fields. Planning draws plans for parts of
well-formed classifications only, so it asks for no other combination, and never comes to a variant
that is neither a product nor a singleton (`generate_wellFormed`). Nothing is supposed of the
catalog here: names may be declared twice, or be those of primitives.
-/

namespace EditableFields

/-- The implementation of the factory combines `n` fields: this is the type of its fields, and what
it makes them by. -/
def Plan.Combines (c : Configuration) (p : Plan) (n : Nat) : Prop :=
  (∃ types, .code 1 ("type Field = " ++ (c.item ("Combined" ++ toString n) ++ types) ++ ";") ∈
    p.implementation c) ∧
  .code 2 (c.item ("Combined" ++ toString n) ++ "::new(") ∈ p.implementation c

/-- A product has from one to `maxMembers` members. -/
def PlanBody.Combinable : PlanBody → Prop
  | product _ _ members _ => 1 ≤ members.length ∧ members.length ≤ maxMembers
  | sum _ => True

theorem Plan.combines_length (c : Configuration) {p : Plan} {constructor : String}
    {style : ConstructorStyle} {members : List MemberPlan} {standing : Standing}
    (h : p.body = .product constructor style members standing) :
    p.Combines c members.length := by
  simp only [Plan.Combines, Plan.implementation, h, Plan.productImplementation,
    Plan.implementationHead]
  exact ⟨⟨"<" ++ p.value ++ ", " ++ String.intercalate ", " (members.map fun m => m.value.text) ++
    ">", by simp [String.append_assoc]⟩, by simp⟩

namespace Planning

open Classification

/-- The sites in well-formed classifications go on to well-formed ones, and products there have
the members that can be combined. -/
theorem covers_wellFormed :
    Covers (fun site => site.classification.WellFormed) fun p => p.body.Combinable where
  part ha hab := by
    cases hab with
    | member hm _ _ => exact (wellFormed_product_iff.1 ha).2 _ hm
    | variant hv _ => exact (wellFormed_sum_iff.1 ha).2 _ hv
  draws hsite hp := by
    cases hp with
    | product hlen =>
      rw [PlanBody.Combinable, hlen]
      exact (wellFormed_product_iff.1 hsite).1.1
    | sum => trivial

/-- No sum in a well-formed classification has a variant that cannot be planned. -/
theorem Ends.of_wellFormed {α : Type} {P : α → Prop} {x : Except GenerationError α}
    (h : Ends (fun site => site.classification.WellFormed) P x) :
    (∀ a, x = .ok a → P a) ∧
      ∀ variant owner kind, x ≠ .error (.variantNotPlannable variant owner kind) := by
  cases x with
  | ok a =>
    refine ⟨?_, fun _ _ _ => nofun⟩
    rintro _ ⟨⟩
    exact h
  | error e =>
    refine ⟨fun _ => nofun, ?_⟩
    rintro variant owner kind ⟨⟩
    obtain ⟨variants, v, hsite, hv, hunfit⟩ := h variant owner kind rfl
    exact hunfit ((wellFormed_sum_iff.1 hsite).1.2 v hv)

theorem startOf_wellFormed (catalog : Catalog) {survey : Survey} (h : survey.WellFormed)
    (r : Request) : (∀ tree ∈ (startOf catalog r survey).1, tree.2.WellFormed) ∧
      (startOf catalog r survey).2.WellFormed := by
  unfold startOf
  split
  · exact ⟨by simp, h⟩
  · rename_i d _
    split
    · exact ⟨by simp, h⟩
    · have call := (Survey.Call.type d).wellFormed catalog h
      exact ⟨List.forall_mem_singleton.2 call.1, call.2⟩

theorem planRequests_combinable (catalog : Catalog) (c : Configuration) (rs : List Request)
    {s : Planning} (hsurvey : s.survey.WellFormed)
    (hs : ∀ entry ∈ s.plans, entry.2.body.Combinable) :
    Ends (fun site => site.classification.WellFormed)
      (fun t : Planning => ∀ entry ∈ t.plans, entry.2.body.Combinable)
      (planRequests c catalog rs s) := by
  induction rs generalizing s with
  | nil => exact hs
  | cons r rs ih =>
    have start := startOf_wellFormed catalog hsurvey r
    refine (planRequest_ends covers_wellFormed hs start.1).bind fun t ht => ih ?_ ht.plans
    rw [ht.survey_eq]
    exact start.2

/-- Whatever a catalog declares, all that its surveys ever answer and remember is well formed; no
request fails for a variant that is neither a product nor a singleton; and the factory of each
product, or product variant, that is generated combines from one to `maxMembers` fields. -/
theorem generate_wellFormed (catalog : Catalog) :
    (∀ calls call, (Survey.history catalog calls).WellFormed ∧
      (Survey.Call.answer catalog (Survey.history catalog calls) call).WellFormed) ∧
    ∀ c requests,
      (∀ variant owner kind,
        catalog.generate c requests ≠ .error (.variantNotPlannable variant owner kind)) ∧
      ∀ text, catalog.generate c requests = .ok text →
        ∃ s, planRequests c catalog requests .fresh = .ok s ∧ text = s.source c ∧
          ∀ p ∈ s.inOrder, ∀ constructor style members standing,
            p.body = .product constructor style members standing →
              ∃ n, 1 ≤ n ∧ n ≤ maxMembers ∧ p.Combines c n := by
  refine ⟨fun calls call => ?_, fun c requests => ?_⟩
  · have remembered := Survey.history_wellFormed catalog calls
    exact ⟨remembered, (call.wellFormed catalog remembered).1⟩
  · obtain ⟨hok, herror⟩ := (planRequests_combinable catalog c requests (s := .fresh)
      Survey.wellFormed_fresh (by simp [fresh])).of_wellFormed
    refine ⟨fun variant owner kind h => ?_, fun text h => ?_⟩
    · rcases bind_eq_error.1 h with h | ⟨_, -, h⟩
      · exact herror variant owner kind h
      · cases h
    · obtain ⟨s, hs, htext⟩ := bind_eq_ok.1 h
      cases htext
      refine ⟨s, hs, rfl, fun p hp constructor style members standing hbody => ?_⟩
      obtain ⟨key, -, hkey⟩ := List.mem_filterMap.1 hp
      obtain ⟨newer, older, hplans, -⟩ := List.lookup_eq_some_iff.1 hkey
      have hcombinable : p.body.Combinable := hok s hs (key, p) (by simp [hplans])
      rw [hbody] at hcombinable
      exact ⟨members.length, hcombinable.1, hcombinable.2, p.combines_length c hbody⟩

/-- The products of the shop, one of them a variant, have factories that combine fields. -/
theorem generate_wellFormed_shop :
    ∃ text, (Catalog.ofList shop).generate .standard shopRequests = .ok text ∧
      ∃ s, planRequests .standard (.ofList shop) shopRequests .fresh = .ok s ∧
        text = s.source .standard ∧
        ∀ p ∈ s.inOrder, ∀ constructor style members standing,
          p.body = .product constructor style members standing →
            ∃ n, 1 ≤ n ∧ n ≤ maxMembers ∧ p.Combines .standard n := by
  obtain ⟨text, h⟩ := exists_generate_shop
  obtain ⟨-, generated⟩ := generate_wellFormed (.ofList shop)
  exact ⟨text, h, (generated .standard shopRequests).2 text h⟩

end Planning

end EditableFields
