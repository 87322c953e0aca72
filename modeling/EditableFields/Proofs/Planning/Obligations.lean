import EditableFields.Proofs.Planning.Making
import EditableFields.Proofs.Planning.Refusals

/-!
# Planning: obligations

A member that cannot be edited is left to the caller, if that is tolerated: the factory of its
owner holds what the caller supplies, and so does every factory that needs this one. So a factory
holds something exactly if a refused member is met from its own classification
(`Answered.held_iff`), and an entry point takes a factory exactly if that of its subject holds
something. `generate_obligations` sums this up for all that is generated.
-/

namespace EditableFields

namespace Planning

variable {ds : List Descriptor} {c : Configuration} {s : Planning} {requests : List Request}

/-! ## What is held -/

theorem held_child_isSome (p : Plan) (field : String) (receiver : Receiver) :
    (p.child field receiver).held?.isSome ↔ p.held ≠ [] := by
  unfold Plan.child
  cases h : p.held <;> simp [ChildFactory.held?]

theorem held_lift (m : ResolvedMember Classification) (base : ChildFactory) :
    (lift m base).held? = base.held? := by
  unfold lift
  split <;> rfl

/-- A member needs something held if the plan of its type holds something, or if it is refused. -/
theorem ChildOf.held_isSome {receiver : Receiver} {m : ResolvedMember Classification}
    {child : ChildFactory} (h : ChildOf c s receiver m child) :
    child.held?.isSome ↔ m.wrapper = none ∧
      ((∃ reason, m.classification = .unsupported reason) ∨
        (m.classification.isComposite ∧ ∃ q, s.plans.lookup m.type = some q ∧ q.held ≠ [])) := by
  obtain ⟨base, hbase, rfl⟩ := h
  rw [held_lift]
  cases hbase with
  | wrapper hw => simp [ChildFactory.held?, hw]
  | leaf hw hk | choice hw hk | fixed hw hk | external hw hk =>
    simp [ChildFactory.held?, hk, Classification.isComposite]
  | planned hw hc hq =>
    have hk : ∀ reason, m.classification ≠ .unsupported reason := by
      intro reason hk
      simp [hk, Classification.isComposite] at hc
    simp [held_child_isSome, hw, hc, hq, hk]
  | obligation hw hk htolerant => simp [ChildFactory.held?, hw, hk]

/-- A variant needs something held if it is a product and its plan holds something. -/
theorem VariantOf.held_isSome {v : ResolvedVariant Classification} {planned : VariantPlan}
    (h : VariantOf s v planned) :
    planned.factory.held?.isSome ↔ (∃ style members, v.classification = .product style members) ∧
      ∃ q, s.plans.lookup v.type = some q ∧ q.held ≠ [] := by
  cases h with
  | valueless | marker => simp [ChildFactory.held?]
  | product hq => simp [held_child_isSome, hq]

/-! ## What is held says what is refused -/

theorem factoryParameter_ne_empty (c : Configuration) (e : Entry) :
    e.factoryParameter c ≠ "" ↔ e.factory.held?.isSome := by
  unfold Entry.factoryParameter
  cases e.factory.held? with
  | none => simp
  | some h => simp [String.append_eq_empty_iff]

/-- An entry point takes a factory if the factory of its subject holds something. A field of a value
wrapper has no such factory. -/
theorem Answered.factoryParameter {catalog : Catalog} (hs : Answered catalog c requests s)
    {r : Request} {e : Entry} (h : EntryOf catalog c s r e) :
    e.factoryParameter c ≠ "" ↔
      requestWrapper catalog r = none ∧ ∃ p ∈ s.inOrder, p.key = r.type ∧ p.held ≠ [] := by
  obtain ⟨-, m, hm, -, hchild⟩ := h
  rw [factoryParameter_ne_empty, hchild.held_isSome, hm.wrapper_eq, hm.type_eq]
  refine and_congr_right fun hw => ?_
  have hmemo := hm.memoized (hm.wrapper_eq.trans hw)
  constructor
  · rintro (⟨reason, hk⟩ | ⟨-, q, hq, hheld⟩)
    · -- A subject is never refused.
      have hsupported := hm.supported
      rw [hk] at hsupported
      cases hsupported
    · have hkey : q.key = r.type := (hs.made _ q hq).1
      exact ⟨q, hs.between.mem_inOrder.2 (hkey ▸ hq), hkey, hheld⟩
  · rintro ⟨q, hq, hkey, hheld⟩
    have hq' : s.plans.lookup r.type = some q := hkey ▸ hs.between.mem_inOrder.1 hq
    exact .inr ⟨(hs.made.made_of_memoized hq' hmemo).isComposite, q, hq', hheld⟩

/-! ## All that is generated -/

/-- What is left to the caller is exactly what cannot be edited. -/
structure Obligates (catalog : Catalog) (c : Configuration) (requests : List Request)
    (s : Planning) : Prop where
  /-- Each factory is for a classification that is met from what a request starts at. -/
  met : ∀ p ∈ s.inOrder, ∃ tree ∈ requestTrees catalog requests .fresh,
    ∃ k, Relation.ReflTransGen Leads tree (p.key, k)
  /-- A factory holds something exactly if a refused member is met from its classification. -/
  held : ∀ p ∈ s.inOrder, ∀ tree ∈ requestTrees catalog requests .fresh,
    ∀ k, Relation.ReflTransGen Leads tree (p.key, k) → (p.held ≠ [] ↔ HasRefusal (p.key, k))
  /-- An entry point takes a factory exactly if that of its subject holds something. -/
  entries : List.Forall₂ (fun r e => e.factoryParameter c ≠ "" ↔
    requestWrapper catalog r = none ∧ ∃ p ∈ s.inOrder, p.key = r.type ∧ p.held ≠ [])
    requests s.entries
  /-- What requests start at is not refused. -/
  subjects : ∀ tree ∈ requestTrees catalog requests .fresh, tree.2.isSupported

/-- Nothing is left to the caller. -/
structure Complete (catalog : Catalog) (c : Configuration) (requests : List Request)
    (s : Planning) : Prop where
  trees : ∀ tree ∈ requestTrees catalog requests .fresh, ¬ HasRefusal tree
  held : ∀ p ∈ s.inOrder, p.held = []
  entries : ∀ e ∈ s.entries, e.factoryParameter c = ""

/-- What is met from what a request starts at is finished and, if it needs a plan, planned. -/
theorem Advance.met {t : Planning} {trees : List (String × Classification)}
    (advance : Advance c s t trees) {tree : String × Classification} (htree : tree ∈ trees)
    {n : String} {k : Classification} (hway : Relation.ReflTransGen Leads tree (n, k)) :
    t.survey.memoized n = some k ∧ (k.isComposite → t.Planned n) := by
  obtain ⟨hmemo, -, hplanned⟩ := advance.started tree htree
  rcases hway.cases_head with rfl | ⟨b, hlead, -⟩
  · exact ⟨hmemo, hplanned⟩
  · have hc := isComposite_of_mem_parts hlead.mem_parts.1
    obtain ⟨hmemo', hplanned'⟩ := advance.between.planned_of_leads ⟨hmemo, hplanned hc⟩ hway
    exact ⟨hmemo', fun _ => hplanned'⟩

/-- Where nothing refused is met, nothing is left to the caller. -/
theorem Obligates.complete {catalog : Catalog} (h : Obligates catalog c requests s)
    (trees : ∀ tree ∈ requestTrees catalog requests .fresh, ¬ HasRefusal tree) :
    Complete catalog c requests s := by
  have held : ∀ p ∈ s.inOrder, p.held = [] := by
    intro p hp
    obtain ⟨tree, htree, k, hway⟩ := h.met p hp
    by_contra hne
    obtain ⟨owner, member, reason, style, members, hway', hm⟩ :=
      (h.held p hp tree htree k hway).1 hne
    exact trees tree htree ⟨owner, member, reason, style, members, hway.trans hway', hm⟩
  refine ⟨trees, held, fun e he => ?_⟩
  obtain ⟨r, -, hr⟩ := exists_left_of_forall₂ h.entries he
  by_contra hne
  obtain ⟨-, p, hp, -, hheld⟩ := hr.1 hne
  exact hheld (held p hp)

end Planning

end EditableFields
