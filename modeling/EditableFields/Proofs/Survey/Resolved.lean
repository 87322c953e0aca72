import EditableFields.Proofs.Survey.WellFormed

/-!
# Surveys: no name is unknown

In a catalog in which the type of every member means something, variants at every depth included
(`Catalog.Closed`), no type is ever refused because a name in it means nothing
(`Catalog.Closed.resolved_history`): neither what is asked for by name, nor anything that lies
within it at some depth.
-/

namespace EditableFields

/-- The type of every member means something. -/
def Catalog.Closed (catalog : Catalog) : Prop :=
  ∀ standing d, Placed catalog standing d → ∀ m ∈ d.members, ∃ e, catalog.get? m.type = some e

namespace Classification

/-- A classification that is no refusal of a name that means nothing. -/
def IsKnown (k : Classification) : Prop :=
  ∀ name, k ≠ unsupported (.unknownType name)

/-- Nothing in a classification is refused because its name means nothing. -/
def Resolved (k : Classification) : Prop :=
  ∀ node, Node k node → node.IsKnown

/-- What holds nothing else and is known is resolved. -/
theorem resolved_of_leaf {k : Classification} (hm : ∀ style members, k ≠ product style members)
    (hv : ∀ variants, k ≠ sum variants) (hk : k.IsKnown) : k.Resolved := by
  intro node hnode
  rwa [(node_iff_of_leaf hm hv).1 hnode]

theorem resolved_of_ofExpansion {reason : Refusal} (h : reason.OfExpansion) :
    (unsupported reason).Resolved := by
  refine resolved_of_leaf nofun nofun fun name heq => ?_
  cases heq
  exact h

end Classification

namespace Survey

open Classification

variable {catalog : Catalog} {f : Classifier}

/-- What is settled without asking is resolved if its name means something. -/
theorem resolved_settledMember {m : Member} (hnone : catalog.memberType? m = none)
    (hm : ∃ e, catalog.get? m.type = some e) :
    (settledMember catalog m).classification.Resolved := by
  obtain ⟨e, he⟩ := hm
  cases hw : e.valueWrapper? with
  | none => simp [Catalog.memberType?, he, hw] at hnone
  | some w =>
    simp only [settledMember, he, Option.bind_some, hw]
    exact resolved_of_leaf (by simp) (by simp) (by simp [IsKnown])

/-- In a closed catalog, what is expanded is resolved if all the answers on the way are. -/
theorem inherited_resolved (h : catalog.Closed) :
    Inherited catalog Resolved (Placed catalog) where
  tooDeep _ := resolved_of_leaf nofun nofun nofun
  circular _ := resolved_of_leaf nofun nofun nofun
  expanded f q hq answers := by
    unfold Inquiry.nested at answers
    unfold Inquiry.expanded
    cases hshape : q.descriptor.shape q.standing with
    | product style members =>
      rw [hshape] at answers
      have answered : List.Forall₂ (MemberAnswered catalog f _) members _ :=
        resolveMembers_answered members (q.survey.enter q.descriptor.name)
      refine forall_node_product_iff.2 ⟨nofun, fun r hr => ?_⟩
      obtain ⟨m, hm, ⟨hnone, rfl⟩ | ⟨p, hp, -, -, rfl⟩⟩ := exists_left_of_forall₂ answered hr
      · have hmember : m ∈ q.descriptor.members := by
          obtain ⟨-, name, content, heq, rfl, -⟩ := descriptor_of_shape_product hshape
          rwa [heq]
        exact resolved_settledMember hnone (h _ _ hq m hmember)
      · exact answers p hp
    | sum variants =>
      rcases expand_sum_answered (f := f) q.descriptor.name variants
        (q.survey.enter q.descriptor.name) with ⟨rs, hrun, answered⟩ | ⟨reason, hrun⟩
      · rw [hrun]
        rw [hshape] at answers
        refine forall_node_sum_iff.2 ⟨nofun, fun r hr => ?_⟩
        obtain ⟨v, -, p, hp, -, -, -, rfl⟩ := exists_left_of_forall₂ answered hr
        exact answers p hp
      · rw [hrun]
        rw [← hshape] at hrun
        exact resolved_of_ofExpansion (ofExpansion_of_expand hrun)
    | unsupported reason =>
      exact resolved_of_ofExpansion (q.descriptor.ofExpansion_of_shape hshape)
    | primitive | enumeration | singleton | external => exact resolved_of_leaf nofun nofun nofun
  nested _ _ hq _ hp := placed_of_mem_inquiries hq hp

end Survey

/-- In a closed catalog, whatever types of it were asked for, all that is remembered is resolved,
and so is the answer about any name that means something. -/
theorem Catalog.Closed.resolved_history {catalog : Catalog} (h : catalog.Closed)
    {calls : List Survey.Call} (hcalls : ∀ c ∈ calls, c.OfCatalog catalog) :
    (Survey.history catalog calls).Remembers Classification.Resolved ∧
      ∀ n e, catalog.get? n = some e →
        ((Survey.Call.name n).answer catalog (Survey.history catalog calls)).Resolved := by
  have inherited := Survey.inherited_resolved h
  have remembered : (Survey.history catalog calls).Remembers Classification.Resolved :=
    inherited.history fun c hc _ _ hq => (hcalls c hc).placed hq
  refine ⟨remembered, fun n e he => ?_⟩
  have hq : (Survey.Call.name n).inquiry? catalog (Survey.history catalog calls) =
      some ⟨.topLevel, e, Survey.history catalog calls⟩ := by
    rw [Survey.Call.inquiry?, he]
    rfl
  exact (inherited.call hq (.of_get? he) remembered).1

end EditableFields
