import EditableFields.Proofs.Survey.History

/-!
# Surveys: classifications are well formed

Whatever a catalog holds and whatever is asked for, a classification has at no depth a product
without members or with too many, an enumeration without entries, or a sum without variants or with
a variant that is neither a product nor a singleton (`WellFormed`). Each node is made by the
expansion of one shape (`wellFormed_expand`) or is a refusal. The rest was asked for, and is
answered by an expansion again or by the memory, so the same has to be known of all that is
remembered (`Survey.WellFormed`).

That part of the argument is the same for any property that an expansion has if the answers on the
way have it (`Inherited`): one inquiry keeps it, and so does every history of calls.
-/

namespace EditableFields

namespace Classification

/-! ## Nodes -/

/-- The second classification is the first, or lies within it at some depth. -/
inductive Node : Classification → Classification → Prop
  | self (k) : Node k k
  | member {style members m k} : m ∈ members → Node m.classification k →
      Node (product style members) k
  | variant {variants v k} : v ∈ variants → Node v.classification k → Node (sum variants) k

/-- The type can be edited as a variant of a sum. -/
def IsVariant : Classification → Prop
  | product .. | singleton _ => True
  | _ => False

/-- What is promised of one node, of what it holds itself. -/
def Formed : Classification → Prop
  | product _ members =>
    (1 ≤ members.length ∧ members.length ≤ maxMembers) ∧
      ∀ m ∈ members, ∀ w, m.wrapper = some w → m.classification = primitive w.primitive
  | enumeration entries => entries ≠ []
  | sum variants => variants ≠ [] ∧ ∀ v ∈ variants, v.classification.IsVariant
  | _ => True

/-- What is promised holds of every node. -/
def WellFormed (k : Classification) : Prop :=
  ∀ node, Node k node → node.Formed

section Nodes

variable {style : ConstructorStyle} {members : List (ResolvedMember Classification)}
  {variants : List (ResolvedVariant Classification)}

/-- A classification that holds no other one has one node. -/
theorem node_iff_of_leaf {k node : Classification} (hm : ∀ style members, k ≠ product style members)
    (hv : ∀ variants, k ≠ sum variants) : Node k node ↔ node = k := by
  constructor
  · rintro (_ | _ | _)
    · rfl
    · exact absurd rfl (hm _ _)
    · exact absurd rfl (hv _)
  · rintro rfl
    exact .self _

theorem wellFormed_unsupported (reason : Refusal) : (unsupported reason).WellFormed := by
  intro node h
  rw [(node_iff_of_leaf (by simp) (by simp)).1 h]
  trivial

/-- A property of all nodes of a product is one of the product and of all nodes of its members. -/
theorem forall_node_product_iff {P : Classification → Prop} :
    (∀ node, Node (product style members) node → P node) ↔
      P (product style members) ∧
        ∀ m ∈ members, ∀ node, Node m.classification node → P node := by
  constructor
  · exact fun h => ⟨h _ (.self _), fun m hm node hnode => h node (.member hm hnode)⟩
  · rintro ⟨hself, hmembers⟩ node hnode
    cases hnode with
    | self => exact hself
    | member hm hnode => exact hmembers _ hm node hnode

theorem forall_node_sum_iff {P : Classification → Prop} :
    (∀ node, Node (sum variants) node → P node) ↔
      P (sum variants) ∧ ∀ v ∈ variants, ∀ node, Node v.classification node → P node := by
  constructor
  · exact fun h => ⟨h _ (.self _), fun v hv node hnode => h node (.variant hv hnode)⟩
  · rintro ⟨hself, hvariants⟩ node hnode
    cases hnode with
    | self => exact hself
    | variant hv hnode => exact hvariants _ hv node hnode

theorem wellFormed_product_iff :
    (product style members).WellFormed ↔
      (product style members).Formed ∧ ∀ m ∈ members, m.classification.WellFormed :=
  forall_node_product_iff

theorem wellFormed_sum_iff :
    (sum variants).WellFormed ↔
      (sum variants).Formed ∧ ∀ v ∈ variants, v.classification.WellFormed :=
  forall_node_sum_iff

end Nodes

end Classification

/-! ## Shapes -/

section Shapes

variable {standing : Standing} {d : Descriptor}

theorem Descriptor.length_of_shape_product {style : ConstructorStyle} {members : List Member}
    (h : d.shape standing = .product style members) :
    1 ≤ members.length ∧ members.length ≤ maxMembers := by
  unfold Descriptor.shape at h
  split at h
  · cases h
  · cases d with
    | product name content =>
      simp only [productShape] at h
      split_ifs at h with _ hcount
      cases h
      simp only [Bool.or_eq_true, decide_eq_true_eq, List.isEmpty_iff, not_or, Nat.not_lt] at hcount
      exact ⟨List.length_pos_iff.2 hcount.1, hcount.2⟩
    | sum => simp only [sumShape] at h; split_ifs at h
    | enumeration => simp only at h; split_ifs at h
    | primitive | singleton | sealed | external => cases h

theorem Descriptor.ne_nil_of_shape_enumeration {entries : List String}
    (h : d.shape standing = .enumeration entries) : entries ≠ [] := by
  unfold Descriptor.shape at h
  split at h
  · cases h
  · cases d with
    | enumeration name entries' =>
      simp only at h
      split_ifs at h with hempty
      cases h
      simpa using hempty
    | product => simp only [productShape] at h; split_ifs at h
    | sum => simp only [sumShape] at h; split_ifs at h
    | primitive | singleton | sealed | external => cases h

theorem Descriptor.ne_nil_of_shape_sum {variants : List Descriptor}
    (h : d.shape standing = .sum variants) : variants ≠ [] := by
  unfold Descriptor.shape at h
  split at h
  · cases h
  · cases d with
    | sum name variants' companion =>
      simp only [sumShape] at h
      split_ifs at h with _ hempty
      cases h
      simpa using hempty
    | product => simp only [productShape] at h; split_ifs at h
    | enumeration => simp only at h; split_ifs at h
    | primitive | singleton | sealed | external => cases h

end Shapes

namespace Survey

open Classification

variable {catalog : Catalog} {f : Classifier}

/-! ## One expansion -/

theorem isVariant_of_variantRefusal? {owner variant : String} {k : Classification}
    (h : variantRefusal? owner variant k = none) : k.IsVariant := by
  cases k with
  | product | singleton => trivial
  | primitive | enumeration | sum | external | unsupported => cases h

theorem wellFormed_settledMember (m : Member) :
    (settledMember catalog m).classification.WellFormed ∧
      ∀ w, (settledMember catalog m).wrapper = some w →
        (settledMember catalog m).classification = .primitive w.primitive := by
  unfold settledMember
  split
  · rename_i w _
    refine ⟨fun node hnode => ?_, fun w' hw' => ?_⟩
    · rw [(node_iff_of_leaf (by simp) (by simp)).1 hnode]
      trivial
    · cases hw'
      rfl
  · exact ⟨wellFormed_unsupported _, nofun⟩

theorem MemberAnswered.wellFormed {qs : List Inquiry} {m : Member}
    {r : ResolvedMember Classification} (h : MemberAnswered catalog f qs m r)
    (answers : ∀ q ∈ qs, (q.answer f).WellFormed) :
    r.classification.WellFormed ∧
      ∀ w, r.wrapper = some w → r.classification = .primitive w.primitive := by
  rcases h with ⟨-, rfl⟩ | ⟨q, hq, -, -, rfl⟩
  · exact wellFormed_settledMember m
  · exact ⟨answers q hq, nofun⟩

/-- What the shape of a type is expanded to is well formed if every answer on the way is. -/
theorem wellFormed_expand (standing : Standing) (d : Descriptor) (s : Survey)
    (answers : ∀ q ∈ inquiries catalog f d.name (d.shape standing) s, (q.answer f).WellFormed) :
    (expand catalog f d.name (d.shape standing) s).1.WellFormed := by
  cases hshape : d.shape standing with
  | product style members =>
    rw [hshape] at answers
    have answered : List.Forall₂ (MemberAnswered catalog f _) members
        (resolveMembers catalog f members s).1 := resolveMembers_answered members s
    have resolved : ∀ r ∈ (resolveMembers catalog f members s).1, r.classification.WellFormed ∧
        ∀ w, r.wrapper = some w → r.classification = .primitive w.primitive := by
      intro r hr
      obtain ⟨m, -, hm⟩ := exists_left_of_forall₂ answered hr
      exact hm.wellFormed answers
    refine wellFormed_product_iff.2 ⟨⟨?_, fun r hr => (resolved r hr).2⟩,
      fun r hr => (resolved r hr).1⟩
    rw [← answered.length_eq]
    exact d.length_of_shape_product hshape
  | sum variants =>
    rw [hshape] at answers
    rcases expand_sum_answered (f := f) d.name variants s with ⟨rs, hrun, answered⟩ | ⟨_, hrun⟩
    · rw [hrun]
      have resolved : ∀ r ∈ rs, r.classification.IsVariant ∧ r.classification.WellFormed := by
        intro r hr
        obtain ⟨v, -, q, hq, -, -, hfit, rfl⟩ := exists_left_of_forall₂ answered hr
        exact ⟨isVariant_of_variantRefusal? hfit, answers q hq⟩
      refine wellFormed_sum_iff.2 ⟨⟨?_, fun r hr => (resolved r hr).1⟩,
        fun r hr => (resolved r hr).2⟩
      rintro rfl
      cases answered
      exact d.ne_nil_of_shape_sum hshape rfl
    · rw [hrun]
      exact wellFormed_unsupported _
  | enumeration entries =>
    intro node hnode
    rw [(node_iff_of_leaf (by simp [expand]) (by simp [expand])).1 hnode]
    exact d.ne_nil_of_shape_enumeration hshape
  | primitive | singleton | external | unsupported =>
    intro node hnode
    rw [(node_iff_of_leaf (by simp [expand]) (by simp [expand])).1 hnode]
    trivial

/-! ## What all answers have in common -/

/-- Everything that is remembered has a property. -/
def Remembers (P : Classification → Prop) (s : Survey) : Prop :=
  ∀ p ∈ s.memo, P p.2

theorem Remembers.of_memoized {P : Classification → Prop} {s : Survey} (h : s.Remembers P)
    {n : String} {k : Classification} (hk : s.memoized n = some k) : P k := by
  obtain ⟨newer, older, hmemo, -⟩ := List.lookup_eq_some_iff.1 hk
  exact h (n, k) (by simp [hmemo])

theorem remembers_fresh (P : Classification → Prop) : fresh.Remembers P := by
  simp [Remembers, fresh]

/-- A property of classifications that whatever is expanded has if all the answers on the way have
it. Only descriptors of one kind are asked for. -/
structure Inherited (catalog : Catalog) (P : Classification → Prop)
    (Kind : Standing → Descriptor → Prop) : Prop where
  tooDeep : ∀ name, P (.unsupported (.tooDeep name))
  circular : ∀ path, P (.unsupported (.circular path))
  expanded : ∀ (f : Classifier) (q : Inquiry), Kind q.standing q.descriptor →
    (∀ p ∈ q.nested catalog f, P (p.answer f)) → P (q.expanded catalog f).1
  nested : ∀ (f : Classifier) (q : Inquiry), Kind q.standing q.descriptor →
    ∀ p ∈ q.nested catalog f, Kind p.standing p.descriptor

namespace Inherited

variable {P : Classification → Prop} {Kind : Standing → Descriptor → Prop}

theorem leave (h : Inherited catalog P Kind) {t : Survey} (ht : t.Remembers P)
    {found : Classification} (hfound : P found) (name : String) :
    P (t.leave name found).1 ∧ (t.leave name found).2.Remembers P := by
  have left : P (t.leave name found).1 := by
    simp only [Survey.leave]
    split
    · exact h.circular _
    · exact hfound
  exact ⟨left, List.forall_mem_cons.2 ⟨left, ht⟩⟩

/-- The answer to an inquiry has the property if all that is remembered has it, and so has all that
is remembered then, whatever the depth. -/
theorem classifyWithin (h : Inherited catalog P Kind) (depth : Nat) (q : Inquiry)
    (hq : Kind q.standing q.descriptor) (hs : q.survey.Remembers P) :
    P (q.answer (classifyWithin catalog depth)) ∧
      (q.after (Survey.classifyWithin catalog depth)).Remembers P := by
  induction depth generalizing q with
  | zero => exact ⟨h.tooDeep _, hs⟩
  | succ depth ih =>
    cases hm : q.survey.memoized q.descriptor.name with
    | some k =>
      simp only [Inquiry.answer, Inquiry.after, classifyWithin_of_memoized _ _ hm]
      exact ⟨hs.of_memoized hm, hs⟩
    | none =>
      by_cases hn : q.descriptor.name ∈ q.survey.inProgress
      · simp only [Inquiry.answer, Inquiry.after, classifyWithin_of_inProgress _ _ hm hn]
        exact ⟨h.circular _, hs⟩
      · -- The nested inquiries follow on one another, so each starts from such a memory.
        have kinds := h.nested (Survey.classifyWithin catalog depth) q hq
        have run := (q.trail catalog (Survey.classifyWithin catalog depth)).keeps
          (P := Remembers P) hs fun p hp hmemo => (ih p (kinds p hp) hmemo).2
        simp only [Inquiry.answer, Inquiry.after, classifyWithin_of_fresh _ _ ⟨hm, hn⟩]
        refine h.leave run.1 (h.expanded _ q hq fun p hp => ?_) _
        exact (ih p (kinds p hp) (run.2 p hp)).1

theorem call (h : Inherited catalog P Kind) {c : Call} {s : Survey} {q : Inquiry}
    (hq : c.inquiry? catalog s = some q) (hkind : Kind q.standing q.descriptor)
    (hs : s.Remembers P) : P (c.answer catalog s) ∧ (c.after catalog s).Remembers P := by
  rw [Call.answer_of_some hq, Call.after_of_some hq]
  obtain rfl := Call.inquiry?_survey hq
  exact h.classifyWithin _ q hkind hs

/-- Whatever was called for of the kind, all that is remembered has the property. -/
theorem history (h : Inherited catalog P Kind) {calls : List Call}
    (hcalls : ∀ c ∈ calls, ∀ s q, c.inquiry? catalog s = some q →
      Kind q.standing q.descriptor) : (history catalog calls).Remembers P := by
  refine history_keeps (remembers_fresh P) ?_
  intro before c after q hsplit hq hs
  have hkind := hcalls c (by simp [hsplit]) _ q hq
  exact (h.classifyWithin _ q hkind (Call.inquiry?_survey hq ▸ hs)).2

end Inherited

/-! ## Memories that are well formed -/

/-- Everything that is remembered is well formed. -/
def WellFormed (s : Survey) : Prop :=
  s.Remembers Classification.WellFormed

theorem WellFormed.of_memoized {s : Survey} (h : s.WellFormed) {n : String} {k : Classification}
    (hk : s.memoized n = some k) : k.WellFormed :=
  Remembers.of_memoized h hk

theorem inherited_wellFormed (catalog : Catalog) :
    Inherited catalog Classification.WellFormed fun _ _ => True where
  tooDeep _ := wellFormed_unsupported _
  circular _ := wellFormed_unsupported _
  expanded _ q _ := wellFormed_expand q.standing q.descriptor _
  nested _ _ _ _ _ := trivial

theorem Call.wellFormed (catalog : Catalog) {s : Survey} (h : s.WellFormed) (call : Call) :
    (call.answer catalog s).WellFormed ∧ (call.after catalog s).WellFormed := by
  cases hq : call.inquiry? catalog s with
  | none =>
    obtain ⟨n, hanswer⟩ := Call.answer_of_none hq
    rw [hanswer, Call.after_of_none hq]
    exact ⟨wellFormed_unsupported _, h⟩
  | some q => exact (inherited_wellFormed catalog).call hq trivial h

theorem wellFormed_fresh : fresh.WellFormed :=
  remembers_fresh _

/-- Whatever was called for, all that is remembered is well formed. -/
theorem history_wellFormed (catalog : Catalog) (calls : List Call) :
    (history catalog calls).WellFormed :=
  (inherited_wellFormed catalog).history fun _ _ _ _ _ => trivial

end Survey

end EditableFields
