import EditableFields.Factory.Planning
import Mathlib.Logic.Relation

/-!
# Planning: the traversal of classifications

The order that factories are to be planned in, said without a planner: `visitAll` goes through the
classifications that requests start at (`requestTrees`), each type before what it is made of, in
order of declaration, and no type twice. What it goes through is what can be reached by `Leads`
(`mem_visitAll`).
-/

namespace EditableFields

/-- Whether a factory has to be generated for what is so classified. -/
def Classification.isComposite : Classification → Bool
  | product .. | sum _ => true
  | _ => false

theorem isSupported_of_ne {k : Classification} (h : ∀ reason, k ≠ .unsupported reason) :
    k.isSupported := by
  cases k with
  | unsupported reason => exact absurd rfl (h reason)
  | primitive | enumeration | singleton | product | sum | external => rfl

theorem isSupported_of_isComposite {k : Classification} (h : k.isComposite) : k.isSupported := by
  cases k with
  | product | sum => rfl
  | primitive | enumeration | singleton | external | unsupported => cases h

mutual

/-- Visits a product or sum that was not seen before, then what it is made of. -/
def visit (type : String) (k : Classification) (seen : List String) : List String :=
  match k with
  | .product _ members => if type ∈ seen then seen else visitMembers members (seen ++ [type])
  | .sum variants => if type ∈ seen then seen else visitVariants variants (seen ++ [type])
  | _ => seen

/-- Visits the types of members that are no value wrappers, in order. -/
def visitMembers (members : List (ResolvedMember Classification)) (seen : List String) :
    List String :=
  match members with
  | [] => seen
  | ⟨_, type, _, none, k⟩ :: ms => visitMembers ms (visit type k seen)
  | ⟨_, _, _, some _, _⟩ :: ms => visitMembers ms seen

/-- Visits the variants that are products, in order. -/
def visitVariants (variants : List (ResolvedVariant Classification)) (seen : List String) :
    List String :=
  match variants with
  | [] => seen
  | ⟨_, type, k⟩ :: vs =>
    match k with
    | .product .. => visitVariants vs (visit type k seen)
    | _ => visitVariants vs seen

end

/-- Visits what a product or sum is made of. -/
def visitParts (k : Classification) (seen : List String) : List String :=
  match k with
  | .product _ members => visitMembers members seen
  | .sum variants => visitVariants variants seen
  | _ => seen

/-- Visits what requests start at, in order. -/
def visitAll (trees : List (String × Classification)) : List String :=
  trees.foldl (fun seen tree => visit tree.1 tree.2 seen) []

/-- What a request starts at, if anything, with its classification, and the survey after that: a
factory is attached to its subject, and a field edits its subject unless that is a value wrapper. -/
def startOf (catalog : Catalog) (r : Request) (s : Survey) :
    List (String × Classification) × Survey :=
  match catalog.get? r.type with
  | none => ([], s)
  | some d =>
    if r.directive = .field ∧ d.valueWrapper?.isSome then ([], s)
    else
      let (k, s) := s.classify catalog d
      ([(r.type, k)], s)

/-- What requests start at, in order. -/
def requestTrees (catalog : Catalog) : List Request → Survey → List (String × Classification)
  | [], _ => []
  | r :: rs, s => (startOf catalog r s).1 ++ requestTrees catalog rs (startOf catalog r s).2

theorem visit_of_mem {type : String} {seen : List String} (h : type ∈ seen) (k : Classification) :
    visit type k seen = seen := by
  cases k <;> simp [visit, h]

theorem visit_of_not_mem {type : String} {seen : List String} (h : type ∉ seen)
    {k : Classification} (hk : k.isComposite) :
    visit type k seen = visitParts k (seen ++ [type]) := by
  cases k with
  | product | sum => simp [visit, visitParts, h]
  | primitive | enumeration | singleton | external | unsupported => cases hk

theorem visitMembers_cons (m : ResolvedMember Classification)
    (ms : List (ResolvedMember Classification)) (seen : List String) :
    visitMembers (m :: ms) seen = visitMembers ms (visitMembers [m] seen) := by
  rcases m with ⟨_, _, _, _ | _, _⟩ <;> simp [visitMembers]

/-- One step of the traversal: from a product to a member, from a sum to a variant. -/
inductive Leads : String × Classification → String × Classification → Prop
  | member {n style members m} : m ∈ members → m.wrapper = none →
      m.classification.isComposite → Leads (n, .product style members) (m.type, m.classification)
  | variant {n variants v style members} : v ∈ variants →
      v.classification = .product style members →
      Leads (n, .sum variants) (v.type, v.classification)

/-- What can be reached from a product or sum. -/
def LeadsTo (tree : String × Classification) (n : String) : Prop :=
  tree.2.isComposite ∧ ∃ k, Relation.ReflTransGen Leads tree (n, k)

theorem LeadsTo.head {a b : String × Classification} {n : String} (ha : a.2.isComposite)
    (hab : Leads a b) (h : LeadsTo b n) : LeadsTo a n :=
  let ⟨k, hk⟩ := h.2
  ⟨ha, k, .head hab hk⟩

-- What was seen before is seen after, and what is new is reached through the type, the member or
-- the variant that was visited.
mutual

/-- What a visit adds can be reached from where it starts. -/
theorem mem_visit {type n : String} {seen : List String} :
    ∀ k : Classification, n ∈ visit type k seen → n ∈ seen ∨ LeadsTo (type, k) n
  | .product style members, h => by
    rw [visit] at h
    split at h
    · exact .inl h
    · rcases mem_visitMembers members h with h | ⟨m, hm, hw, hn⟩
      · rcases List.mem_append.1 h with h | h
        · exact .inl h
        · cases List.mem_singleton.1 h
          exact .inr ⟨rfl, _, .refl⟩
      · exact .inr (hn.head rfl (.member hm hw hn.1))
  | .sum variants, h => by
    rw [visit] at h
    split at h
    · exact .inl h
    · rcases mem_visitVariants variants h with h | ⟨v, hv, style, members, hk, hn⟩
      · rcases List.mem_append.1 h with h | h
        · exact .inl h
        · cases List.mem_singleton.1 h
          exact .inr ⟨rfl, _, .refl⟩
      · exact .inr (hn.head rfl (.variant hv hk))
  | .primitive _, h | .enumeration _, h | .singleton _, h | .external _, h | .unsupported _, h => by
    simp only [visit] at h
    exact .inl h

theorem mem_visitMembers {n : String} {seen : List String} :
    ∀ members : List (ResolvedMember Classification), n ∈ visitMembers members seen →
      n ∈ seen ∨ ∃ m ∈ members, m.wrapper = none ∧ LeadsTo (m.type, m.classification) n
  | [], h => .inl h
  | ⟨_, type, _, none, k⟩ :: ms, h => by
    rw [visitMembers] at h
    rcases mem_visitMembers ms h with h | ⟨m, hm, h⟩
    · exact (mem_visit k h).imp id fun h => ⟨_, List.mem_cons_self, rfl, h⟩
    · exact .inr ⟨m, List.mem_cons_of_mem _ hm, h⟩
  | ⟨_, _, _, some _, _⟩ :: ms, h => by
    rw [visitMembers] at h
    exact (mem_visitMembers ms h).imp id fun ⟨m, hm, h⟩ => ⟨m, List.mem_cons_of_mem _ hm, h⟩

theorem mem_visitVariants {n : String} {seen : List String} :
    ∀ variants : List (ResolvedVariant Classification), n ∈ visitVariants variants seen →
      n ∈ seen ∨ ∃ v ∈ variants, ∃ style members, v.classification = .product style members ∧
        LeadsTo (v.type, v.classification) n
  | [], h => .inl h
  | ⟨_, type, k⟩ :: vs, h => by
    unfold visitVariants at h
    split at h
    · rcases mem_visitVariants vs h with h | ⟨v, hv, h⟩
      · exact (mem_visit _ h).imp id fun h => ⟨_, List.mem_cons_self, _, _, rfl, h⟩
      · exact .inr ⟨v, List.mem_cons_of_mem _ hv, h⟩
    · exact (mem_visitVariants vs h).imp id fun ⟨v, hv, h⟩ => ⟨v, List.mem_cons_of_mem _ hv, h⟩

end

theorem mem_foldl_visit {trees : List (String × Classification)} {seen : List String} {n : String}
    (h : n ∈ trees.foldl (fun seen tree => visit tree.1 tree.2 seen) seen) :
    n ∈ seen ∨ ∃ tree ∈ trees, LeadsTo tree n := by
  induction trees generalizing seen with
  | nil => exact .inl h
  | cons tree trees ih =>
    rcases ih h with h | ⟨t, ht, h⟩
    · exact (mem_visit _ h).imp id fun h => ⟨tree, List.mem_cons_self, h⟩
    · exact .inr ⟨t, List.mem_cons_of_mem _ ht, h⟩

theorem mem_visitAll {trees : List (String × Classification)} {n : String}
    (h : n ∈ visitAll trees) : ∃ tree ∈ trees, LeadsTo tree n :=
  (mem_foldl_visit h).resolve_left List.not_mem_nil

end EditableFields
