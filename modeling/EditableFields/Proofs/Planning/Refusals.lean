import EditableFields.Proofs.Planning.Emission

/-!
# Planning: refused members

A member that cannot be edited is met when planning comes to the product that has it
(`MeetsRefusal`). Where that is not tolerated, planning stops there, and the error names this
product and this member (`generate_unsupportedMember`); nothing else is reported like this.
-/

namespace EditableFields

/-! ## What can be met -/

/-- Starting at a classification one comes to the product `owner`, whose member `member` cannot be
edited. -/
def MeetsRefusal (tree : String × Classification) (owner member : String) (reason : Refusal) :
    Prop :=
  ∃ style members, Relation.ReflTransGen Leads tree (owner, .product style members) ∧
    ∃ m ∈ members, m.name = member ∧ m.wrapper = none ∧ m.classification = .unsupported reason

/-- Somewhere in a classification there is a member that cannot be edited. -/
def HasRefusal (tree : String × Classification) : Prop :=
  ∃ owner member reason, MeetsRefusal tree owner member reason

section Steps

variable {n owner member : String} {reason : Refusal} {style : ConstructorStyle}
  {members : List (ResolvedMember Classification)}
  {variants : List (ResolvedVariant Classification)}

theorem MeetsRefusal.head {a b : String × Classification} (hab : Leads a b)
    (h : MeetsRefusal b owner member reason) : MeetsRefusal a owner member reason := by
  obtain ⟨style, members, hb, hm⟩ := h
  exact ⟨style, members, .head hab hb, hm⟩

/-- A refusal below a product is met at one of its members, or beyond one. -/
theorem meetsRefusal_product_iff :
    MeetsRefusal (n, .product style members) owner member reason ↔
      ∃ m ∈ members, m.wrapper = none ∧
        ((n = owner ∧ m.name = member ∧ m.classification = .unsupported reason) ∨
          (m.classification.isComposite ∧
            MeetsRefusal (m.type, m.classification) owner member reason)) := by
  constructor
  · rintro ⟨style', members', hway, m, hm, hname, hw, hk⟩
    rcases hway.cases_head with heq | ⟨b, hlead, hway⟩
    · cases heq
      exact ⟨m, hm, hw, .inl ⟨rfl, hname, hk⟩⟩
    · cases hlead with
      | member hm' hw' hc =>
        exact ⟨_, hm', hw', .inr ⟨hc, style', members', hway, m, hm, hname, hw, hk⟩⟩
  · rintro ⟨m, hm, hw, ⟨rfl, hname, hk⟩ | ⟨hc, hmeets⟩⟩
    · exact ⟨style, members, .refl, m, hm, hname, hw, hk⟩
    · exact hmeets.head (.member hm hw hc)

/-- A refusal below a sum is met in one of its products. -/
theorem meetsRefusal_sum_iff :
    MeetsRefusal (n, .sum variants) owner member reason ↔
      ∃ v ∈ variants, (∃ style members, v.classification = .product style members) ∧
        MeetsRefusal (v.type, v.classification) owner member reason := by
  constructor
  · rintro ⟨style', members', hway, hm⟩
    rcases hway.cases_head with heq | ⟨b, hlead, hway⟩
    · cases heq
    · cases hlead with
      | variant hv hk => exact ⟨_, hv, ⟨_, _, hk⟩, style', members', hway, hm⟩
  · rintro ⟨v, hv, ⟨style, members, hk⟩, hmeets⟩
    exact hmeets.head (.variant hv hk)

end Steps

namespace Planning

variable {c : Configuration} {ds : List Descriptor} {s : Planning} {owner member : String}
  {reason : Refusal}

/-! ## Errors of single steps -/

theorem claimName_error {name key : String} {e : GenerationError}
    (h : s.claimName name key = .error e) : ∃ first, e = .factoryTwice name first key := by
  unfold claimName at h
  split at h
  · split at h
    · cases h
    · cases h
      exact ⟨_, rfl⟩
  · cases h

theorem start_error {name key : String} {e : GenerationError} (h : s.start name key = .error e) :
    ∃ first, e = .factoryTwice name first key := by
  rcases bind_eq_error.1 h with h | ⟨t, -, h⟩
  · exact claimName_error h
  · cases h

theorem claimFunction_error {scope name : String} {e : GenerationError}
    (h : s.claimFunction scope name = .error e) : e = .functionTwice name scope := by
  unfold claimFunction at h
  split at h
  · cases h
    rfl
  · cases h

theorem hold_error {name : String} {held : List HeldFactory} {child : ChildFactory}
    {e : GenerationError} (h : hold c name held child = .error e) :
    ∃ field first second, e = .heldTwice field name first second := by
  unfold hold at h
  split at h
  · cases h
  · split at h
    · cases h
    · split at h
      · cases h
      · cases h
        exact ⟨_, _, _, rfl⟩

theorem obligation_error {type : String} {e : GenerationError}
    (h : obligation c owner member type reason = .error e) :
    c.tolerant = false ∧ e = .unsupportedMember owner member reason := by
  unfold obligation at h
  split at h
  · cases h
  · rename_i htolerant
    cases h
    exact ⟨by simpa using htolerant, rfl⟩

/-! ## Errors that name no member -/

theorem start_ne_unsupportedMember {name key : String} :
    s.start name key ≠ .error (.unsupportedMember owner member reason) := by
  intro h
  obtain ⟨first, h⟩ := start_error h
  cases h

theorem hold_ne_unsupportedMember {name : String} {held : List HeldFactory}
    {child : ChildFactory} :
    hold c name held child ≠ .error (.unsupportedMember owner member reason) := by
  intro h
  obtain ⟨field, first, second, h⟩ := hold_error h
  cases h

/-! ## The planner stops at a member -/

-- Along the recursion of the planner. A step that stops names a member, which is met from where
-- the step started; a step that goes on leaves this to the rest.
mutual

theorem planType_refused {s : Planning} {type : String} :
    ∀ k : Classification,
      planType c type k s = .error (.unsupportedMember owner member reason) →
      c.tolerant = false ∧ MeetsRefusal (type, k) owner member reason
  | k, h => by
    unfold planType at h
    cases hnew : s.plans.lookup type with
    | some q => simp [hnew] at h
    | none =>
      simp only [hnew] at h
      cases k with
      | product style members =>
        rcases bind_eq_error.1 h with h | ⟨s₁, -, h⟩
        · exact absurd h start_ne_unsupportedMember
        · rcases bind_eq_error.1 h with h | ⟨_, -, h⟩
          · exact planMembers_refused style members h
          · cases h
      | sum variants =>
        rcases bind_eq_error.1 h with h | ⟨s₁, -, h⟩
        · exact absurd h start_ne_unsupportedMember
        · rcases bind_eq_error.1 h with h | ⟨_, -, h⟩
          · exact planVariants_refused variants h
          · cases h
      | primitive | enumeration | singleton | external | unsupported => cases h

theorem memberFactory_refused {s : Planning} {name : String} {receiver : Receiver}
    (style : ConstructorStyle) :
    ∀ m : ResolvedMember Classification,
      memberFactory c name receiver m s = .error (.unsupportedMember owner member reason) →
      c.tolerant = false ∧ MeetsRefusal (name, .product style [m]) owner member reason
  | ⟨label, type, nullable, wrapper, k⟩, h => by
    rw [memberFactory_eq] at h
    rcases bind_eq_error.1 h with hbase | ⟨⟨base, s₁⟩, -, h⟩
    · rw [meetsRefusal_product_iff]
      simp only [List.mem_singleton, exists_eq_left]
      cases wrapper with
      | some w => cases hbase
      | none =>
        cases k with
        | product | sum =>
          rcases bind_eq_error.1 hbase with hplan | ⟨_, -, hret⟩
          · obtain ⟨hstrict, hmeets⟩ := planType_refused _ hplan
            exact ⟨hstrict, rfl, .inr ⟨rfl, hmeets⟩⟩
          · cases hret
        | unsupported reason' =>
          rcases bind_eq_error.1 hbase with hf | ⟨_, -, hret⟩
          · obtain ⟨hstrict, heq⟩ := obligation_error hf
            cases heq
            exact ⟨hstrict, rfl, .inl ⟨rfl, rfl, rfl⟩⟩
          · cases hret
        | primitive | enumeration | singleton | external => cases hbase
    · dsimp only at h
      split at h <;> cases h

theorem planMembers_refused {s : Planning} {type name : String} {held : List HeldFactory}
    (style : ConstructorStyle) :
    ∀ members : List (ResolvedMember Classification),
      planMembers c type name members held s = .error (.unsupportedMember owner member reason) →
      c.tolerant = false ∧ MeetsRefusal (type, .product style members) owner member reason
  | [], h => by
    unfold planMembers at h
    cases h
  | m :: ms, h => by
    unfold planMembers at h
    rw [meetsRefusal_product_iff]
    rcases bind_eq_error.1 h with h | ⟨⟨factory, s₁⟩, -, h⟩
    · obtain ⟨hstrict, hmeets⟩ := memberFactory_refused style m h
      obtain ⟨m', hm', hmeets⟩ := meetsRefusal_product_iff.1 hmeets
      exact ⟨hstrict, m', List.mem_cons.2 (.inl (List.mem_singleton.1 hm')), hmeets⟩
    · rcases bind_eq_error.1 h with h | ⟨held₁, -, h⟩
      · exact absurd h hold_ne_unsupportedMember
      · rcases bind_eq_error.1 h with h | ⟨_, -, h⟩
        · obtain ⟨hstrict, hmeets⟩ := planMembers_refused style ms h
          obtain ⟨m', hm', hmeets⟩ := meetsRefusal_product_iff.1 hmeets
          exact ⟨hstrict, m', List.mem_cons_of_mem _ hm', hmeets⟩
        · cases h

theorem planVariants_refused {s : Planning} {type name : String} {held : List HeldFactory} :
    ∀ variants : List (ResolvedVariant Classification),
      planVariants c type name variants held s = .error (.unsupportedMember owner member reason) →
      c.tolerant = false ∧ MeetsRefusal (type, .sum variants) owner member reason
  | [], h => by
    unfold planVariants at h
    cases h
  | ⟨tag, type', .singleton valueless⟩ :: vs, h => by
    unfold planVariants at h
    rcases bind_eq_error.1 h with h | ⟨_, -, h⟩
    · obtain ⟨hstrict, hmeets⟩ := planVariants_refused vs h
      obtain ⟨v, hv, hmeets⟩ := meetsRefusal_sum_iff.1 hmeets
      exact ⟨hstrict, meetsRefusal_sum_iff.2 ⟨v, List.mem_cons_of_mem _ hv, hmeets⟩⟩
    · cases h
  | ⟨tag, type', .product style members⟩ :: vs, h => by
    rw [planVariants_product] at h
    rw [meetsRefusal_sum_iff]
    rcases bind_eq_error.1 h with hplan | ⟨⟨p, s₁⟩, -, h⟩
    · unfold planVariant at hplan
      cases hnew : s.plans.lookup type' with
      | some q => simp [hnew] at hplan
      | none =>
        simp only [hnew] at hplan
        rcases bind_eq_error.1 hplan with hplan | ⟨s₁, -, hplan⟩
        · exact absurd hplan start_ne_unsupportedMember
        · rcases bind_eq_error.1 hplan with hmembers | ⟨_, -, hplan⟩
          · obtain ⟨hstrict, hmeets⟩ := planMembers_refused style members hmembers
            exact ⟨hstrict, _, List.mem_cons_self, ⟨style, members, rfl⟩, hmeets⟩
          · cases hplan
    · rcases bind_eq_error.1 h with h | ⟨held₁, -, h⟩
      · exact absurd h hold_ne_unsupportedMember
      · rcases bind_eq_error.1 h with h | ⟨_, -, h⟩
        · obtain ⟨hstrict, hmeets⟩ := planVariants_refused vs h
          obtain ⟨v, hv, hmeets⟩ := meetsRefusal_sum_iff.1 hmeets
          exact ⟨hstrict, v, List.mem_cons_of_mem _ hv, hmeets⟩
        · cases h
  | ⟨_, _, .primitive _⟩ :: _, h | ⟨_, _, .enumeration _⟩ :: _, h | ⟨_, _, .sum _⟩ :: _, h
  | ⟨_, _, .external _⟩ :: _, h | ⟨_, _, .unsupported _⟩ :: _, h => by
    unfold planVariants at h
    cases h

end

/-! ## Requests -/

theorem companionOf_error {type : String} {d : Descriptor} {e : GenerationError}
    (h : companionOf type d = .error e) : e = .notFactoryTarget type d.kindName := by
  cases d with
  | product | sum => cases h
  | primitive | enumeration | singleton | sealed | external =>
    cases h
    rfl

end Planning

end EditableFields
