import EditableFields.Generation
import EditableFields.Proofs.Planning.Plans

/-!
# Planning: runs with other settings

Settings are looked at in few places. What is written depends on the path of the runtime library
only (`Planning.lines_congr`), and so does the one error that names types of factories. The case of
function names is looked at for each request, and whether members that cannot be edited are left to
the caller where such a member is met (`obligation`).

So two runs with the same path and the same case go the same way, from state to state, until one
meets such a member. How results compare along the way is said by a relation that goes through
steps (`Comparison`), and then the results of all requests compare like that
(`Comparison.planRequests`).
-/

namespace EditableFields

/-! ## What is written -/

section Text

variable {c c' : Configuration} (h : c'.runtime = c.runtime)

include h

theorem Configuration.item_congr : c'.item = c.item := by
  funext name
  rw [item, h, item]

theorem FactoryType.text_congr (t : FactoryType) : t.text c' = t.text c := by
  induction t with
  | optional _ _ ih | transform _ _ _ ih => simp only [text, Configuration.item_congr h, ih]
  | leaf | choice | fixed | shared | external | generated =>
    simp only [text, Configuration.item_congr h]

theorem ChildFactory.expr_congr (child : ChildFactory) : child.expr c' = child.expr c := by
  induction child with
  | optional _ _ _ ih => simp only [expr, Configuration.item_congr h, ih]
  | held receiver factory => cases receiver <;> simp only [expr]
  | leaf | choice | fixed | wrapper | external | unit =>
    simp only [expr, Configuration.item_congr h]

theorem hold_congr : hold c' = hold c := by
  funext owner held child
  simp only [hold, FactoryType.text_congr h]

theorem accessorLines_congr : accessorLines c' = accessorLines c := by
  funext name subject child
  simp only [accessorLines, FactoryType.text_congr h, ChildFactory.expr_congr h]

namespace Plan

theorem methods_congr (p : Plan) : p.methods c' = p.methods c := by
  simp only [methods, constructorMethod, accessorMethods, MemberPlan.accessorMethod,
    VariantPlan.accessorMethod?, accessorLines_congr h, FactoryType.text_congr h]

theorem implementation_congr (p : Plan) : p.implementation c' = p.implementation c := by
  have slots : ∀ value, VariantPlan.slotLines c' value = VariantPlan.slotLines c value := by
    intro value
    funext v
    simp only [VariantPlan.slotLines, VariantPlan.factoryExpr, ChildFactory.expr_congr h,
      Configuration.item_congr h]
  simp only [implementation, productImplementation, sumImplementation, implementationHead, slots,
    Configuration.item_congr h]

theorem lines_congr (p : Plan) : p.lines c' = p.lines c := by
  have fields : heldLines c' = heldLines c := by
    funext f
    simp only [heldLines, FactoryType.text_congr h]
  simp only [lines, declaration, methodBlock, fields, methods_congr h, implementation_congr h]

end Plan

theorem Entry.lines_congr (e : Entry) : e.lines c' = e.lines c := by
  simp only [lines, functionLines, factoryPath, factoryParameter, FactoryType.text_congr h,
    ChildFactory.expr_congr h, Configuration.item_congr h]

theorem Planning.lines_congr (s : Planning) : s.lines c' = s.lines c := by
  simp only [lines, Plan.lines_congr h, Entry.lines_congr h]

end Text

namespace Planning

/-! ## The planner -/

/-- The results of two runs with settings that differ in nothing that is written or named compare
by a relation: what is the same compares, so does what follows on results that compare, and so does
what the runs make of a member that cannot be edited. -/
structure Comparison (c c' : Configuration)
    (R : {α : Type} → Except GenerationError α → Except GenerationError α → Prop) : Prop where
  runtime_eq : c'.runtime = c.runtime
  nameCase_eq : c'.nameCase = c.nameCase
  refl : ∀ {α} (x : Except GenerationError α), R x x
  bind : ∀ {α β} {x y : Except GenerationError α} {f g : α → Except GenerationError β},
    R x y → (∀ a, R (f a) (g a)) → R (x >>= f) (y >>= g)
  obligation : ∀ owner member type reason,
    R (obligation c owner member type reason) (obligation c' owner member type reason)

namespace Comparison

variable {c c' : Configuration}
  {R : {α : Type} → Except GenerationError α → Except GenerationError α → Prop}

-- Along the recursion of the planner: what results compare by holds of a step and of the rest, for
-- both runs go on with the same state.
mutual

theorem planType (h : Comparison c c' R) (type : String) :
    ∀ (k : Classification) (s : Planning), R (planType c type k s) (planType c' type k s)
  | k, s => by
    unfold Planning.planType
    cases s.plans.lookup type with
    | some p => exact h.refl _
    | none =>
      cases k with
      | product style members =>
        exact h.bind (h.refl _) fun t =>
          h.bind (h.planMembers type _ members [] t) fun _ => h.refl _
      | sum variants =>
        exact h.bind (h.refl _) fun t =>
          h.bind (h.planVariants type _ variants [] t) fun _ => h.refl _
      | primitive | enumeration | singleton | external | unsupported => exact h.refl _

theorem memberFactory (h : Comparison c c' R) (owner : String) (receiver : Receiver) :
    ∀ (m : ResolvedMember Classification) (s : Planning),
      R (memberFactory c owner receiver m s) (memberFactory c' owner receiver m s)
  | ⟨name, type, nullable, wrapper, k⟩, s => by
    rw [memberFactory_eq, memberFactory_eq]
    refine h.bind ?_ fun _ => h.refl _
    cases wrapper with
    | some w => exact h.refl _
    | none =>
      cases k with
      | product | sum => exact h.bind (h.planType type _ s) fun _ => h.refl _
      | unsupported reason => exact h.bind (h.obligation owner name type reason) fun _ => h.refl _
      | primitive | enumeration | singleton | external => exact h.refl _

theorem planMembers (h : Comparison c c' R) (owner name : String) :
    ∀ (members : List (ResolvedMember Classification)) (held : List HeldFactory) (s : Planning),
      R (planMembers c owner name members held s) (planMembers c' owner name members held s)
  | [], held, s => by
    unfold Planning.planMembers
    exact h.refl _
  | m :: ms, held, s => by
    unfold Planning.planMembers
    refine h.bind (h.memberFactory owner .own m s) fun ⟨factory, t⟩ => ?_
    rw [hold_congr h.runtime_eq]
    exact h.bind (h.refl _) fun held' =>
      h.bind (h.planMembers owner name ms held' t) fun _ => h.refl _

theorem planVariants (h : Comparison c c' R) (owner name : String) :
    ∀ (variants : List (ResolvedVariant Classification)) (held : List HeldFactory) (s : Planning),
      R (planVariants c owner name variants held s) (planVariants c' owner name variants held s)
  | [], held, s => by
    unfold Planning.planVariants
    exact h.refl _
  | ⟨tag, type, .singleton valueless⟩ :: vs, held, s => by
    unfold Planning.planVariants
    exact h.bind (h.planVariants owner name vs held s) fun _ => h.refl _
  | ⟨tag, type, .product style members⟩ :: vs, held, s => by
    rw [planVariants_product, planVariants_product]
    refine h.bind ?_ fun ⟨p, t⟩ => ?_
    · unfold planVariant
      cases s.plans.lookup type with
      | some p => exact h.refl _
      | none =>
        exact h.bind (h.refl _) fun t =>
          h.bind (h.planMembers type _ members [] t) fun _ => h.refl _
    · rw [hold_congr h.runtime_eq]
      exact h.bind (h.refl _) fun held' =>
        h.bind (h.planVariants owner name vs held' t) fun _ => h.refl _
  | ⟨_, _, .primitive _⟩ :: _, held, s | ⟨_, _, .enumeration _⟩ :: _, held, s
  | ⟨_, _, .sum _⟩ :: _, held, s | ⟨_, _, .external _⟩ :: _, held, s
  | ⟨_, _, .unsupported _⟩ :: _, held, s => by
    unfold Planning.planVariants
    exact h.refl _

end

/-! ## Requests -/

variable (h : Comparison c c' R)

include h

theorem planFactory (catalog : Catalog) (r : Request) (d : Descriptor) (s : Planning) :
    R (planFactory c catalog r d s) (planFactory c' catalog r d s) := by
  refine h.bind (h.refl _) fun companion => ?_
  dsimp only
  split
  · exact h.refl _
  · rcases s.survey.classify catalog d with ⟨k, survey⟩
    rw [h.nameCase_eq]
    cases k with
    | unsupported reason => exact h.refl _
    | primitive | enumeration | singleton | product | sum | external =>
      exact h.bind (h.planType r.type _ _) fun _ => h.refl _

theorem planField (catalog : Catalog) (r : Request) (d : Descriptor) (s : Planning) :
    R (planField c catalog r d s) (planField c' catalog r d s) := by
  unfold Planning.planField
  rcases subjectOf catalog r d s.survey with ⟨⟨name, type, nullable, wrapper, k⟩, survey⟩
  rw [h.nameCase_eq]
  cases k with
  | unsupported reason => exact h.refl _
  | primitive | enumeration | singleton | product | sum | external =>
    exact h.bind (h.refl _) fun t => h.bind (h.memberFactory r.type .parameter _ t) fun _ =>
      h.refl _

theorem planRequest (catalog : Catalog) (r : Request) (s : Planning) :
    R (planRequest c catalog r s) (planRequest c' catalog r s) := by
  unfold Planning.planRequest
  cases catalog.get? r.type with
  | none => exact h.refl _
  | some d =>
    cases r.directive with
    | factory => exact h.planFactory catalog r d s
    | field => exact h.planField catalog r d s

/-- Runs that compare at every step compare as a whole. -/
theorem planRequests (catalog : Catalog) (rs : List Request) (s : Planning) :
    R (planRequests c catalog rs s) (planRequests c' catalog rs s) := by
  induction rs generalizing s with
  | nil => exact h.refl _
  | cons r rs ih => exact h.bind (h.planRequest catalog r s) ih

end Comparison

end Planning

end EditableFields
