import EditableFields.Proofs.Planning.Emission
import EditableFields.Proofs.Survey.Mirror

/-!
# Planning: what plans are made of

A finished plan is made of the classification that its key was found to have, and of other finished
plans (`Made`): each member has the factory that its classification and the plan of its type call
for (`ChildOf`), and the plan holds what its children need held. It edits the values of the type
that its key names, a variant's those of the sum (`Edits`). Between requests this holds of every
plan (`AllMade`), so facts about the generated factories follow from `Made` alone, by induction
on the time at which types were classified, and need not look into the planner again.
-/

namespace EditableFields

/-! ## Whose values are edited -/

mutual

/-- The name of a descriptor with the type of the values it describes, and the same for its
variants at every depth: the value of a variant is one of its sum. -/
def Descriptor.values (value : String) : Descriptor → List (String × String)
  | .sum name variants _ => (name, value) :: variantValues name variants
  | .primitive p => [(p.name, value)]
  | .enumeration name _ => [(name, value)]
  | .singleton name _ => [(name, value)]
  | .product name _ => [(name, value)]
  | .sealed name => [(name, value)]
  | .external name _ => [(name, value)]

def variantValues (value : String) : List Descriptor → List (String × String)
  | [] => []
  | v :: vs => v.values value ++ variantValues value vs

end

/-- The values described under the name `key` are of the type `value`. -/
def Edits (catalog : Catalog) (key value : String) : Prop :=
  (key, value) ∈ catalog.types.flatMap fun d => d.values d.name

theorem Descriptor.mem_values_self (value : String) (d : Descriptor) :
    (d.name, value) ∈ d.values value := by
  cases d <;> simp [Descriptor.values, Descriptor.name]

theorem values_subset_variantValues {value : String} {ds : List Descriptor} {d : Descriptor}
    (h : d ∈ ds) : d.values value ⊆ variantValues value ds := by
  induction ds with
  | nil => cases h
  | cons e ds ih =>
    rcases List.mem_cons.1 h with rfl | h
    · exact List.subset_append_left _ _
    · exact List.Subset.trans (ih h) (List.subset_append_right _ _)

/-- The values of what stands in a catalog are among those of the catalog. -/
theorem Placed.edits_of_mem_values {catalog : Catalog} {standing : Standing} {d : Descriptor}
    (h : Placed catalog standing d) :
    ∃ value, ∀ p ∈ d.values value, Edits catalog p.1 p.2 := by
  induction h with
  | @type d hd => exact ⟨d.name, fun p hp => List.mem_flatMap.2 ⟨d, hd, hp⟩⟩
  | @variant standing name variants companion v _ hv ih =>
    obtain ⟨value, hsum⟩ := ih
    refine ⟨name, fun p hp => hsum p ?_⟩
    rw [Descriptor.values]
    exact List.mem_cons_of_mem _ (values_subset_variantValues hv hp)

theorem edits_of_get? {ds : List Descriptor} {n : String} {d : Descriptor}
    (h : (Catalog.ofList ds).get? n = some d) : Edits (.ofList ds) n n := by
  refine List.mem_flatMap.2 ⟨d, Catalog.mem_types_of_get? h, ?_⟩
  obtain rfl := Catalog.get?_ofList_name h
  exact d.mem_values_self d.name

theorem Placed.edits_variant {catalog : Catalog} {standing : Standing} {name : String}
    {variants : List Descriptor} {companion : Bool} {v : Descriptor}
    (h : Placed catalog standing (.sum name variants companion)) (hv : v ∈ variants) :
    Edits catalog v.name name := by
  obtain ⟨value, hsum⟩ := h.edits_of_mem_values
  refine hsum (v.name, name) ?_
  rw [Descriptor.values]
  exact List.mem_cons_of_mem _ (values_subset_variantValues hv (v.mem_values_self name))

mutual

theorem Descriptor.map_fst_values (value : String) : ∀ d : Descriptor,
    (d.values value).map Prod.fst = d.names
  | .sum name variants companion => by
    simp [Descriptor.values, Descriptor.names, map_fst_variantValues name variants]
  | .primitive _ | .enumeration .. | .singleton .. | .product .. | .sealed _ | .external .. => rfl

theorem map_fst_variantValues (value : String) : ∀ ds : List Descriptor,
    (variantValues value ds).map Prod.fst = variantNames ds
  | [] => rfl
  | d :: ds => by
    simp [variantValues, variantNames, Descriptor.map_fst_values value d,
      map_fst_variantValues value ds]

end

theorem map_fst_flatMap_values (ds : List Descriptor) :
    (ds.flatMap fun d => d.values d.name).map Prod.fst = variantNames ds := by
  induction ds with
  | nil => rfl
  | cons d ds ih => simp [variantNames, Descriptor.map_fst_values d.name d, ih]

/-- Where names differ at every depth, a name that is no primitive's describes values of one
type. -/
theorem Edits.unique {ds : List Descriptor} (distinct : (variantNames ds).Nodup)
    {key value value' : String} (h : Edits (.ofList ds) key value)
    (h' : Edits (.ofList ds) key value') (hprim : Primitive.ofTypeName? key = none) :
    value = value' := by
  -- The names of the primitives come first, and the key is none of them.
  have declared : ∀ {v}, Edits (.ofList ds) key v →
      (key, v) ∈ ds.flatMap fun d => d.values d.name := by
    intro v hv
    rw [Edits, Catalog.types_ofList, List.flatMap_append, List.mem_append] at hv
    refine hv.resolve_left fun hv => ?_
    obtain ⟨d, hd, hv⟩ := List.mem_flatMap.1 hv
    obtain ⟨kind, -, rfl⟩ := List.mem_map.1 hd
    simp only [Descriptor.values, List.mem_singleton, Prod.mk.injEq] at hv
    rw [hv.1, Primitive.name_named, Primitive.ofTypeName?_typeName] at hprim
    cases hprim
  rw [← map_fst_flatMap_values] at distinct
  exact congrArg Prod.snd (List.inj_on_of_nodup_map distinct (declared h) (declared h') rfl)

namespace Planning

variable {catalog : Catalog} {ds : List Descriptor} {c : Configuration} {opens : List String}
  {s t u : Planning} {k : Classification} {p : Plan}

/-! ## What a plan is made of -/

/-- The factory of a member as finished plans give it, not looking at whether it is optional. -/
inductive BaseOf (c : Configuration) (s : Planning) (receiver : Receiver)
    (m : ResolvedMember Classification) : ChildFactory → Prop
  | wrapper {w} : m.wrapper = some w → BaseOf c s receiver m (.wrapper m.type w)
  | leaf {kind} : m.wrapper = none → m.classification = .primitive kind →
      BaseOf c s receiver m (.leaf kind)
  | choice {entries} : m.wrapper = none → m.classification = .enumeration entries →
      BaseOf c s receiver m (.choice m.type entries)
  | fixed {valueless} : m.wrapper = none → m.classification = .singleton valueless →
      BaseOf c s receiver m .fixed
  | external {path} : m.wrapper = none → m.classification = .external path →
      BaseOf c s receiver m (.external path)
  | planned {q} : m.wrapper = none → m.classification.isComposite →
      s.plans.lookup m.type = some q →
      BaseOf c s receiver m (q.child (Name.snake (Name.simple m.type)) receiver)
  | obligation {reason} : m.wrapper = none → m.classification = .unsupported reason →
      c.tolerant = true →
      BaseOf c s receiver m
        (.held .own ⟨Name.obligation m.name, .shared m.type, .obligation m.name reason⟩)

/-- The factory of a member, made optional if the member is. -/
def lift (m : ResolvedMember Classification) (base : ChildFactory) : ChildFactory :=
  if m.nullable then .optional base m.type (valueDefault m.type m.wrapper m.classification)
  else base

/-- The factory of a member as finished plans give it. -/
def ChildOf (c : Configuration) (s : Planning) (receiver : Receiver)
    (m : ResolvedMember Classification) (child : ChildFactory) : Prop :=
  ∃ base, BaseOf c s receiver m base ∧ child = lift m base

/-- A member of a product is planned as a member with its factory. -/
def MemberOf (c : Configuration) (s : Planning) (m : ResolvedMember Classification)
    (planned : MemberPlan) : Prop :=
  ∃ child, ChildOf c s .own m child ∧ planned = .of m child

/-- How a product variant is written. -/
def formOf : ConstructorStyle → VariantForm
  | .named => .named
  | .positional => .positional

/-- A variant of a sum is planned as a constant, or by the factory of a finished plan. -/
inductive VariantOf (s : Planning) : ResolvedVariant Classification → VariantPlan → Prop
  | valueless {tag type} :
      VariantOf s ⟨tag, type, .singleton true⟩ ⟨tag, type, .path, type, .fixed, none⟩
  | marker {tag type} :
      VariantOf s ⟨tag, type, .singleton false⟩
        ⟨tag, type, .marker, type ++ " \x7b\x7d", .fixed, none⟩
  | product {tag type style members q} : s.plans.lookup type = some q →
      VariantOf s ⟨tag, type, .product style members⟩
        ⟨tag, type, formOf style, construct type style q.body.memberDefaults,
          q.child (Name.snake tag) .own, some (Name.accessor tag)⟩

/-- A plan holds what its children need held, in their order. -/
def HoldsFor (c : Configuration) (p : Plan) : Prop :=
  p.body.children.foldlM (hold c p.name) [] = .ok p.held

/-- What a classification is planned as. -/
inductive Made (c : Configuration) (s : Planning) (p : Plan) : Classification → Prop
  | product {style members plans standing} : p.body = .product p.key style plans standing →
      List.Forall₂ (MemberOf c s) members plans → HoldsFor c p →
      Made c s p (.product style members)
  | sum {variants plans} : p.body = .sum plans → List.Forall₂ (VariantOf s) variants plans →
      p.value = p.key → HoldsFor c p → Made c s p (.sum variants)

/-- Every finished plan is made of what its key was found to be, and edits the values that the key
describes. -/
def AllMade (catalog : Catalog) (c : Configuration) (s : Planning) : Prop :=
  ∀ key p, s.plans.lookup key = some p → p.key = key ∧ Edits catalog key p.value ∧
    ∃ k, s.survey.memoized key = some k ∧ Made c s p k

theorem BaseOf.keep {receiver : Receiver} {m : ResolvedMember Classification}
    {child : ChildFactory} (h : BaseOf c s receiver m child) (hk : Kept s t) :
    BaseOf c t receiver m child := by
  cases h with
  | wrapper hw => exact .wrapper hw
  | leaf hw h => exact .leaf hw h
  | choice hw h => exact .choice hw h
  | fixed hw h => exact .fixed hw h
  | external hw h => exact .external hw h
  | planned hw h hp => exact .planned hw h (hk.plans hp)
  | obligation hw h hc => exact .obligation hw h hc

theorem ChildOf.keep {receiver : Receiver} {m : ResolvedMember Classification}
    {child : ChildFactory} (h : ChildOf c s receiver m child) (hk : Kept s t) :
    ChildOf c t receiver m child :=
  h.imp fun _ hbase => ⟨hbase.1.keep hk, hbase.2⟩

theorem MemberOf.keep {m : ResolvedMember Classification} {planned : MemberPlan}
    (h : MemberOf c s m planned) (hk : Kept s t) : MemberOf c t m planned :=
  h.imp fun _ hchild => ⟨hchild.1.keep hk, hchild.2⟩

theorem VariantOf.keep {v : ResolvedVariant Classification} {planned : VariantPlan}
    (h : VariantOf s v planned) (hk : Kept s t) : VariantOf t v planned := by
  cases h with
  | valueless => exact .valueless
  | marker => exact .marker
  | product hp => exact .product (hk.plans hp)

theorem Made.keep (h : Made c s p k) (hk : Kept s t) : Made c t p k := by
  cases h with
  | product hbody hmembers hheld =>
    exact .product hbody (hmembers.imp fun _ _ h => h.keep hk) hheld
  | sum hbody hvariants hvalue hheld =>
    exact .sum hbody (hvariants.imp fun _ _ h => h.keep hk) hvalue hheld

/-- With the same plans, what they are made of is kept. -/
theorem AllMade.keep (h : AllMade catalog c s) (hk : Kept s t) (hplans : t.plans = s.plans) :
    AllMade catalog c t := by
  intro key p hp
  rw [hplans] at hp
  obtain ⟨hkey, hedits, k, hmemo, hmade⟩ := h key p hp
  exact ⟨hkey, hedits, k, hk.memoized hmemo, hmade.keep hk⟩

/-- A plan that is finished joins the plans that were finished before. -/
theorem AllMade.finish (h : AllMade catalog c s) (hnew : ¬ s.Planned p.key)
    (hedits : Edits catalog p.key p.value) (hmemo : s.survey.memoized p.key = some k)
    (hmade : Made c s p k) : AllMade catalog c (s.finish p).2 := by
  have hk : Kept s (s.finish p).2 := (Grown.finish s hnew).kept
  intro key q hq
  rw [lookup_finish] at hq
  split at hq
  · rename_i heq
    cases hq
    exact ⟨heq.symm, heq ▸ hedits, k, heq ▸ hmemo, hmade.keep hk⟩
  · obtain ⟨hkey, hedits', k', hmemo', hmade'⟩ := h key q hq
    exact ⟨hkey, hedits', k', hk.memoized hmemo', hmade'.keep hk⟩

end Planning

end EditableFields
