import EditableFields.Survey
import Mathlib.Data.List.Nodup
import Mathlib.Logic.Relation

/-!
# Catalogs: what a name means, and what refers to what

Look-ups in a catalog that was built by adding descriptors: a name means the last descriptor that
was added under it (`get?_addAll`), so a descriptor that is found has the name it was found under
(`get?_ofList_name`), and where names differ every declared descriptor is found
(`get?_ofList_of_mem`).

The graph of references is the relation `Refers` on descriptors: a product refers to the types of
its members that are no value wrappers, a sum to its variants. `Placed` says as what a descriptor
stands in a catalog, and `Catalog.Spells` which names anything there is written with. Where the
names of a catalog differ at every depth, a name that is no primitive's has one place
(`Placed.unique`). A type of primitive kind may have any name; where each has its primitive's, the
catalog is said to name primitives (`Catalog.NamesPrimitives`).
-/

namespace EditableFields

namespace Catalog

/-! ## Look-ups -/

/-- Every position that is found in the index is that of a descriptor with the name it was found
under. -/
def Indexed (c : Catalog) : Prop :=
  ∀ n i, c.index.lookup n = some i → ∃ d, c.types[i]? = some d ∧ d.name = n

theorem indexed_bare : bare.Indexed := by
  intro n i h
  simp [bare] at h

theorem lookup_index_add (c : Catalog) (d : Descriptor) (n : String) :
    (c.add d).index.lookup n =
      if n = d.name then some c.types.length else c.index.lookup n := by
  simp only [add, List.lookup_cons]
  by_cases hn : n = d.name
  · simp [hn]
  · simp [hn, beq_eq_false_iff_ne.2 hn]

theorem Indexed.add {c : Catalog} (h : c.Indexed) (d : Descriptor) : (c.add d).Indexed := by
  intro n i hi
  rw [lookup_index_add] at hi
  split at hi
  · rename_i hn
    cases hi
    exact ⟨d, by simp [Catalog.add], hn.symm⟩
  · obtain ⟨e, he, hne⟩ := h n i hi
    exact ⟨e, by simp [Catalog.add, List.getElem?_append_left
      (List.getElem?_eq_some_iff.1 he).1, he], hne⟩

theorem Indexed.addAll {c : Catalog} (h : c.Indexed) (ds : List Descriptor) :
    (c.addAll ds).Indexed := by
  induction ds generalizing c with
  | nil => exact h
  | cons d ds ih => exact ih (h.add d)

theorem indexed_primitives : primitives.Indexed := indexed_bare.addAll _

theorem indexed_ofList (ds : List Descriptor) : (ofList ds).Indexed :=
  indexed_primitives.addAll ds

theorem Indexed.get?_name {c : Catalog} (h : c.Indexed) {n : String} {d : Descriptor}
    (hd : c.get? n = some d) : d.name = n := by
  obtain ⟨i, hi, hid⟩ := Option.bind_eq_some_iff.1 hd
  obtain ⟨e, he, hne⟩ := h n i hi
  rw [hid] at he
  cases he
  exact hne

theorem Indexed.has_iff {c : Catalog} (h : c.Indexed) {n : String} :
    c.has n = true ↔ ∃ d, c.get? n = some d := by
  rw [has, Option.isSome_iff_exists]
  constructor
  · rintro ⟨i, hi⟩
    obtain ⟨d, hd, -⟩ := h n i hi
    exact ⟨d, Option.bind_eq_some_iff.2 ⟨i, hi, hd⟩⟩
  · rintro ⟨d, hd⟩
    obtain ⟨i, hi, -⟩ := Option.bind_eq_some_iff.1 hd
    exact ⟨i, hi⟩

/-- Adding a descriptor changes the meaning of its own name only. -/
theorem Indexed.get?_add {c : Catalog} (h : c.Indexed) (d : Descriptor) (n : String) :
    (c.add d).get? n = if n = d.name then some d else c.get? n := by
  simp only [get?, lookup_index_add]
  split
  · simp [Catalog.add]
  · cases hi : c.index.lookup n with
    | none => rfl
    | some i =>
      obtain ⟨e, he, -⟩ := h n i hi
      simp [Catalog.add, List.getElem?_append_left (List.getElem?_eq_some_iff.1 he).1]

/-- The last descriptor added under a name is what the name means. -/
theorem Indexed.get?_addAll {c : Catalog} (h : c.Indexed) (ds : List Descriptor) (n : String) :
    (c.addAll ds).get? n = (ds.reverse.find? (·.name == n)).or (c.get? n) := by
  induction ds generalizing c with
  | nil => rfl
  | cons d ds ih =>
    -- The first of the list is added first, so it is looked at last.
    have step : (c.addAll (d :: ds)).get? n = ((c.add d).addAll ds).get? n := rfl
    rw [step, ih (h.add d), h.get?_add, List.reverse_cons, List.find?_append]
    by_cases hn : n = d.name
    · cases ds.reverse.find? (·.name == n) <;> simp [hn]
    · cases ds.reverse.find? (·.name == n) <;> simp [hn, Ne.symm hn]

theorem types_addAll (c : Catalog) (ds : List Descriptor) :
    (c.addAll ds).types = c.types ++ ds := by
  induction ds generalizing c with
  | nil => simp [addAll]
  | cons d ds ih =>
    have step : (c.addAll (d :: ds)).types = ((c.add d).addAll ds).types := rfl
    rw [step, ih]
    simp [add]

theorem types_ofList (ds : List Descriptor) :
    (ofList ds).types = (Primitive.all.map fun kind => .primitive kind.named) ++ ds := by
  rw [ofList, types_addAll, primitives, types_addAll]
  rfl

theorem declared_ofList (ds : List Descriptor) : (ofList ds).declared = ds := by
  rw [declared, types_ofList]
  rfl

theorem ofList_add (ds : List Descriptor) (d : Descriptor) :
    (ofList ds).add d = ofList (ds ++ [d]) := by
  rw [ofList, ofList, addAll, addAll, List.foldl_append]
  rfl

theorem mem_types_of_get? {c : Catalog} {n : String} {d : Descriptor}
    (h : c.get? n = some d) : d ∈ c.types := by
  obtain ⟨i, -, hid⟩ := Option.bind_eq_some_iff.1 h
  exact List.mem_of_getElem? hid

/-- What a name means is declared, or a primitive of the catalog's own. -/
theorem declared_or_primitive_of_get? {ds : List Descriptor} {n : String} {d : Descriptor}
    (h : (ofList ds).get? n = some d) : d ∈ ds ∨ ∃ kind : Primitive, d = .primitive kind := by
  have hmem := mem_types_of_get? h
  rw [types_ofList, List.mem_append] at hmem
  rcases hmem with hmem | hmem
  · obtain ⟨kind, -, rfl⟩ := List.mem_map.1 hmem
    exact .inr ⟨kind, rfl⟩
  · exact .inl hmem

theorem get?_ofList_name {ds : List Descriptor} {n : String} {d : Descriptor}
    (h : (ofList ds).get? n = some d) : d.name = n :=
  (indexed_ofList ds).get?_name h

/-- Where names differ, a declared descriptor is what its name means. -/
theorem get?_ofList_of_mem {ds : List Descriptor} (distinct : (ds.map Descriptor.name).Nodup)
    {d : Descriptor} (hd : d ∈ ds) : (ofList ds).get? d.name = some d := by
  rw [ofList, indexed_primitives.get?_addAll]
  cases hf : ds.reverse.find? (·.name == d.name) with
  | none => simpa using List.find?_eq_none.1 hf d (List.mem_reverse.2 hd)
  | some e =>
    have hname : e.name = d.name := by simpa using List.find?_some hf
    have he : e ∈ ds := List.mem_reverse.1 (List.mem_of_find?_eq_some hf)
    rw [List.inj_on_of_nodup_map distinct he hd hname]
    rfl

end Catalog

/-! ## References -/

/-- The type that a product has to look into for a member. There is none if the name of the type
means nothing, and none for a value wrapper, which stands for its primitive. -/
def Catalog.memberType? (catalog : Catalog) (m : Member) : Option Descriptor :=
  (catalog.get? m.type).filter (·.valueWrapper?.isNone)

theorem Catalog.memberType?_eq_some_iff {catalog : Catalog} {m : Member} {e : Descriptor} :
    catalog.memberType? m = some e ↔
      catalog.get? m.type = some e ∧ e.valueWrapper? = none := by
  simp [memberType?, Option.filter_eq_some_iff]

/-- What a type refers to: a product to the types of its members that are no value wrappers, a sum
to its variants. -/
inductive Refers (catalog : Catalog) : Descriptor → Descriptor → Prop
  | member {name content m e} : m ∈ content.members → catalog.memberType? m = some e →
      Refers catalog (.product name content) e
  | variant {name variants companion v} : v ∈ variants →
      Refers catalog (.sum name variants companion) v

/-- What can be taken apart in a catalog, and as what: the types of the catalog, and the variants
of sums at every depth. -/
inductive Placed (catalog : Catalog) : Standing → Descriptor → Prop
  | type {d} : d ∈ catalog.types → Placed catalog .topLevel d
  | variant {standing name variants companion v} :
      Placed catalog standing (.sum name variants companion) → v ∈ variants →
      Placed catalog .variant v

theorem Placed.of_get? {catalog : Catalog} {n : String} {d : Descriptor}
    (h : catalog.get? n = some d) : Placed catalog .topLevel d :=
  .type (Catalog.mem_types_of_get? h)

theorem Placed.refers {catalog : Catalog} {standing : Standing} {d e : Descriptor}
    (h : Placed catalog standing d) (hr : Refers catalog d e) :
    ∃ standing, Placed catalog standing e := by
  cases hr with
  | member _ hm => exact ⟨_, .of_get? (Catalog.memberType?_eq_some_iff.1 hm).1⟩
  | variant hv => exact ⟨_, .variant h hv⟩

/-! ## The names in a catalog -/

/-- The names that a type is written with, those of its variants apart. -/
def Descriptor.spelling : Descriptor → List String
  | .primitive p => [p.name]
  | .enumeration name entries => name :: entries
  | .product name content => name :: content.members.flatMap fun m => [m.name, m.type]
  | .external name factory => [name, factory]
  | .singleton name _ | .sum name _ _ | .sealed name => [name]

/-- A type of the catalog, or a variant in one at some depth, is written with the name. -/
def Catalog.Spells (catalog : Catalog) (n : String) : Prop :=
  ∃ standing d, Placed catalog standing d ∧ n ∈ d.spelling

namespace Placed

variable {catalog : Catalog} {standing : Standing}

theorem spells_name {d : Descriptor} (h : Placed catalog standing d) : catalog.Spells d.name :=
  ⟨standing, d, h, by cases d <;> simp [Descriptor.spelling, Descriptor.name]⟩

theorem spells_member {name : String} {content : Product}
    (h : Placed catalog standing (.product name content)) {m : Member} (hm : m ∈ content.members) :
    catalog.Spells m.name ∧ catalog.Spells m.type := by
  refine ⟨⟨standing, _, h, ?_⟩, ⟨standing, _, h, ?_⟩⟩
  · exact List.mem_cons_of_mem _ (List.mem_flatMap.2 ⟨m, hm, by simp⟩)
  · exact List.mem_cons_of_mem _ (List.mem_flatMap.2 ⟨m, hm, by simp⟩)

theorem spells_entry {name : String} {entries : List String}
    (h : Placed catalog standing (.enumeration name entries)) {e : String} (he : e ∈ entries) :
    catalog.Spells e :=
  ⟨standing, _, h, List.mem_cons_of_mem _ he⟩

theorem spells_factory {name factory : String}
    (h : Placed catalog standing (.external name factory)) : catalog.Spells factory :=
  ⟨standing, _, h, by simp [Descriptor.spelling]⟩

end Placed

theorem Catalog.spells_of_get? {ds : List Descriptor} {n : String} {d : Descriptor}
    (h : (Catalog.ofList ds).get? n = some d) : (Catalog.ofList ds).Spells n :=
  Catalog.get?_ofList_name h ▸ (Placed.of_get? h).spells_name

/-- The member that a value wrapper wraps is a member of the wrapper's type. -/
theorem Placed.spells_wrapped {catalog : Catalog} {standing : Standing} {d : Descriptor}
    {w : ValueWrapper} (h : Placed catalog standing d) (hw : d.valueWrapper? = some w) :
    catalog.Spells w.member := by
  unfold Descriptor.valueWrapper? at hw
  split at hw
  · split at hw
    · cases hw
    · obtain ⟨kind, -, rfl⟩ := Option.map_eq_some_iff.1 hw
      exact (h.spells_member (List.mem_singleton_self _)).1
  · cases hw

/-! ## One place for one name -/

mutual

/-- A descriptor as it stands and its variants at every depth, in the order of their names. -/
def Descriptor.places (standing : Standing) : Descriptor → List (Standing × Descriptor)
  | .sum name variants companion =>
    (standing, .sum name variants companion) :: placesOf .variant variants
  | .primitive p => [(standing, .primitive p)]
  | .enumeration name entries => [(standing, .enumeration name entries)]
  | .singleton name valueless => [(standing, .singleton name valueless)]
  | .product name content => [(standing, .product name content)]
  | .sealed name => [(standing, .sealed name)]
  | .external name factory => [(standing, .external name factory)]

/-- Descriptors as they stand and their variants at every depth. -/
def placesOf (standing : Standing) : List Descriptor → List (Standing × Descriptor)
  | [] => []
  | d :: ds => d.places standing ++ placesOf standing ds

end

theorem Descriptor.mem_places_self (standing : Standing) (d : Descriptor) :
    (standing, d) ∈ d.places standing := by
  cases d <;> simp [Descriptor.places]

theorem mem_placesOf {standing : Standing} {ds : List Descriptor}
    {p : Standing × Descriptor} :
    p ∈ placesOf standing ds ↔ ∃ d ∈ ds, p ∈ d.places standing := by
  induction ds with
  | nil => simp [placesOf]
  | cons d ds ih => simp [placesOf, ih]

mutual

theorem Descriptor.map_name_places (standing : Standing) : ∀ d : Descriptor,
    (d.places standing).map (·.2.name) = d.names
  | .sum name variants companion => by
    simp only [Descriptor.places, Descriptor.names, List.map_cons,
      map_name_placesOf .variant variants]
    rfl
  | .primitive _ | .enumeration .. | .singleton .. | .product .. | .sealed _ | .external .. => rfl

theorem map_name_placesOf (standing : Standing) : ∀ ds : List Descriptor,
    (placesOf standing ds).map (·.2.name) = variantNames ds
  | [] => rfl
  | d :: ds => by
    simp [placesOf, variantNames, Descriptor.map_name_places standing d,
      map_name_placesOf standing ds]

end

theorem Descriptor.name_mem_names (d : Descriptor) : d.name ∈ d.names := by
  cases d <;> simp [Descriptor.names, Descriptor.name]

theorem map_name_sublist_variantNames (ds : List Descriptor) :
    (ds.map Descriptor.name).Sublist (variantNames ds) := by
  induction ds with
  | nil => exact .slnil
  | cons d ds ih =>
    have first : [d.name].Sublist d.names := List.singleton_sublist.2 d.name_mem_names
    exact first.append ih

/-- Where names differ at every depth, the names of the declared types differ. -/
theorem nodup_map_name {ds : List Descriptor} (distinct : (variantNames ds).Nodup) :
    (ds.map Descriptor.name).Nodup :=
  distinct.sublist (map_name_sublist_variantNames ds)

mutual

/-- The places of a descriptor are closed under going to a variant. -/
theorem Descriptor.variant_mem_places {standing st : Standing} {name : String}
    {variants : List Descriptor} {companion : Bool} {v : Descriptor} (hv : v ∈ variants) :
    ∀ d : Descriptor, (st, Descriptor.sum name variants companion) ∈ d.places standing →
      (.variant, v) ∈ d.places standing
  | .sum name' variants' companion', h => by
    simp only [Descriptor.places, List.mem_cons] at h ⊢
    rcases h with h | h
    · cases h
      exact .inr (mem_placesOf.2 ⟨v, hv, v.mem_places_self .variant⟩)
    · exact .inr (variant_mem_placesOf hv variants' h)
  | .primitive _, h | .enumeration .., h | .singleton .., h | .product .., h | .sealed _, h
  | .external .., h => by
    simp [Descriptor.places] at h

theorem variant_mem_placesOf {standing st : Standing} {name : String}
    {variants : List Descriptor} {companion : Bool} {v : Descriptor} (hv : v ∈ variants) :
    ∀ ds : List Descriptor, (st, Descriptor.sum name variants companion) ∈ placesOf standing ds →
      (.variant, v) ∈ placesOf standing ds
  | [], h => by simp [placesOf] at h
  | d :: ds, h => by
    simp only [placesOf, List.mem_append] at h ⊢
    exact h.imp (Descriptor.variant_mem_places hv d) (variant_mem_placesOf hv ds)

end

theorem Placed.mem_placesOf {catalog : Catalog} {standing : Standing} {d : Descriptor}
    (h : Placed catalog standing d) : (standing, d) ∈ placesOf .topLevel catalog.types := by
  induction h with
  | type hd => exact EditableFields.mem_placesOf.2 ⟨_, hd, Descriptor.mem_places_self _ _⟩
  | variant _ hv ih => exact variant_mem_placesOf hv _ ih

/-- What stands in a built catalog is a primitive of its own or stands in what was added. -/
theorem Placed.declared_or_primitive {ds : List Descriptor} {standing : Standing}
    {d : Descriptor} (h : Placed (.ofList ds) standing d) :
    (standing, d) ∈ placesOf .topLevel ds ∨
      ∃ kind : Primitive, (standing, d) = (.topLevel, .primitive kind) := by
  obtain ⟨e, he, hd⟩ := EditableFields.mem_placesOf.1 h.mem_placesOf
  rw [Catalog.types_ofList, List.mem_append] at he
  rcases he with he | he
  · obtain ⟨kind, -, rfl⟩ := List.mem_map.1 he
    exact .inr ⟨kind, by simpa [Descriptor.places] using hd⟩
  · exact .inl (EditableFields.mem_placesOf.2 ⟨e, he, hd⟩)

/-- Each type of primitive kind, in the catalog or in one of its sums at some depth, bears the name
of its primitive. -/
def Catalog.NamesPrimitives (catalog : Catalog) : Prop :=
  ∀ standing p, Placed catalog standing (.primitive p) → p.name = p.kind.typeName

/-- The catalog's own primitives bear their names, so this is up to what was added. -/
theorem Catalog.namesPrimitives_ofList {ds : List Descriptor}
    (h : ∀ standing p, (standing, .primitive p) ∈ placesOf .topLevel ds →
      p.name = p.kind.typeName) : (ofList ds).NamesPrimitives := by
  intro standing p hp
  rcases hp.declared_or_primitive with hd | ⟨kind, hkind⟩
  · exact h standing p hd
  · cases hkind
    rfl

theorem Primitive.ofTypeName?_typeName (kind : Primitive) :
    Primitive.ofTypeName? kind.typeName = some kind := by
  cases kind <;> decide

theorem Primitive.typeName_of_ofTypeName? {n : String} {kind : Primitive}
    (h : Primitive.ofTypeName? n = some kind) : kind.typeName = n := by
  simpa using List.find?_some h

theorem Primitive.ofTypeName?_eq_none_iff {n : String} :
    Primitive.ofTypeName? n = none ↔ ∀ kind : Primitive, kind.typeName ≠ n := by
  constructor
  · rintro h kind rfl
    rw [Primitive.ofTypeName?_typeName] at h
    cases h
  · intro h
    cases hkind : Primitive.ofTypeName? n with
    | none => rfl
    | some kind => exact absurd (Primitive.typeName_of_ofTypeName? hkind) (h kind)

theorem Catalog.has_primitives {n : String} (h : Primitive.ofTypeName? n = none) :
    Catalog.primitives.has n = false := by
  rw [has, Option.isSome_eq_false_iff, Option.isNone_iff_eq_none]
  cases hi : primitives.index.lookup n with
  | none => rfl
  | some i =>
    obtain ⟨d, hd, rfl⟩ := indexed_primitives n i hi
    have hmem : d ∈ (ofList []).types := List.mem_of_getElem? hd
    rw [types_ofList, List.append_nil] at hmem
    obtain ⟨kind, -, rfl⟩ := List.mem_map.1 hmem
    rw [Descriptor.name, Primitive.name_named, Primitive.ofTypeName?_typeName] at h
    cases h

theorem Catalog.get?_primitives (n : String) :
    Catalog.primitives.get? n = (Primitive.ofTypeName? n).map fun kind => .primitive kind.named := by
  cases hn : Primitive.ofTypeName? n with
  | none =>
    have hnone := has_primitives hn
    rw [has, Option.isSome_eq_false_iff, Option.isNone_iff_eq_none] at hnone
    rw [get?, hnone]
    rfl
  | some kind =>
    obtain rfl := Primitive.typeName_of_ofTypeName? hn
    cases kind <;> rfl

/-- A name means the last descriptor that was added under it, else the primitive of that name. -/
theorem Catalog.get?_ofList (ds : List Descriptor) (n : String) :
    (ofList ds).get? n =
      (ds.reverse.find? (·.name == n)).or
        ((Primitive.ofTypeName? n).map fun kind => .primitive kind.named) := by
  rw [ofList, indexed_primitives.get?_addAll, get?_primitives]

/-- A name that means nothing yet is no primitive's and no declared type's. -/
theorem Catalog.fresh_of_has_eq_false {ds : List Descriptor} {n : String}
    (h : (ofList ds).has n = false) :
    Primitive.ofTypeName? n = none ∧ n ∉ ds.map Descriptor.name := by
  have hnone : (ofList ds).get? n = none := by
    rw [has, Option.isSome_eq_false_iff, Option.isNone_iff_eq_none] at h
    rw [get?, h]
    rfl
  rw [get?_ofList, Option.or_eq_none_iff, List.find?_eq_none, Option.map_eq_none_iff] at hnone
  obtain ⟨hds, hprimitive⟩ := hnone
  refine ⟨hprimitive, ?_⟩
  rw [List.mem_map]
  rintro ⟨d, hd, rfl⟩
  exact hds d (List.mem_reverse.2 hd) (beq_self_eq_true _)

/-- Where names differ at every depth, a name that is no primitive's has one place. -/
theorem Placed.unique {ds : List Descriptor} (distinct : (variantNames ds).Nodup)
    {st₁ st₂ : Standing} {d₁ d₂ : Descriptor} (h₁ : Placed (.ofList ds) st₁ d₁)
    (h₂ : Placed (.ofList ds) st₂ d₂) (hname : d₁.name = d₂.name)
    (hprim : Primitive.ofTypeName? d₁.name = none) : st₁ = st₂ ∧ d₁ = d₂ := by
  have notPrimitive : ∀ {st : Standing} {d : Descriptor} {kind : Primitive},
      (st, d) = (Standing.topLevel, Descriptor.primitive kind) →
      Primitive.ofTypeName? d.name ≠ none := by
    rintro st d kind ⟨⟩
    simp [Descriptor.name, Primitive.ofTypeName?_typeName]
  -- What was declared is found at its name in the list of places, where names differ.
  rcases h₁.declared_or_primitive with m₁ | ⟨kind, hk⟩
  · rcases h₂.declared_or_primitive with m₂ | ⟨kind, hk⟩
    · rw [← map_name_placesOf .topLevel ds] at distinct
      exact Prod.ext_iff.1 (List.inj_on_of_nodup_map distinct m₁ m₂ hname)
    · exact absurd (hname ▸ hprim) (notPrimitive hk)
  · exact absurd hprim (notPrimitive hk)

end EditableFields
