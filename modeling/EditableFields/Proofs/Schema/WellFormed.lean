import EditableFields.Proofs.Catalog.Index
import EditableFields.Proofs.Schema.Validity

/-!
# Schemas: the well-formed ones are the valid ones

What a well-formed schema is, said without the check: every type in it, the variants of sums at
every depth included, has a name and no name twice in it (`Descriptor.WellFormed`), and every
request names a type that there is and a function by an identifier (`Request.WellFormed`). The
check accepts these schemas and no others (`Schema.valid_iff_wellFormed`).
-/

namespace EditableFields

/-! ## Well-formed types -/

/-- Members are numbered if each is named by its place. -/
def Numbered (members : List Member) : Prop :=
  ∀ (i : Nat) (m : Member), members[i]? = some m → m.name = toString i

/-- A type that is well formed by itself, whatever its variants are made of. -/
def Descriptor.WellFormed (d : Descriptor) : Prop :=
  d.name ≠ "" ∧ match d with
    | .enumeration _ entries => entries.Nodup
    | .product _ content =>
      (content.members.map (·.name)).Nodup ∧
        (content.style = .positional → Numbered content.members)
    | .sum _ variants _ => (variants.map Descriptor.name).Nodup
    | .external _ factory => factory ≠ ""
    | .primitive _ | .singleton .. | .sealed _ => True

/-- A type contains itself, its variants, their variants, and so on. -/
def Descriptor.Contains : Descriptor → Descriptor → Prop :=
  Relation.ReflTransGen fun d v => v ∈ d.variants

theorem firstRepeated_eq_none_iff {names seen : List String} :
    firstRepeated seen names = none ↔ names.Nodup ∧ ∀ x ∈ names, x ∉ seen := by
  induction names generalizing seen with
  | nil => simp [firstRepeated]
  | cons x xs ih =>
    unfold firstRepeated
    by_cases hseen : x ∈ seen
    · simp [hseen]
    · have later : (∀ y ∈ xs, y ∉ x :: seen) ↔ x ∉ xs ∧ ∀ y ∈ xs, y ∉ seen := by
        simpa using forall_not_mem_cons_iff (f := id)
      simp only [List.contains_iff_mem, hseen, if_false, ih, later, List.nodup_cons,
        List.forall_mem_cons]
      tauto

theorem map_name_eq_range_iff {members : List Member} :
    members.map (·.name) = (List.range' 0 members.length).map toString ↔ Numbered members := by
  constructor
  · intro h i m hm
    have hi : i < members.length := (List.getElem?_eq_some_iff.1 hm).1
    have hplace := congrArg (·[i]?) h
    simpa [hm, List.getElem?_range' hi] using hplace
  · intro h
    apply List.ext_getElem
    · simp
    · intro i hi _
      have hi : i < members.length := by simpa using hi
      simpa using h i members[i] (List.getElem?_eq_getElem hi)

/-- The check of a type is that of the type by itself and that of its variants. -/
theorem Descriptor.check_eq_ok_iff {d : Descriptor} :
    d.check = .ok () ↔ d.WellFormed ∧ ∀ v ∈ d.variants, v.check = .ok () := by
  conv_lhs => unfold Descriptor.check
  unfold Descriptor.WellFormed
  split
  · next hname => simp [hname]
  next hname =>
    cases d with
    | enumeration name entries =>
      have distinct : firstRepeated [] entries = none ↔ entries.Nodup :=
        firstRepeated_eq_none_iff.trans (by simp)
      cases hrepeated : firstRepeated [] entries <;> simp_all [Descriptor.variants]
    | product name content =>
      simp [checkMembers_eq_ok_iff, map_name_eq_range_iff, hname, Descriptor.variants]
    | sum name variants companion =>
      simp [checkVariants_eq_ok_iff, hname, Descriptor.variants]
    | external name factory =>
      by_cases hfactory : factory = "" <;> simp [hfactory, hname, Descriptor.variants]
    | primitive p => simp [hname, Descriptor.variants]
    | singleton name valueless => simp [hname, Descriptor.variants]
    | sealed name => simp [hname, Descriptor.variants]

theorem Descriptor.sizeOf_lt_of_mem_variants {d v : Descriptor} (h : v ∈ d.variants) :
    sizeOf v < sizeOf d := by
  cases d with
  | sum name variants companion =>
    have := List.sizeOf_lt_of_mem (show v ∈ variants from h)
    simp only [Descriptor.sum.sizeOf_spec]
    omega
  | _ => simp [Descriptor.variants] at h

theorem Descriptor.check_of_forall_contains {d : Descriptor}
    (h : ∀ e, d.Contains e → e.WellFormed) : d.check = .ok () :=
  Descriptor.check_eq_ok_iff.2 ⟨h d .refl, fun v hv =>
    check_of_forall_contains fun e he => h e (.head hv he)⟩
termination_by sizeOf d
decreasing_by exact Descriptor.sizeOf_lt_of_mem_variants hv

/-- A type passes the check if all that it contains is well formed, to any depth. -/
theorem Descriptor.check_eq_ok_iff_contains {d : Descriptor} :
    d.check = .ok () ↔ ∀ e, d.Contains e → e.WellFormed := by
  refine ⟨fun h e he => ?_, check_of_forall_contains⟩
  have inner : e.check = .ok () := by
    induction he with
    | refl => exact h
    | tail _ hv ih => exact (Descriptor.check_eq_ok_iff.1 ih).2 _ hv
  exact (Descriptor.check_eq_ok_iff.1 inner).1

theorem checkTypes_eq_ok_iff {ds : List Descriptor} :
    checkTypes ds = .ok () ↔ ∀ d ∈ ds, d.check = .ok () := by
  refine ⟨checkTypes_ok, fun h => ?_⟩
  induction ds with
  | nil => rfl
  | cons d ds ih =>
    obtain ⟨hd, hds⟩ := List.forall_mem_cons.1 h
    simp [checkTypes, hd, ih hds]

/-! ## Well-formed requests -/

/-- A letter or underscore, then letters, digits and underscores. -/
def Identifier (f : String) : Prop :=
  ∃ first rest, f.toList = first :: rest ∧ (Text.isAlphabetic first ∨ first = '_') ∧
    ∀ c ∈ rest, Text.isAlphanumeric c ∨ c = '_'

/-- A request for a type that is a primitive or declared, by no function's name or by one that is
an identifier. -/
structure Request.WellFormed (c : Catalog) (r : Request) : Prop where
  type_known :
    (∃ kind : Primitive, r.type = kind.typeName) ∨ ∃ d ∈ c.declared, r.type = d.name
  function_named : ∀ f, r.function = some f → Identifier f

theorem isIdentifier_iff {f : String} : isIdentifier f = true ↔ Identifier f := by
  unfold isIdentifier Identifier
  cases f.toList with
  | nil => simp
  | cons first rest => simp

/-- What has a meaning is the name of a primitive or of a declared type. -/
theorem has_ofList_iff {ds : List Descriptor} {n : String} :
    (Catalog.ofList ds).has n = true ↔
      (∃ kind : Primitive, n = kind.typeName) ∨
        ∃ d ∈ (Catalog.ofList ds).declared, n = d.name := by
  have hmeans := Catalog.means_get? ds n
  rw [Catalog.declared_ofList, (Catalog.indexed_ofList ds).has_iff]
  constructor
  · rintro ⟨d, hd⟩
    rw [hd] at hmeans
    cases hmeans with
    | added hds _ => exact .inr ⟨d, by simp [hds], rfl⟩
    | primitive _ => exact .inl ⟨_, rfl⟩
  · intro hknown
    cases hget : (Catalog.ofList ds).get? n with
    | some d => exact ⟨d, rfl⟩
    | none =>
      rw [hget] at hmeans
      cases hmeans with
      | nothing hadded hprimitive =>
        rcases hknown with ⟨kind, rfl⟩ | ⟨d, hd, rfl⟩
        · exact absurd rfl (hprimitive kind)
        · exact absurd rfl (hadded d hd)

theorem checkRequests_eq_ok_iff {ds : List Descriptor} {requests : List Request} :
    checkRequests (.ofList ds) requests = .ok () ↔
      ∀ r ∈ requests, r.WellFormed (.ofList ds) := by
  induction requests with
  | nil => simp [checkRequests]
  | cons r rs ih =>
    have first : r.WellFormed (.ofList ds) ↔ (Catalog.ofList ds).has r.type = true ∧
        ∀ f, r.function = some f → isIdentifier f = true := by
      simp only [has_ofList_iff, isIdentifier_iff]
      exact ⟨fun h => ⟨h.1, h.2⟩, fun h => ⟨h.1, h.2⟩⟩
    rw [List.forall_mem_cons, ← ih, first, checkRequests]
    cases (Catalog.ofList ds).has r.type with
    | false => simp
    | true =>
      cases r.function with
      | none => simp
      | some f => cases hf : isIdentifier f <;> simp [hf]

/-! ## Well-formed schemas -/

/-- A schema passes the check if its declared types are well formed, the variants in them to any
depth included, and its requests are. -/
theorem Schema.valid_iff_wellFormed {s : Schema} {ds : List Descriptor}
    (hs : s.catalog = .ofList ds) :
    s.check = .ok () ↔
      (∀ d ∈ s.catalog.declared, ∀ e, d.Contains e → e.WellFormed) ∧
        ∀ r ∈ s.requests, r.WellFormed s.catalog := by
  have types : checkTypes ds = .ok () ↔ ∀ d ∈ ds, ∀ e, d.Contains e → e.WellFormed := by
    simp only [checkTypes_eq_ok_iff, Descriptor.check_eq_ok_iff_contains]
  rw [Schema.check, hs, Catalog.declared_ofList, ← types, ← checkRequests_eq_ok_iff]
  cases checkTypes ds <;> simp

/-- Types of every kind that a schema can be wrong about, one of them two variants deep. -/
def harbour : List Descriptor :=
  [.enumeration "Flag" ["Red", "Green"],
    .sum "Vessel" [
      .product "Vessel::Boat"
        ⟨[⟨"0", "Flag", false⟩, ⟨"1", "i32", true⟩], .positional, false, false⟩,
      .sum "Vessel::Tow" [.external "Vessel::Tow::Tug" "tugs::TugField"] false] true]

def harbourSchema : Schema :=
  { Schema.empty "harbour" with
    catalog := .ofList harbour
    requests :=
      [.plain .factory "Vessel", { Request.plain .field "i32" with function := some "_n2" }] }

theorem Schema.valid_iff_wellFormed_harbour :
    harbourSchema.catalog = .ofList harbour ∧ harbourSchema.check = .ok () ∧
      (∀ d ∈ harbourSchema.catalog.declared, ∀ e, d.Contains e → e.WellFormed) ∧
        ∀ r ∈ harbourSchema.requests, r.WellFormed harbourSchema.catalog := by
  have valid : harbourSchema.check = .ok () := by decide +kernel
  exact ⟨rfl, valid, (Schema.valid_iff_wellFormed rfl).1 valid⟩

end EditableFields
