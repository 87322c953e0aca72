import EditableFields.Proofs.Catalog

/-!
# Catalogs: the index agrees with the list

A catalog keeps its descriptors in a list and finds them through an index of positions. The index
agrees with the list if it stores each position under the name of what stands there, and nothing
else (`Agrees`). Each addition keeps this (`Agrees.add`), so it is so of every catalog that was
built from the primitives (`agrees_ofList`), and no look-up leaves the list.

What a name means is said without the index: the last descriptor that was added under it, else the
primitive of that name, else nothing (`Means`). This is what a catalog answers
(`get?_ofList_eq_iff`), whatever was added to it (`answersFor_ofList`).
-/

namespace EditableFields

namespace Catalog

/-! ## The index and the list -/

/-- The index stores the positions of the list under the names that stand there, and nothing else.
Look-ups alone do not tell: a position that a later one hides is to be right as well. -/
def Agrees (c : Catalog) : Prop :=
  ∀ n i, (n, i) ∈ c.index ↔ ∃ d, c.types[i]? = some d ∧ d.name = n

theorem agrees_bare : bare.Agrees := by
  intro n i
  simp [bare]

namespace Agrees

variable {c : Catalog} (h : c.Agrees)
include h

theorem lt_length {n : String} {i : Nat} (hi : (n, i) ∈ c.index) : i < c.types.length := by
  obtain ⟨d, hd, -⟩ := (h n i).1 hi
  exact (List.getElem?_eq_some_iff.1 hd).1

/-- The new position is the only one at the end of the list, and the others stay where they are. -/
theorem add (d : Descriptor) : (c.add d).Agrees := by
  intro n i
  have hcons : (n, i) ∈ (c.add d).index ↔
      (n = d.name ∧ i = c.types.length) ∨ (n, i) ∈ c.index := by
    simp [Catalog.add]
  rw [hcons]
  -- The position is one of the old list, or the end of it, or beyond.
  by_cases hlt : i < c.types.length
  · have hold : (c.add d).types[i]? = c.types[i]? := List.getElem?_append_left hlt
    rw [hold, ← h n i]
    constructor
    · rintro (⟨-, hi⟩ | hi)
      · omega
      · exact hi
    · exact .inr
  · have hstored : (n, i) ∉ c.index := fun hi => hlt (h.lt_length hi)
    by_cases hi : i = c.types.length
    · subst hi
      have hnew : (c.add d).types[c.types.length]? = some d := by simp [Catalog.add]
      simp [hnew, hstored, eq_comm]
    · have hbeyond : (c.add d).types[i]? = none := by
        rw [List.getElem?_eq_none_iff]
        simp only [Catalog.add, List.length_append, List.length_singleton]
        omega
      simp [hbeyond, hstored, hi]

theorem addAll (ds : List Descriptor) : (c.addAll ds).Agrees := by
  induction ds generalizing c with
  | nil => exact h
  | cons d ds ih => exact ih (h.add d)

/-- What a look-up finds is a position of the list, so the name means what stands there. -/
theorem get?_of_lookup {n : String} {i : Nat} (hi : c.index.lookup n = some i) :
    ∃ hlt : i < c.types.length, c.get? n = some c.types[i] := by
  have hmem : (n, i) ∈ c.index := by
    obtain ⟨later, earlier, hindex, -⟩ := List.lookup_eq_some_iff.1 hi
    simp [hindex]
  have hlt := h.lt_length hmem
  refine ⟨hlt, ?_⟩
  rw [get?, hi]
  exact List.getElem?_eq_getElem hlt

end Agrees

theorem agrees_ofList (ds : List Descriptor) : (ofList ds).Agrees :=
  (agrees_bare.addAll _).addAll ds

/-! ## What a name means -/

/-- What a name means where descriptors were added to the primitives. -/
inductive Means (ds : List Descriptor) : String → Option Descriptor → Prop
  /-- The last descriptor that was added under the name. -/
  | added {left d right} : ds = left ++ d :: right → (∀ e ∈ right, e.name ≠ d.name) →
      Means ds d.name (some d)
  /-- The primitive of the name, if nothing was added under it. -/
  | primitive {kind : Primitive} : (∀ d ∈ ds, d.name ≠ kind.typeName) →
      Means ds kind.typeName (some (.primitive kind))
  | nothing {n} : (∀ d ∈ ds, d.name ≠ n) → (∀ kind : Primitive, kind.typeName ≠ n) →
      Means ds n none

theorem find?_reverse_eq_none_iff {ds : List Descriptor} {n : String} :
    ds.reverse.find? (·.name == n) = none ↔ ∀ d ∈ ds, d.name ≠ n := by
  simp [List.find?_eq_none]

theorem find?_reverse_eq_some_iff {ds : List Descriptor} {n : String} {d : Descriptor} :
    ds.reverse.find? (·.name == n) = some d ↔
      d.name = n ∧ ∃ left right, ds = left ++ d :: right ∧ ∀ e ∈ right, e.name ≠ n := by
  rw [List.find?_eq_some_iff_append, beq_iff_eq]
  refine and_congr_right fun _ => ?_
  constructor
  · rintro ⟨later, earlier, hds, hlater⟩
    refine ⟨earlier.reverse, later.reverse, ?_, ?_⟩
    · rw [← List.reverse_inj, hds]
      simp
    · simpa using hlater
  · rintro ⟨left, right, rfl, hright⟩
    exact ⟨right.reverse, left.reverse, by simp, by simpa using hright⟩

theorem Means.get?_eq {ds : List Descriptor} {n : String} {r : Option Descriptor}
    (h : Means ds n r) : (ofList ds).get? n = r := by
  rw [get?_ofList]
  cases h with
  | added hds hlast =>
    rw [find?_reverse_eq_some_iff.2 ⟨rfl, _, _, hds, hlast⟩]
    rfl
  | primitive hnone =>
    rw [find?_reverse_eq_none_iff.2 hnone, Primitive.ofTypeName?_typeName]
    rfl
  | nothing hnone hother =>
    rw [find?_reverse_eq_none_iff.2 hnone, Primitive.ofTypeName?_eq_none_iff.2 hother]
    rfl

theorem means_get? (ds : List Descriptor) (n : String) : Means ds n ((ofList ds).get? n) := by
  rw [get?_ofList]
  cases hadded : ds.reverse.find? (·.name == n) with
  | some d =>
    obtain ⟨rfl, left, right, hds, hlast⟩ := find?_reverse_eq_some_iff.1 hadded
    exact .added hds hlast
  | none =>
    have hnone := find?_reverse_eq_none_iff.1 hadded
    cases hkind : Primitive.ofTypeName? n with
    | some kind =>
      obtain rfl := Primitive.typeName_of_ofTypeName? hkind
      exact .primitive hnone
    | none => exact .nothing hnone (Primitive.ofTypeName?_eq_none_iff.1 hkind)

theorem get?_ofList_eq_iff {ds : List Descriptor} {n : String} {r : Option Descriptor} :
    (ofList ds).get? n = r ↔ Means ds n r := by
  constructor
  · rintro rfl
    exact means_get? ds n
  · exact Means.get?_eq

/-! ## What a catalog answers -/

/-- A catalog answers for the descriptors that were added to the primitives. -/
structure AnswersFor (c : Catalog) (ds : List Descriptor) : Prop where
  agrees : c.Agrees
  /-- Whatever is stored, hidden or not, is a position of the list. -/
  inRange : ∀ e ∈ c.index, e.2 < c.types.length
  /-- A name that is found in the index means what stands at its position. -/
  get?_of_lookup : ∀ n i, c.index.lookup n = some i →
    ∃ hlt : i < c.types.length, c.get? n = some c.types[i]
  get?_eq_iff : ∀ n r, c.get? n = r ↔ Means ds n r
  has_iff : ∀ n, c.has n = true ↔ ∃ d, c.get? n = some d
  name_eq : ∀ n d, c.get? n = some d → d.name = n
  declared_eq : c.declared = ds

/-- Whatever descriptors are added to the primitives, and under whatever names, the catalog answers
for them. So between the additions it answers for those that were made. -/
theorem answersFor_ofList (ds : List Descriptor) : (ofList ds).AnswersFor ds where
  agrees := agrees_ofList ds
  inRange _ he := (agrees_ofList ds).lt_length he
  get?_of_lookup _ _ hi := (agrees_ofList ds).get?_of_lookup hi
  get?_eq_iff _ _ := get?_ofList_eq_iff
  has_iff _ := (indexed_ofList ds).has_iff
  name_eq _ _ hd := get?_ofList_name hd
  declared_eq := declared_ofList ds

/-- A type may hide a primitive or an earlier type, and what is hidden stays declared. -/
example :
    let c := ofList [.sealed "i32", .singleton "Mark" true, .enumeration "Mark" ["on"]]
    (c.get? "i32").map Descriptor.kindName = some "opaque" ∧
      (c.get? "Mark").map Descriptor.kindName = some "enumeration" ∧
      c.declared.map Descriptor.name = ["i32", "Mark", "Mark"] := by decide

end Catalog

end EditableFields
