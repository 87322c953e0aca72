import EditableFields.Proofs.Catalog
import EditableFields.Schema.Validity

/-!
# Schemas: what validity says

In a valid schema everything that can be taken apart was checked, variants at every depth included
(`Placed.check`), and the members of a product have different names, which for a positional
constructor are their numbers in order (`members_of_check`).
-/

namespace EditableFields

theorem toString_inj {i j : Nat} (h : toString i = toString j) : i = j := by
  rw [Nat.toString_eq_ofList_toDigits, Nat.toString_eq_ofList_toDigits, String.ofList_inj] at h
  simpa using congrArg (fun digits => Nat.ofDigitChars 10 digits 0) h

/-- Names that are not among those before them, once there is one more of these. -/
theorem forall_not_mem_cons_iff {α : Type} {f : α → String} {xs : List α} {name : String}
    {seen : List String} :
    (∀ x ∈ xs, f x ∉ name :: seen) ↔ name ∉ xs.map f ∧ ∀ x ∈ xs, f x ∉ seen := by
  simp only [List.mem_cons, not_or, List.mem_map, not_exists, not_and]
  exact forall₂_and

/-- Members pass the check if their names differ from one another and from the names before them,
and are their numbers where the constructor takes them by position. -/
theorem checkMembers_eq_ok_iff {owner : String} {style : ConstructorStyle}
    {members : List Member} {seen : List String} {index : Nat} :
    checkMembers owner style seen index members = .ok () ↔
      (members.map (·.name)).Nodup ∧ (∀ m ∈ members, m.name ∉ seen) ∧
        (style = .positional →
          members.map (·.name) = (List.range' index members.length).map toString) := by
  induction members generalizing seen index with
  | nil => simp [checkMembers]
  | cons m ms ih =>
    unfold checkMembers
    by_cases hseen : m.name ∈ seen
    · simp [hseen]
    · have hnumbers : (m :: ms).map (·.name) =
            (List.range' index (m :: ms).length).map toString ↔
          m.name = toString index ∧
            ms.map (·.name) = (List.range' (index + 1) ms.length).map toString := by
        simp only [List.map_cons, List.length_cons, List.range'_succ, List.cons.injEq]
      rw [hnumbers]
      by_cases hnumber : style = .positional → m.name = toString index
      · have hpass : (decide (style = .positional) && m.name != toString index) = false := by
          simpa [Bool.and_eq_false_iff, or_iff_not_imp_left] using hnumber
        simp only [List.contains_iff_mem, hseen, hpass, if_false, Bool.false_eq_true, ih,
          forall_not_mem_cons_iff, List.map_cons, List.nodup_cons, List.forall_mem_cons]
        tauto
      · have hfail : (decide (style = .positional) && m.name != toString index) = true := by
          simpa using hnumber
        simp only [List.contains_iff_mem, hseen, hfail, if_false, if_true, reduceCtorEq, false_iff]
        tauto

theorem checkVariants_eq_ok_iff {owner : String} {variants : List Descriptor}
    {seen : List String} :
    checkVariants owner seen variants = .ok () ↔
      (variants.map Descriptor.name).Nodup ∧ (∀ v ∈ variants, v.name ∉ seen) ∧
        ∀ v ∈ variants, v.check = .ok () := by
  induction variants generalizing seen with
  | nil => simp [checkVariants]
  | cons v vs ih =>
    unfold checkVariants
    by_cases hseen : v.name ∈ seen
    · simp [hseen]
    · cases hcheck : v.check with
      | error e => simp [hseen, hcheck]
      | ok _ =>
        simp only [List.contains_iff_mem, hseen, if_false, ih, forall_not_mem_cons_iff,
          List.map_cons, List.nodup_cons, List.forall_mem_cons, hcheck]
        tauto

theorem checkTypes_ok {ds : List Descriptor} (h : checkTypes ds = .ok ()) :
    ∀ d ∈ ds, d.check = .ok () := by
  induction ds with
  | nil => simp
  | cons d ds ih =>
    unfold checkTypes at h
    split at h
    · cases h
    · rename_i hd
      exact List.forall_mem_cons.2 ⟨hd, ih h⟩

theorem check_primitive (kind : Primitive) : (Descriptor.primitive kind).check = .ok () := by
  cases kind <;> decide

/-- What can be taken apart was checked. -/
theorem Placed.check {ds : List Descriptor} (h : checkTypes ds = .ok ()) {standing : Standing}
    {d : Descriptor} (hd : Placed (.ofList ds) standing d) : d.check = .ok () := by
  induction hd with
  | @type d hd =>
    rw [Catalog.types_ofList, List.mem_append] at hd
    rcases hd with hd | hd
    · obtain ⟨kind, -, rfl⟩ := List.mem_map.1 hd
      exact check_primitive kind
    · exact checkTypes_ok h d hd
  | @variant standing name variants companion v _ hv ih =>
    unfold Descriptor.check at ih
    split at ih
    · cases ih
    · exact (checkVariants_eq_ok_iff.1 ih).2.2 v hv

/-- The members of a checked product have different names, and numbers in order where its
constructor takes them by position. -/
theorem members_of_check {name : String} {content : Product}
    (h : (Descriptor.product name content).check = .ok ()) :
    (content.members.map (·.name)).Nodup ∧
      (content.style = .positional →
        content.members.map (·.name) = (List.range content.members.length).map toString) := by
  unfold Descriptor.check at h
  split at h
  · cases h
  · obtain ⟨hnodup, -, hnumbered⟩ := checkMembers_eq_ok_iff.1 h
    exact ⟨hnodup, fun hstyle => by rw [hnumbered hstyle, List.range_eq_range']⟩

/-- The types of a valid schema were checked. -/
theorem Schema.checkTypes_of_check {s : Schema} {ds : List Descriptor}
    (hs : s.catalog = .ofList ds) (h : s.check = .ok ()) : checkTypes ds = .ok () := by
  unfold Schema.check at h
  rw [hs, Catalog.declared_ofList] at h
  split at h
  · cases h
  · assumption

end EditableFields
