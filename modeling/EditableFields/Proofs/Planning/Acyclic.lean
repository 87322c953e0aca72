import EditableFields.Proofs.Planning.Emission

/-!
# Planning: types on loops are not generated

Where nothing refused is tolerated, code is only generated if no loop of references can be reached
from what is requested (`acyclic_of_generate`), in whatever order types were classified and planned.

A type met on the way from a request is finished and not refused, and planned if it is a product
or sum (`Reached`). So is each type that it refers to, since a refused part would not have been
tolerated; and that was finished earlier (`Reached.step`). Along references the time at which a
type was finished goes down, so no way leads back.
-/

namespace EditableFields

namespace Planning

variable {c : Configuration} {s t : Planning} {ds : List Descriptor}

/-- A request starts at its subject, unless it is for a field of a value wrapper. -/
theorem exists_mem_requestTrees {catalog : Catalog} {requests : List Request} {r : Request}
    (hr : r ∈ requests) {d : Descriptor} (hd : catalog.get? r.type = some d)
    (hw : r.directive = .field → d.valueWrapper? = none) (s : Survey) :
    ∃ k, (r.type, k) ∈ requestTrees catalog requests s := by
  induction requests generalizing s with
  | nil => simp at hr
  | cons r' rs ih =>
    simp only [requestTrees, List.mem_append]
    rcases List.mem_cons.1 hr with rfl | hr
    · have start : (startOf catalog r s).1 = [(r.type, (s.classify catalog d).1)] := by
        unfold startOf
        simp only [hd]
        split
        · rename_i h
          simp [hw h.1] at h
        · rfl
      exact ⟨_, .inl (by rw [start]; exact List.mem_singleton_self _)⟩
    · obtain ⟨k, hk⟩ := ih hr (startOf catalog r' s).2
      exact ⟨k, .inr hk⟩

/-- Requests keep the memory complete. -/
theorem planRequests_complete (distinct : (variantNames ds).Nodup) {rs : List Request}
    (hb : Between c s) (hs : Survey.Complete (.ofList ds) s.survey.memo)
    (h : planRequests c (.ofList ds) rs s = .ok t) :
    Survey.Complete (.ofList ds) t.survey.memo := by
  induction rs generalizing s with
  | nil =>
    cases h
    exact hs
  | cons r rs ih =>
    obtain ⟨u, hr, hrs⟩ := bind_eq_ok.1 h
    obtain ⟨hadvance, hsurvey⟩ := planRequest_advance hb hr
    refine ih hadvance.between ?_ hrs
    rw [hsurvey]
    unfold startOf
    cases hget : (Catalog.ofList ds).get? r.type with
    | none => exact hs
    | some d =>
      dsimp only
      split
      · exact hs
      · exact hb.idle.complete_classify distinct hs (.of_get? hget)

/-- A type met on the way from a request: it is finished and not refused, and planned if it is a
product or sum. -/
structure Reached (ds : List Descriptor) (s : Planning) (d : Descriptor) : Prop where
  placed : ∃ standing, Placed (.ofList ds) standing d
  found : ∃ k, s.survey.memoized d.name = some k ∧ k.isSupported ∧
    (k.isComposite → s.Planned d.name)

/-- What a type refers to is reached with it, and was finished earlier. -/
theorem Reached.step (hb : Between c s) (hcomplete : Survey.Complete (.ofList ds) s.survey.memo)
    (strict : c.tolerant = false) (names : ∀ n ∈ variantNames ds, Primitive.ofTypeName? n = none)
    {d e : Descriptor} (h : Reached ds s d) (he : Refers (.ofList ds) d e) :
    Reached ds s e ∧ Survey.rank s.survey.memo e.name < Survey.rank s.survey.memo d.name := by
  obtain ⟨standing, hplaced⟩ := h.placed
  obtain ⟨k, hmemo, hsupported, hplanned⟩ := h.found
  -- Only a declared type refers to another, and its name is no primitive's.
  have hprim : Primitive.ofTypeName? d.name = none := by
    rcases hplaced.declared_or_primitive with hd | ⟨kind, hd⟩
    · refine names _ ?_
      rw [← map_name_placesOf .topLevel ds]
      exact List.mem_map.2 ⟨_, hd, rfl⟩
    · cases hd
      cases he
  obtain ⟨k', hpart⟩ := hcomplete standing d hplaced hprim k hmemo hsupported e he
  obtain ⟨p, hp⟩ := hplanned (isComposite_of_mem_parts hpart)
  -- The plan was made from the classification that is remembered, so no part of it was refused.
  obtain ⟨k₁, hk₁, -, hprovided⟩ := (hb.sound.finished _ p hp).found
  rw [hmemo, Option.some_inj] at hk₁
  subst hk₁
  have hsupported' := hprovided.strict strict _ hpart
  obtain ⟨hmemo', hrank⟩ := hb.grounded.part hmemo hpart hsupported'
  exact ⟨⟨hplaced.refers he, k', hmemo', hsupported', hprovided.planned _ hpart⟩, hrank⟩

/-- Along references, types were finished earlier and earlier. -/
theorem Reached.rank_lt (hb : Between c s) (hcomplete : Survey.Complete (.ofList ds) s.survey.memo)
    (strict : c.tolerant = false) (names : ∀ n ∈ variantNames ds, Primitive.ofTypeName? n = none)
    {d e : Descriptor} (h : Reached ds s d) (he : Relation.TransGen (Refers (.ofList ds)) d e) :
    Reached ds s e ∧ Survey.rank s.survey.memo e.name < Survey.rank s.survey.memo d.name := by
  induction he with
  | single he => exact h.step hb hcomplete strict names he
  | tail _ he ih =>
    obtain ⟨hreached, hrank⟩ := ih
    obtain ⟨hreached', hrank'⟩ := hreached.step hb hcomplete strict names he
    exact ⟨hreached', Nat.lt_trans hrank' hrank⟩

/-- Where nothing refused is tolerated and code is generated, no loop of references can be reached
from the subject of a request. The subject of a request for a field is not looked into if it is a
value wrapper. -/
theorem acyclic_of_generate (distinct : (variantNames ds).Nodup)
    (names : ∀ n ∈ variantNames ds, Primitive.ofTypeName? n = none) (strict : c.tolerant = false)
    {requests : List Request} {text : String}
    (h : (Catalog.ofList ds).generate c requests = .ok text) {r : Request} (hr : r ∈ requests)
    {d : Descriptor} (hd : (Catalog.ofList ds).get? r.type = some d)
    (hw : r.directive = .field → d.valueWrapper? = none) :
    ∀ e, Relation.ReflTransGen (Refers (.ofList ds)) d e →
      ¬ Relation.TransGen (Refers (.ofList ds)) e e := by
  obtain ⟨s, hs, -⟩ := bind_eq_ok.1 h
  have advance := planRequests_advance (between_fresh c) hs
  have complete : Survey.Complete (.ofList ds) s.survey.memo :=
    planRequests_complete distinct (between_fresh c)
      (fun _ _ _ _ k hk => by simp [fresh, Survey.fresh] at hk) hs
  obtain ⟨k, hk⟩ := exists_mem_requestTrees hr hd hw .fresh
  obtain ⟨hmemo, hsupported, hplanned⟩ := advance.started _ hk
  have hname : d.name = r.type := Catalog.get?_ofList_name hd
  have start : Reached ds s d :=
    ⟨⟨_, .of_get? hd⟩, k, hname ▸ hmemo, hsupported, hname ▸ hplanned⟩
  intro e hde hloop
  have reached : Reached ds s e := by
    rcases Relation.reflTransGen_iff_eq_or_transGen.1 hde with rfl | hde
    · exact start
    · exact (start.rank_lt advance.between complete strict names hde).1
  exact Nat.lt_irrefl _ (reached.rank_lt advance.between complete strict names hloop).2

/-- No loop can be reached from an order: its factories are generated. -/
theorem acyclic_of_generate_shop :
    (∃ text, (Catalog.ofList shop).generate .standard shopRequests = .ok text) ∧
      ∃ d, (Catalog.ofList shop).get? "Order" = some d ∧
        ∀ e, Relation.ReflTransGen (Refers (.ofList shop)) d e →
          ¬ Relation.TransGen (Refers (.ofList shop)) e e := by
  obtain ⟨text, h⟩ := exists_generate_shop
  refine ⟨⟨text, h⟩, _, rfl, ?_⟩
  exact acyclic_of_generate (r := .plain .factory "Order") (by decide) (by decide) rfl h
    (by simp [shopRequests]) rfl nofun

end Planning

end EditableFields
