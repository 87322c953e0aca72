import EditableFields.Proofs.Planning.Replay
import EditableFields.Proofs.Survey.Plain

/-!
# Planning: the order of requests

Where no type refers to itself, the order of requests decides about nothing but the order of what is
generated (`generate_perm`). A finished planning tells of each request which entry point it gets
(`EntryFor`), and from every state within it the request can be planned again, for just that entry
point (`planRequest_replay`): its subject is found to be the same there, because both surveys find
what direct recursion finds, and its plans are replayed. So requests that were planned together are
planned in any other order too, within the first planning, and the first within the second.
-/

namespace EditableFields

namespace Planning

variable {ds : List Descriptor} {c : Configuration} {rs : List Request} {s t u : Planning}
  {k : Classification}

/-! ## Entry points -/

/-- What the subject of a field was found to be; a value wrapper is its primitive. -/
def fieldClass (s : Planning) (r : Request) (d : Descriptor) : Option Classification :=
  match d.valueWrapper? with
  | some w => some (.primitive w.primitive)
  | none => s.survey.memoized r.type

/-- The subject of a field, seen as a member that is edited. -/
def fieldMember (r : Request) (d : Descriptor) (k : Classification) :
    ResolvedMember Classification :=
  ⟨Name.simple r.type, r.type, r.nullable, d.valueWrapper?, k⟩

/-- The entry point that a request gets, by what its subject was found to be and by the plans. -/
inductive EntryFor (catalog : Catalog) (c : Configuration) (s : Planning) (r : Request) :
    Entry → Prop
  | factory {d k p} : r.directive = .factory → catalog.get? r.type = some d →
      companionOf r.type d = .ok true → s.survey.memoized r.type = some k →
      s.plans.lookup r.type = some p →
      EntryFor catalog c s r ⟨.factory, r.type,
        c.nameCase.entryName r.type r.function r.autoLabel, .plain r.type,
        p.child (Name.snake (Name.simple r.type)) .parameter⟩
  | field {d k child} : r.directive = .field → catalog.get? r.type = some d →
      fieldClass s r d = some k → k.isSupported →
      ChildOf c s .parameter (fieldMember r d k) child →
      EntryFor catalog c s r ⟨.field, r.type,
        c.nameCase.entryName r.type r.function r.autoLabel, (fieldMember r d k).value, child⟩

theorem fieldClass_keep {r : Request} {d : Descriptor} (h : fieldClass s r d = some k)
    (hk : Kept s t) : fieldClass t r d = some k := by
  unfold fieldClass at h ⊢
  split at h
  · exact h
  · exact hk.memoized h

theorem EntryFor.keep {catalog : Catalog} {r : Request} {e : Entry}
    (h : EntryFor catalog c s r e) (hk : Kept s t) : EntryFor catalog c t r e := by
  cases h with
  | factory hdir hget hcompanion hmemo hp =>
    exact .factory hdir hget hcompanion (hk.memoized hmemo) (hk.plans hp)
  | field hdir hget hclass hsupported hchild =>
    exact .field hdir hget (fieldClass_keep hclass hk) hsupported (hchild.keep hk)

theorem subjectOf_eq (catalog : Catalog) (r : Request) (d : Descriptor) (survey : Survey) :
    (subjectOf catalog r d survey).1 =
      fieldMember r d (subjectOf catalog r d survey).1.classification := by
  cases hw : d.valueWrapper? <;> simp [subjectOf, fieldMember, hw]

/-- The subject of a field can be planned like a member, once it was classified. -/
theorem Answered.subject (ha : Answered (.ofList ds) c rs s) {r : Request} {d : Descriptor}
    (hget : (Catalog.ofList ds).get? r.type = some d) :
    Kept s { s with survey := (subjectOf (.ofList ds) r d s.survey).2 } ∧
    Underway (.ofList ds) c [] { s with survey := (subjectOf (.ofList ds) r d s.survey).2 } ∧
    PartsBelow { s with survey := (subjectOf (.ofList ds) r d s.survey).2 } []
      (.product .named [(subjectOf (.ofList ds) r d s.survey).1]) ∧
    OwnTypes (.ofList ds) [(subjectOf (.ofList ds) r d s.survey).1] ∧
    fieldClass { s with survey := (subjectOf (.ofList ds) r d s.survey).2 } r d =
      some (subjectOf (.ofList ds) r d s.survey).1.classification := by
  cases hw : d.valueWrapper? with
  | some w =>
    simp only [subjectOf, fieldClass, hw]
    exact ⟨⟨id, id, id⟩, ha.underway, by simp [PartsBelow, Classification.parts],
      by simp [OwnTypes], trivial⟩
  | none =>
    simp only [subjectOf, fieldClass, hw]
    obtain ⟨-, hkept, hbelow⟩ := ha.between.classify hget
    refine ⟨hkept, ha.classify hget, fun part hp _ => ?_, ?_, hbelow.memoized⟩
    · obtain ⟨m, hm, -, rfl⟩ := Classification.mem_parts_product.1 hp
      cases List.mem_singleton.1 hm
      exact hbelow
    · exact List.forall_mem_singleton.2 fun _ _ => edits_of_get? hget

theorem planFactory_entryFor (ha : Answered (.ofList ds) c rs s) {r : Request} {d : Descriptor}
    (hget : (Catalog.ofList ds).get? r.type = some d) (hdir : r.directive = .factory)
    (h : planFactory c (.ofList ds) r d s = .ok t) :
    ∃ e, t.entries = s.entries ++ [e] ∧ EntryFor (.ofList ds) c t r e := by
  obtain ⟨hcompanion, -, p, u, v, hplan, hclaim, rfl⟩ := planFactory_eq_ok_iff.1 h
  obtain ⟨hb, -, hbelow⟩ := ha.between.classify hget
  obtain ⟨hout, hp⟩ := planType_outcome _ hb.grounded hb.sound hbelow hplan
  obtain ⟨halike, hentries⟩ := claimFunction_ok hclaim
  have hmemo := halike.kept.memoized (hout.grown.kept.memoized hbelow.memoized)
  refine ⟨_, ?_, .factory hdir hget hcompanion hmemo (halike.kept.plans hp)⟩
  rw [addEntry, hentries, hout.grown.entries]

theorem planField_entryFor (ha : Answered (.ofList ds) c rs s) {r : Request} {d : Descriptor}
    (hget : (Catalog.ofList ds).get? r.type = some d) (hdir : r.directive = .field)
    (h : planField c (.ofList ds) r d s = .ok t) :
    ∃ e, t.entries = s.entries ++ [e] ∧ EntryFor (.ofList ds) c t r e := by
  obtain ⟨hk, s₁, child, v, hclaim, hfactory, rfl⟩ := planField_eq_ok_iff.1 h
  obtain ⟨-, hunder, hparts, hown, hclass⟩ := ha.subject hget
  obtain ⟨halike, hentries⟩ := claimFunction_ok hclaim
  have hu := hunder.alike halike
  have hparts' : PartsBelow s₁ [] _ := fun part hp hs =>
    ⟨halike.survey ▸ (hparts part hp hs).memoized, by simp⟩
  have hfill := memberFactory_outcome .named _ hu.grounded hu.sound hparts' hfactory
  have hchild := (memberFactory_made .named _ hu hparts' hown hfactory).2
  have hadd := alike_addEntry v
  rw [subjectOf_eq] at hchild ⊢
  refine ⟨_, ?_, .field hdir hget (fieldClass_keep hclass ?_) hk (hchild.keep (hadd _).kept)⟩
  · rw [addEntry, hfill.grown.entries, hentries]
  · exact halike.kept.trans (hfill.grown.kept.trans (hadd _).kept)

theorem planRequest_entryFor (ha : Answered (.ofList ds) c rs s) {r : Request}
    (h : planRequest c (.ofList ds) r s = .ok t) :
    ∃ e, t.entries = s.entries ++ [e] ∧ EntryFor (.ofList ds) c t r e := by
  unfold planRequest at h
  cases hget : (Catalog.ofList ds).get? r.type with
  | none => simp [hget] at h
  | some d =>
    simp only [hget] at h
    cases hdir : r.directive with
    | factory =>
      simp only [hdir] at h
      exact planFactory_entryFor ha hget hdir h
    | field =>
      simp only [hdir] at h
      exact planField_entryFor ha hget hdir h

/-- The entry point of one more request is recorded behind the others. -/
theorem Answered.recorded_request (ha : Answered (.ofList ds) c rs s)
    (hrecorded : List.Forall₂ (EntryFor (.ofList ds) c s) rs s.entries) {r : Request}
    (h : planRequest c (.ofList ds) r s = .ok t) :
    List.Forall₂ (EntryFor (.ofList ds) c t) (rs ++ [r]) t.entries := by
  obtain ⟨e, hentries, he⟩ := planRequest_entryFor ha h
  have hkept := (planRequest_advance ha.between h).1.kept
  rw [hentries]
  exact List.rel_append (hrecorded.imp fun _ _ h => h.keep hkept) (.cons he .nil)

/-- Every request gets its entry point, in order. -/
theorem Answered.recorded_requests {before : List Request} (ha : Answered (.ofList ds) c before s)
    (hrecorded : List.Forall₂ (EntryFor (.ofList ds) c s) before s.entries)
    (h : planRequests c (.ofList ds) rs s = .ok t) :
    List.Forall₂ (EntryFor (.ofList ds) c t) (before ++ rs) t.entries := by
  induction rs generalizing before s with
  | nil =>
    cases h
    rwa [List.append_nil]
  | cons r rs ih =>
    obtain ⟨u, hr, hrs⟩ := bind_eq_ok.1 h
    rw [List.append_cons]
    exact ih (planRequest_answered ha hr) (ha.recorded_request hrecorded hr) hrs

/-! ## What is known when requests are done -/

theorem startOf_plain (distinct : (variantNames ds).Nodup) {survey : Survey} (hs : survey.Idle)
    (h : survey.PlainMemo (.ofList ds)) (r : Request) :
    (startOf (.ofList ds) r survey).2.Idle ∧
      Survey.PlainMemo (.ofList ds) (startOf (.ofList ds) r survey).2 := by
  unfold startOf
  split
  · exact ⟨hs, h⟩
  · rename_i d hget
    split
    · exact ⟨hs, h⟩
    · exact ⟨(hs.classify d).1, (hs.plain_classify distinct h (.of_get? hget)).1⟩

/-- Requests were planned: each has its entry point and its function. -/
structure Done (ds : List Descriptor) (c : Configuration) (rs : List Request) (s : Planning) :
    Prop extends Settled ds c rs s where
  plain : Survey.PlainMemo (.ofList ds) s.survey
  recorded : List.Forall₂ (EntryFor (.ofList ds) c s) rs s.entries
  functions_eq : s.functions = (rs.map (Request.claim c)).reverse
  functions_nodup : s.functions.Nodup

theorem done_fresh (distinct : (variantNames ds).Nodup) (c : Configuration) :
    Done ds c [] fresh where
  toAnswered := answered_fresh _ c
  distinct := distinct
  proper := by simp [fresh]
  plain := Survey.plainMemo_fresh
  recorded := .nil
  functions_eq := rfl
  functions_nodup := List.nodup_nil

theorem Done.request (hs : Done ds c rs s) {r : Request}
    (h : planRequest c (.ofList ds) r s = .ok t) : Done ds c (rs ++ [r]) t where
  toAnswered := planRequest_answered hs.toAnswered h
  distinct := hs.distinct
  proper := (planRequest_takes hs.toAnswered hs.proper h).plans
  plain := by
    rw [(planRequest_takes hs.toAnswered hs.proper h).survey_eq]
    exact (startOf_plain hs.distinct hs.between.idle hs.plain r).2
  recorded := hs.toAnswered.recorded_request hs.recorded h
  functions_eq := by
    rw [(planRequest_takes hs.toAnswered hs.proper h).functions_eq, hs.functions_eq]
    simp
  functions_nodup := by
    have htakes := planRequest_takes hs.toAnswered hs.proper h
    rw [htakes.functions_eq]
    exact List.nodup_cons.2 ⟨htakes.unclaimed, hs.functions_nodup⟩

theorem planRequests_done {before : List Request} (hs : Done ds c before s)
    (h : planRequests c (.ofList ds) rs s = .ok t) : Done ds c (before ++ rs) t := by
  induction rs generalizing before s with
  | nil =>
    cases h
    rwa [List.append_nil]
  | cons r rs ih =>
    obtain ⟨u, hr, hrs⟩ := bind_eq_ok.1 h
    rw [List.append_cons]
    exact ih (hs.request hr) hrs

/-! ## Requests are replayed -/

/-- From `u` requests can be planned within `s`: nothing is in progress, and what was classified was
found to be what direct recursion finds. -/
structure Ready (ds : List Descriptor) (s u : Planning) : Prop where
  within : Within u s
  idle : u.survey.Idle
  plain : Survey.PlainMemo (.ofList ds) u.survey

theorem ready_fresh (ds : List Descriptor) (s : Planning) : Ready ds s fresh where
  within := ⟨by simp [fresh], by simp [fresh]⟩
  idle := ⟨Survey.coherent_fresh, rfl⟩
  plain := Survey.plainMemo_fresh

section Acyclic

variable (acyclic : ∀ d ∈ ds, LoopFree (.ofList ds) d)

include acyclic

theorem loopFree_of_get? {n : String} {d : Descriptor}
    (h : (Catalog.ofList ds).get? n = some d) : LoopFree (.ofList ds) d := by
  rcases Catalog.declared_or_primitive_of_get? h with hd | ⟨kind, rfl⟩
  · exact acyclic d hd
  · exact loopFree_of_forall_refers nofun

/-- A type is found to be the same as in the finished planning. -/
theorem Ready.classify_eq (hu : Ready ds s u) (hs : Done ds c rs s) {n : String} {d : Descriptor}
    (hget : (Catalog.ofList ds).get? n = some d) (hk : s.survey.memoized n = some k) :
    (u.survey.classify (.ofList ds) d).1 = k := by
  have hd : Placed (.ofList ds) .topLevel d := .of_get? hget
  have hfree := loopFree_of_get? acyclic hget
  have here := (hu.idle.plain_classify hs.distinct hu.plain hd).2 hfree
  rw [← Catalog.get?_ofList_name hget] at hk
  exact here.unique (hs.plain _ d hd hfree k hk)

theorem planFactory_replay (hs : Done ds c rs s) (hu : Ready ds s u) {r : Request}
    {d : Descriptor} {p : Plan} (hget : (Catalog.ofList ds).get? r.type = some d)
    (hdir : r.directive = .factory) (hcompanion : companionOf r.type d = .ok true)
    (hk : s.survey.memoized r.type = some k) (hp : s.plans.lookup r.type = some p)
    (hfree : r.claim c ∉ u.functions) :
    ∃ v, planFactory c (.ofList ds) r d u = .ok v ∧ Ready ds s v ∧
      v.functions = r.claim c :: u.functions ∧
      v.entries = u.entries ++ [⟨.factory, r.type,
        c.nameCase.entryName r.type r.function r.autoLabel, .plain r.type,
        p.child (Name.snake (Name.simple r.type)) .parameter⟩] := by
  have hclass := hu.classify_eq acyclic hs hget hk
  have hsupported : k.isSupported :=
    isSupported_of_isComposite (hs.made.made_of_memoized hp hk).isComposite
  have hwithin : Within { u with survey := (u.survey.classify (.ofList ds) d).2 } s :=
    ⟨hu.within.plans, hu.within.names⟩
  obtain ⟨v, hplan, hv⟩ := planType_replay hs.toSettled k hk hget hp hwithin
  have hclaim : r.claim c =
      (r.type, (c.nameCase.entryName r.type r.function r.autoLabel).function) := by
    simp [Request.claim, hdir]
  have hfunctions : v.functions = u.functions := hv.functions_eq
  have hsurvey : v.survey = (u.survey.classify (.ofList ds) d).2 := hv.survey_eq
  rw [hclaim, ← hfunctions] at hfree
  refine ⟨_, planFactory_eq_ok_iff.2 ⟨hcompanion, hclass ▸ hsupported, p, v, _, hclass ▸ hplan,
    claimFunction_eq_ok_iff.2 ⟨hfree, rfl⟩, rfl⟩, ?_, ?_, ?_⟩
  · have hidle : (u.survey.classify (.ofList ds) d).2.Idle := (hu.idle.classify d).1
    have hplain := hu.idle.plain_classify hs.distinct hu.plain (.of_get? hget)
    exact ⟨⟨hv.within.plans, hv.within.names⟩, hsurvey ▸ hidle, hsurvey ▸ hplain.1⟩
  · rw [hclaim, ← hfunctions]
    rfl
  · have hentries : v.entries = u.entries := hv.entries_eq
    rw [← hentries]
    rfl

/-- The subject of a field is found to be what it was found to be before. -/
theorem Ready.subjectOf (hs : Done ds c rs s) (hu : Ready ds s u) {r : Request} {d : Descriptor}
    (hget : (Catalog.ofList ds).get? r.type = some d) (hclass : fieldClass s r d = some k) :
    (subjectOf (.ofList ds) r d u.survey).1 = fieldMember r d k ∧
      (subjectOf (.ofList ds) r d u.survey).2.Idle ∧
      Survey.PlainMemo (.ofList ds) (subjectOf (.ofList ds) r d u.survey).2 := by
  rw [subjectOf_eq]
  cases hw : d.valueWrapper? with
  | some w =>
    simp only [fieldClass, hw, Option.some_inj] at hclass
    simp only [Planning.subjectOf, hw, hclass]
    exact ⟨trivial, hu.idle, hu.plain⟩
  | none =>
    simp only [fieldClass, hw] at hclass
    simp only [Planning.subjectOf, hw, hu.classify_eq acyclic hs hget hclass]
    exact ⟨trivial, (hu.idle.classify d).1,
      (hu.idle.plain_classify hs.distinct hu.plain (.of_get? hget)).1⟩

theorem planField_replay (hs : Done ds c rs s) (hu : Ready ds s u) {r : Request}
    {d : Descriptor} {child : ChildFactory} (hget : (Catalog.ofList ds).get? r.type = some d)
    (hdir : r.directive = .field) (hclass : fieldClass s r d = some k) (hsupported : k.isSupported)
    (hchild : ChildOf c s .parameter (fieldMember r d k) child)
    (hfree : r.claim c ∉ u.functions) :
    ∃ v, planField c (.ofList ds) r d u = .ok v ∧ Ready ds s v ∧
      v.functions = r.claim c :: u.functions ∧
      v.entries = u.entries ++ [⟨.field, r.type,
        c.nameCase.entryName r.type r.function r.autoLabel, (fieldMember r d k).value, child⟩] := by
  obtain ⟨hfound, hidle, hplain⟩ := hu.subjectOf acyclic hs hget hclass
  have hclaim : r.claim c =
      ("", (c.nameCase.entryName r.type r.function r.autoLabel).function) := by
    simp [Request.claim, hdir]
  rw [hclaim] at hfree ⊢
  have hknown : (fieldMember r d k).wrapper = none →
      (fieldMember r d k).classification.isSupported →
      Known (.ofList ds) s (fieldMember r d k) := by
    intro hw _
    have hw' : d.valueWrapper? = none := hw
    simp only [fieldClass, hw'] at hclass
    exact ⟨⟨d, hget⟩, hclass⟩
  have hwithin : Within { u with
      survey := (subjectOf (.ofList ds) r d u.survey).2
      functions := ("", (c.nameCase.entryName r.type r.function r.autoLabel).function) ::
        u.functions } s := ⟨hu.within.plans, hu.within.names⟩
  obtain ⟨v, hfactory, hv⟩ :=
    memberFactory_replay hs.toSettled r.type (fieldMember r d k) hknown hchild hwithin
  refine ⟨_, planField_eq_ok_iff.2 ⟨hfound ▸ hsupported, _, child, v,
    claimFunction_eq_ok_iff.2 ⟨hfree, rfl⟩, hfound ▸ hfactory, rfl⟩, ?_, hv.functions_eq, ?_⟩
  · exact ⟨⟨hv.within.plans, hv.within.names⟩, hv.survey_eq ▸ hidle, hv.survey_eq ▸ hplain⟩
  · rw [hfound, addEntry, hv.entries_eq]

/-- A request is planned again for the same entry point. -/
theorem planRequest_replay (hs : Done ds c rs s) (hu : Ready ds s u) {r : Request} {e : Entry}
    (he : EntryFor (.ofList ds) c s r e) (hfree : r.claim c ∉ u.functions) :
    ∃ v, planRequest c (.ofList ds) r u = .ok v ∧ Ready ds s v ∧
      v.functions = r.claim c :: u.functions ∧ v.entries = u.entries ++ [e] := by
  cases he with
  | factory hdir hget hcompanion hk hp =>
    simp only [planRequest, hget, hdir]
    exact planFactory_replay acyclic hs hu hget hdir hcompanion hk hp hfree
  | field hdir hget hclass hsupported hchild =>
    simp only [planRequest, hget, hdir]
    exact planField_replay acyclic hs hu hget hdir hclass hsupported hchild hfree

/-- Requests are planned again, in any order, where their functions differ. -/
theorem planRequests_replay (hs : Done ds c rs s) {rs' : List Request} {es : List Entry}
    (hu : Ready ds s u) (he : List.Forall₂ (EntryFor (.ofList ds) c s) rs' es)
    (hnodup : (rs'.map (Request.claim c)).Nodup) (hfree : ∀ r ∈ rs', r.claim c ∉ u.functions) :
    ∃ v, planRequests c (.ofList ds) rs' u = .ok v ∧ Ready ds s v ∧
      v.entries = u.entries ++ es := by
  induction he generalizing u with
  | nil => exact ⟨u, rfl, hu, by simp⟩
  | @cons r e rs' es he _ ih =>
    obtain ⟨hr, hrs⟩ := List.forall_mem_cons.1 hfree
    obtain ⟨hnew, hnodup⟩ := List.nodup_cons.1 hnodup
    obtain ⟨v, hplan, hv, hfunctions, hentries⟩ := planRequest_replay acyclic hs hu he hr
    obtain ⟨w, hrest, hw, hentries'⟩ := ih hv hnodup fun r' hr' => by
      rw [hfunctions, List.mem_cons, not_or]
      exact ⟨fun heq => hnew (heq ▸ List.mem_map_of_mem hr'), hrs r' hr'⟩
    refine ⟨w, bind_eq_ok.2 ⟨v, hplan, hrest⟩, hw, ?_⟩
    rw [hentries', hentries, List.append_assoc]
    rfl

/-- Planning gives the same entry point for a request whenever it succeeds. -/
theorem EntryFor.unique (hs : Done ds c rs s) {r : Request} {e e' : Entry}
    (h : EntryFor (.ofList ds) c s r e) (h' : EntryFor (.ofList ds) c s r e') : e = e' := by
  have hfree : r.claim c ∉ fresh.functions := by simp [fresh]
  obtain ⟨v, hplan, -, -, hv⟩ := planRequest_replay acyclic hs (ready_fresh ds s) h hfree
  obtain ⟨v', hplan', -, -, hv'⟩ := planRequest_replay acyclic hs (ready_fresh ds s) h' hfree
  rw [hplan, Except.ok.injEq] at hplan'
  rw [← hplan', hv] at hv'
  simpa using hv'

/-- Requests that were planned are planned in any other order, within what was planned, each for the
same entry point. -/
theorem Done.reorder (hs : Done ds c rs s) {rs' : List Request} (hperm : rs.Perm rs') :
    ∃ entry : Request → Entry, s.entries = rs.map entry ∧
      ∃ t, planRequests c (.ofList ds) rs' .fresh = .ok t ∧ Within t s ∧
        t.entries = rs'.map entry := by
  have chosen : ∀ r, ∃ e, ∀ e', EntryFor (.ofList ds) c s r e' → e' = e := fun r => by
    by_cases hr : ∃ e, EntryFor (.ofList ds) c s r e
    · obtain ⟨e, he⟩ := hr
      exact ⟨e, fun e' he' => he'.unique acyclic hs he⟩
    · exact ⟨⟨.field, "", ⟨"", none⟩, .plain "", .fixed⟩, fun e he => absurd ⟨e, he⟩ hr⟩
  choose entry hentry using chosen
  have entries_eq : List.Forall₂ Eq s.entries (rs.map entry) :=
    List.forall₂_map_right_iff.2 (hs.recorded.flip.imp fun _ _ he => hentry _ _ he)
  have recorded : List.Forall₂ (EntryFor (.ofList ds) c s) rs' (rs'.map entry) := by
    rw [List.forall₂_map_right_iff, List.forall₂_same]
    intro r hr
    obtain ⟨e, -, he⟩ := exists_right_of_forall₂ hs.recorded (hperm.mem_iff.2 hr)
    exact hentry r e he ▸ he
  have hnodup : (rs'.map (Request.claim c)).Nodup := by
    rw [← (hperm.map (Request.claim c)).nodup_iff, ← List.nodup_reverse, ← hs.functions_eq]
    exact hs.functions_nodup
  obtain ⟨t, ht, hready, hentries⟩ :=
    planRequests_replay acyclic hs (ready_fresh ds s) recorded hnodup (by simp [fresh])
  exact ⟨entry, List.forall₂_eq_eq_eq ▸ entries_eq, t, ht, hready.within,
    hentries.trans (List.nil_append _)⟩

end Acyclic

/-- Plannings that are within one another have the same plans, in some order. -/
theorem Between.inOrder_perm (hs : Between c s) (ht : Between c t) (hst : Within s t)
    (hts : Within t s) : s.inOrder.Perm t.inOrder := by
  have hsame : ∀ key, s.plans.lookup key = t.plans.lookup key := fun key =>
    Option.ext fun p => ⟨hst.plans, hts.plans⟩
  have horder : s.order.Perm t.order := by
    refine (List.perm_ext_iff_of_nodup hs.sound.order_nodup ht.sound.order_nodup).2 fun key => ?_
    simp [hs.sound.mem_order, ht.sound.mem_order, Planned, hsame]
  have hlookup : (fun key => s.plans.lookup key) = fun key => t.plans.lookup key := funext hsame
  rw [inOrder, inOrder, hlookup]
  exact horder.filterMap _

/-! ## What is generated -/

/-- Where names differ and no type refers to itself, over whatever others, requests succeed in one
order if they succeed in another, and the same is generated: the same factories, in some order, and
for each request the same entry point, in the order of the requests. -/
theorem generate_perm (distinct : (variantNames ds).Nodup)
    (acyclic : ∀ d ∈ ds, LoopFree (.ofList ds) d) (c : Configuration) {rs rs' : List Request}
    (hperm : rs.Perm rs') :
    ((∃ text, (Catalog.ofList ds).generate c rs = .ok text) ↔
      ∃ text, (Catalog.ofList ds).generate c rs' = .ok text) ∧
    ∀ text text', (Catalog.ofList ds).generate c rs = .ok text →
      (Catalog.ofList ds).generate c rs' = .ok text' →
      ∃ s t, planRequests c (.ofList ds) rs .fresh = .ok s ∧
        planRequests c (.ofList ds) rs' .fresh = .ok t ∧ s.inOrder.Perm t.inOrder ∧
        ∃ entry : Request → Entry, text = assembled c s.inOrder (rs.map entry) ∧
          text' = assembled c t.inOrder (rs'.map entry) := by
  have succeeds : ∀ {rs rs' : List Request}, rs.Perm rs' →
      (∃ text, (Catalog.ofList ds).generate c rs = .ok text) →
      ∃ text, (Catalog.ofList ds).generate c rs' = .ok text := by
    rintro rs rs' hperm ⟨text, h⟩
    obtain ⟨s, hs, -⟩ := bind_eq_ok.1 h
    obtain ⟨-, -, t, ht, -⟩ := (planRequests_done (done_fresh distinct c) hs).reorder acyclic hperm
    exact ⟨_, bind_eq_ok.2 ⟨t, ht, rfl⟩⟩
  refine ⟨⟨succeeds hperm, succeeds hperm.symm⟩, fun text text' h h' => ?_⟩
  obtain ⟨s, hs, htext⟩ := bind_eq_ok.1 h
  obtain ⟨t, ht, htext'⟩ := bind_eq_ok.1 h'
  cases htext
  cases htext'
  have hdone := planRequests_done (done_fresh distinct c) hs
  have hdone' := planRequests_done (done_fresh distinct c) ht
  -- Each planning is replayed within the other, so they have the same plans.
  obtain ⟨entry, hentries, t', ht', hts, hentries'⟩ := hdone.reorder acyclic hperm
  obtain ⟨-, -, s', hs', hst, -⟩ := hdone'.reorder acyclic hperm.symm
  rw [ht, Except.ok.injEq] at ht'
  rw [hs, Except.ok.injEq] at hs'
  subst ht' hs'
  refine ⟨s, t, hs, ht, hdone.between.inOrder_perm hdone'.between hst hts, entry, ?_, ?_⟩
  · rw [source_eq_assembled, hentries]
    rfl
  · rw [source_eq_assembled, hentries']

theorem loopFree_primitive (catalog : Catalog) (kind : Primitive) :
    LoopFree catalog (.primitive kind) :=
  loopFree_of_forall_refers nofun

/-- A product with one member is on no loop if the member's type is on none. -/
theorem loopFree_of_member {catalog : Catalog} {name : String} {m : Member} {e : Descriptor}
    {style : ConstructorStyle} {companion value : Bool} (htype : catalog.memberType? m = some e)
    (hfree : LoopFree catalog e) :
    LoopFree catalog (.product name ⟨[m], style, companion, value⟩) := by
  refine loopFree_of_forall_refers fun e' he => ?_
  cases he with
  | member hm he =>
    cases List.mem_singleton.1 hm
    exact Option.some_inj.1 (htype.symm.trans he) ▸ hfree

/-- In the shop, orders refer to payments and customers, and those to addresses. -/
theorem loopFree_shop : ∀ d ∈ shop, LoopFree (.ofList shop) d := by
  have money : LoopFree (.ofList shop) shop[4] := loopFree_of_member rfl (loopFree_primitive _ _)
  have address : LoopFree (.ofList shop) shop[3] := loopFree_of_member rfl (loopFree_primitive _ _)
  have customer : LoopFree (.ofList shop) shop[1] := loopFree_of_member rfl address
  have payment : LoopFree (.ofList shop) shop[2] := by
    refine loopFree_of_forall_refers fun e he => ?_
    cases he with
    | variant hv =>
      simp only [List.mem_cons, List.not_mem_nil, or_false] at hv
      rcases hv with rfl | rfl
      · exact loopFree_of_member rfl address
      · refine loopFree_of_forall_refers fun e he => ?_
        cases he
  have order : LoopFree (.ofList shop) shop[0] := by
    refine loopFree_of_forall_refers fun e he => ?_
    cases he with
    | member hm he =>
      simp only [List.mem_cons, List.not_mem_nil, or_false] at hm
      rcases hm with rfl | rfl | rfl
      · cases he
        exact customer
      · cases he
        exact payment
      · cases he
  intro d hd
  simp only [shop, List.mem_cons, List.not_mem_nil, or_false] at hd
  rcases hd with rfl | rfl | rfl | rfl | rfl
  · exact order
  · exact customer
  · exact payment
  · exact address
  · exact money

/-- What is generated for the shop is the same when the requests come the other way round. -/
theorem generate_perm_shop :
    (variantNames shop).Nodup ∧ (∀ d ∈ shop, LoopFree (.ofList shop) d) ∧
      shopRequests.Perm shopRequests.reverse ∧
      ∃ text text', (Catalog.ofList shop).generate .standard shopRequests = .ok text ∧
        (Catalog.ofList shop).generate .standard shopRequests.reverse = .ok text' ∧
        ∃ s t, planRequests .standard (.ofList shop) shopRequests .fresh = .ok s ∧
          planRequests .standard (.ofList shop) shopRequests.reverse .fresh = .ok t ∧
          s.inOrder.Perm t.inOrder ∧
          ∃ entry : Request → Entry,
            text = assembled .standard s.inOrder (shopRequests.map entry) ∧
            text' = assembled .standard t.inOrder (shopRequests.reverse.map entry) := by
  have distinct : (variantNames shop).Nodup := by decide
  have hperm : shopRequests.Perm shopRequests.reverse := (List.reverse_perm _).symm
  obtain ⟨text, h⟩ := exists_generate_shop
  obtain ⟨hiff, same⟩ := generate_perm distinct loopFree_shop .standard hperm
  obtain ⟨text', h'⟩ := hiff.1 ⟨text, h⟩
  exact ⟨distinct, loopFree_shop, hperm, text, text', h, h', same text text' h h'⟩

end Planning

end EditableFields
