import EditableFields.Proofs.Survey.Inquiry
import Mathlib.Data.List.Perm.Subperm

/-!
# Surveys: coherence

What holds of a survey at every moment (`Coherent`) and between any two moments of one
classification (`Extends`). A single inquiry settles: its survey stays coherent and goes on from
where it was, and the answer is remembered unless the type was in progress
(`classifyWithin_settled`). The bound on the depth is never met, because the types in progress have
different names out of finitely many (`Ready`).

Facts about whole classifications are proved by `classifyWithin_induction`, which has one case for
each way an inquiry is answered: the type is finished, it is in progress, or it is expanded.
-/

namespace EditableFields

/-! ## Names of descriptors -/

theorem names_subset_variantNames {ds : List Descriptor} {d : Descriptor} (h : d ∈ ds) :
    d.names ⊆ variantNames ds := by
  induction ds with
  | nil => simp at h
  | cons e ds ih =>
    rcases List.mem_cons.1 h with rfl | h
    · exact List.subset_append_left _ _
    · exact List.Subset.trans (ih h) (List.subset_append_right _ _)

theorem Refers.names_subset {catalog : Catalog} {d e : Descriptor} (h : Refers catalog d e)
    {names : List String} (hc : variantNames catalog.types ⊆ names) (hd : d.names ⊆ names) :
    e.names ⊆ names := by
  cases h with
  | member _ hm =>
    have he := Catalog.mem_types_of_get? (Catalog.memberType?_eq_some_iff.1 hm).1
    exact List.Subset.trans (names_subset_variantNames he) hc
  | variant hv =>
    refine List.Subset.trans (names_subset_variantNames hv) fun n hn => hd ?_
    simp [Descriptor.names, hn]

namespace Survey

/-! ## Loops that are recorded -/

theorem lookup_markLoop (path : List String) (loops : List (String × List String))
    (name n : String) :
    (markLoop path loops name).lookup n =
      (loops.lookup n).or (if n = name then some path else none) := by
  unfold markLoop
  by_cases hn : n = name
  · subst hn
    cases h : loops.lookup n <;> simp [h]
  · cases loops.lookup name <;> simp [List.lookup_cons, hn, beq_eq_false_iff_ne.2 hn]

theorem lookup_foldl_markLoop (path : List String) (names : List String)
    (loops : List (String × List String)) (n : String) :
    (names.foldl (markLoop path) loops).lookup n =
      (loops.lookup n).or (if n ∈ names then some path else none) := by
  induction names generalizing loops with
  | nil => simp
  | cons name names ih =>
    rw [List.foldl_cons, ih, lookup_markLoop]
    by_cases hn : n = name
    · cases loops.lookup n <;> simp [hn]
    · simp [hn]

theorem lookup_filter_ne {β : Type} (l : List (String × β)) (name n : String) :
    (l.filter (·.1 != name)).lookup n = if n = name then none else l.lookup n := by
  induction l with
  | nil => simp
  | cons p l ih =>
    by_cases hp : p.1 = name
    · rw [List.filter_cons_of_neg (by simp [hp]), ih]
      split
      · rfl
      · rename_i hn
        rw [show p = (p.1, p.2) from rfl, List.lookup_cons, hp, beq_eq_false_iff_ne.2 hn]
    · rw [List.filter_cons_of_pos (by simp [hp]), show p = (p.1, p.2) from rfl,
        List.lookup_cons, List.lookup_cons, ih]
      by_cases hn : n = name
      · subst hn
        simp [beq_eq_false_iff_ne.2 (Ne.symm hp)]
      · simp [hn]

/-! ## Coherent surveys -/

/-- What holds of a survey at every moment. -/
structure Coherent (s : Survey) : Prop where
  stack_nodup : s.inProgress.Nodup
  /-- Each name is finished once. -/
  memo_nodup : (s.memo.map Prod.fst).Nodup
  /-- What is in progress is not finished. -/
  stack_open : ∀ n ∈ s.inProgress, s.memoized n = none
  /-- A loop is recorded for types in progress only. -/
  loops_open : ∀ n, (s.loops.lookup n).isSome → n ∈ s.inProgress

/-- The survey `t` goes on from `s`: the same types are in progress, and what was found is kept. -/
structure Extends (s t : Survey) : Prop where
  inProgress : t.inProgress = s.inProgress
  memoized : ∀ {n k}, s.memoized n = some k → t.memoized n = some k
  loops : ∀ {n path}, s.loops.lookup n = some path → t.loops.lookup n = some path

theorem Extends.refl (s : Survey) : Extends s s := ⟨rfl, id, id⟩

theorem Extends.trans {s t u : Survey} (h : Extends s t) (h' : Extends t u) : Extends s u :=
  ⟨h'.inProgress.trans h.inProgress, fun hk => h'.memoized (h.memoized hk),
    fun hp => h'.loops (h.loops hp)⟩

theorem coherent_fresh : fresh.Coherent :=
  ⟨List.nodup_nil, List.nodup_nil, by simp [fresh], by simp [fresh]⟩

theorem Coherent.enter {s : Survey} (h : s.Coherent) {n : String} (hm : s.memoized n = none)
    (hs : n ∉ s.inProgress) : (s.enter n).Coherent where
  stack_nodup := List.nodup_cons.2 ⟨hs, h.stack_nodup⟩
  memo_nodup := h.memo_nodup
  stack_open m hmem := by
    rcases List.mem_cons.1 hmem with rfl | hmem
    · exact hm
    · exact h.stack_open m hmem
  loops_open m hl := List.mem_cons_of_mem _ (h.loops_open m hl)

theorem mem_loopOf {s : Survey} {name n : String} :
    n ∈ s.loopOf name ↔ n = name ∨ n ∈ s.inProgress.takeWhile (· != name) := by
  simp [loopOf]

theorem lookup_closeLoop (s : Survey) (name n : String) :
    (s.closeLoop name).2.loops.lookup n =
      (s.loops.lookup n).or
        (if n ∈ s.loopOf name then some (s.loopOf name ++ [name]) else none) :=
  lookup_foldl_markLoop _ _ _ _

theorem Coherent.closeLoop {s : Survey} (h : s.Coherent) {name : String}
    (hs : name ∈ s.inProgress) : (s.closeLoop name).2.Coherent where
  stack_nodup := h.stack_nodup
  memo_nodup := h.memo_nodup
  stack_open := h.stack_open
  loops_open n hl := by
    rw [lookup_closeLoop, Option.isSome_or, Bool.or_eq_true] at hl
    rcases hl with hl | hl
    · exact h.loops_open n hl
    · split at hl
      · rename_i hn
        rcases mem_loopOf.1 hn with rfl | hn
        · exact hs
        · exact (List.takeWhile_prefix _).subset hn
      · simp at hl

theorem extends_closeLoop (s : Survey) (name : String) : Extends s (s.closeLoop name).2 where
  inProgress := rfl
  memoized := id
  loops hp := by rw [lookup_closeLoop, hp]; rfl

theorem memoized_leave (t : Survey) (name n : String) (found : Classification) :
    (t.leave name found).2.memoized n =
      if n = name then some (t.leave name found).1 else t.memoized n := by
  simp only [leave, memoized, List.lookup_cons]
  by_cases hn : n = name
  · simp [hn]
  · simp [hn, beq_eq_false_iff_ne.2 hn]

theorem lookup_loops_leave (t : Survey) (name n : String) (found : Classification) :
    (t.leave name found).2.loops.lookup n = if n = name then none else t.loops.lookup n :=
  lookup_filter_ne _ _ _

/-- Leaving a type that was entered gives back a coherent survey. -/
theorem Coherent.leave {s t : Survey} {name : String} (ht : t.Coherent)
    (hst : Extends (s.enter name) t) (hn : name ∉ s.inProgress) (found : Classification) :
    (t.leave name found).2.Coherent where
  stack_nodup := ht.stack_nodup.tail
  memo_nodup := by
    have hopen : t.memoized name = none :=
      ht.stack_open name (by rw [hst.inProgress]; exact List.mem_cons_self)
    refine List.nodup_cons.2 ⟨fun hmem => ?_, ht.memo_nodup⟩
    obtain ⟨p, hp, rfl⟩ := List.mem_map.1 hmem
    simpa using List.lookup_eq_none_iff.1 hopen p hp
  stack_open n hmem := by
    -- Only the name that is left is newly finished, and it is on the stack no more.
    have htail : (t.leave name found).2.inProgress = s.inProgress := by
      simp [Survey.leave, hst.inProgress, Survey.enter]
    rw [htail] at hmem
    have hne : n ≠ name := fun h => hn (h ▸ hmem)
    rw [memoized_leave, if_neg hne]
    exact ht.stack_open n (by rw [hst.inProgress]; exact List.mem_cons_of_mem _ hmem)
  loops_open n hl := by
    rw [lookup_loops_leave] at hl
    split at hl
    · simp at hl
    · rename_i hne
      have hmem := ht.loops_open n hl
      rw [hst.inProgress] at hmem
      simpa [Survey.leave, hst.inProgress, Survey.enter, hne] using hmem

theorem Extends.leave {s t : Survey} {name : String} (hs : s.Coherent)
    (hst : Extends (s.enter name) t) (hm : s.memoized name = none) (hn : name ∉ s.inProgress)
    (found : Classification) : Extends s (t.leave name found).2 where
  inProgress := by simp [Survey.leave, hst.inProgress, Survey.enter]
  memoized {n k} hk := by
    have hne : n ≠ name := fun h => by simp [← h, hk] at hm
    rw [memoized_leave, if_neg hne]
    exact hst.memoized hk
  loops {n path} hp := by
    have hne : n ≠ name := fun h => hn (h ▸ hs.loops_open n (by simp [hp]))
    rw [lookup_loops_leave, if_neg hne]
    exact hst.loops hp

/-- A loop through `n` is recorded. -/
def Recorded (s : Survey) (n : String) : Prop :=
  (s.loops.lookup n).isSome

theorem Extends.recorded {s t : Survey} (h : Extends s t) {n : String} (hn : s.Recorded n) :
    t.Recorded n := by
  obtain ⟨path, hp⟩ := Option.isSome_iff_exists.1 hn
  exact Option.isSome_iff_exists.2 ⟨path, h.loops hp⟩

theorem Extends.memoized_isSome {s t : Survey} (h : Extends s t) {n : String}
    (hn : (s.memoized n).isSome) : (t.memoized n).isSome := by
  obtain ⟨k, hk⟩ := Option.isSome_iff_exists.1 hn
  exact Option.isSome_iff_exists.2 ⟨k, h.memoized hk⟩

theorem recorded_closeLoop (s : Survey) (z n : String) :
    (s.closeLoop z).2.Recorded n ↔ s.Recorded n ∨ n ∈ s.loopOf z := by
  rw [Recorded, lookup_closeLoop, Option.isSome_or, Bool.or_eq_true, Recorded]
  split <;> simp [*]

theorem recorded_leave (t : Survey) (name n : String) (found : Classification) :
    (t.leave name found).2.Recorded n ↔ n ≠ name ∧ t.Recorded n := by
  rw [Recorded, lookup_loops_leave, Recorded]
  split <;> simp [*]

end Survey

/-! ## One inquiry -/

namespace Inquiry

/-- What is asked while the type of an inquiry is expanded. -/
def nested (catalog : Catalog) (f : Survey.Classifier) (q : Inquiry) : List Inquiry :=
  Survey.inquiries catalog f q.descriptor.name (q.descriptor.shape q.standing)
    (q.survey.enter q.descriptor.name)

/-- What the type of an inquiry is expanded to, and the survey after that, with the type still in
progress. -/
def expanded (catalog : Catalog) (f : Survey.Classifier) (q : Inquiry) :
    Classification × Survey :=
  Survey.expand catalog f q.descriptor.name (q.descriptor.shape q.standing)
    (q.survey.enter q.descriptor.name)

/-- The nested inquiries lead from where the type is entered to where its expansion ends. -/
theorem trail (catalog : Catalog) (f : Survey.Classifier) (q : Inquiry) :
    Survey.Trail f (q.survey.enter q.descriptor.name) (q.nested catalog f)
      (q.expanded catalog f).2 :=
  Survey.expand_trail _ _ _

/-- An inquiry is settled by a classifier: the survey stays coherent and goes on from where it was,
and the answer is remembered, unless the type was in progress, which is then refused. -/
structure Settled (f : Survey.Classifier) (q : Inquiry) : Prop where
  coherent : (q.after f).Coherent
  extends_survey : Survey.Extends q.survey (q.after f)
  answer_memoized : q.descriptor.name ∈ q.survey.inProgress ∧ (q.answer f).isSupported = false ∨
    (q.after f).memoized q.descriptor.name = some (q.answer f)

/-- An inquiry can be answered within a depth: the survey is coherent, and there are fewer names
to be met than types that may still be nested. -/
structure Ready (catalog : Catalog) (depth : Nat) (q : Inquiry) : Prop where
  coherent : q.survey.Coherent
  room : ∃ names, variantNames catalog.types ⊆ names ∧ q.descriptor.names ⊆ names ∧
    q.survey.inProgress ⊆ names ∧ names.length < depth + q.survey.inProgress.length

variable {catalog : Catalog}

/-- The types in progress have different names, so there is always depth left. -/
theorem Ready.depth_ne_zero {depth : Nat} {q : Inquiry} (h : Ready catalog depth q) :
    depth ≠ 0 := by
  rintro rfl
  obtain ⟨names, -, -, hstack, hlen⟩ := h.room
  -- A list without repetitions is no longer than one that it is contained in.
  have := (List.subperm_of_subset h.coherent.stack_nodup hstack).length_le
  omega

theorem Ready.of_nested {depth : Nat} {q p : Inquiry} {f : Survey.Classifier}
    (h : Ready catalog (depth + 1) q) (hp : p ∈ q.nested catalog f)
    (hs : p.survey.Coherent) (he : Survey.Extends (q.survey.enter q.descriptor.name) p.survey) :
    Ready catalog depth p := by
  obtain ⟨names, hc, hd, hstack, hlen⟩ := h.room
  have hstack' : p.survey.inProgress = q.descriptor.name :: q.survey.inProgress := he.inProgress
  refine ⟨hs, names, hc, (Survey.refers_of_mem_inquiries hp).names_subset hc hd, ?_, ?_⟩
  · rw [hstack']
    exact List.cons_subset.2 ⟨hd (Descriptor.name_mem_names _), hstack⟩
  · rw [hstack', List.length_cons]
    omega

end Inquiry

namespace Survey

variable {catalog : Catalog}

/-! ## The three ways an inquiry is answered -/

theorem classifyWithin_of_memoized (catalog : Catalog) (depth : Nat) {q : Inquiry}
    {k : Classification} (h : q.survey.memoized q.descriptor.name = some k) :
    classifyWithin catalog (depth + 1) q.standing q.descriptor q.survey = (k, q.survey) := by
  simp [classifyWithin, h]

theorem classifyWithin_of_inProgress (catalog : Catalog) (depth : Nat) {q : Inquiry}
    (hm : q.survey.memoized q.descriptor.name = none)
    (hs : q.descriptor.name ∈ q.survey.inProgress) :
    classifyWithin catalog (depth + 1) q.standing q.descriptor q.survey =
      q.survey.closeLoop q.descriptor.name := by
  simp [classifyWithin, hm, hs]

theorem classifyWithin_of_fresh (catalog : Catalog) (depth : Nat) {q : Inquiry} (h : q.Fresh) :
    classifyWithin catalog (depth + 1) q.standing q.descriptor q.survey =
      (q.expanded catalog (classifyWithin catalog depth)).2.leave q.descriptor.name
        (q.expanded catalog (classifyWithin catalog depth)).1 := by
  simp [classifyWithin, h.1, h.2, Inquiry.expanded]

/-! ## Every inquiry is settled -/

/-- Where each nested inquiry that is ready is settled, they are all ready and settled, one after
another. -/
theorem nested_settled {depth : Nat} {f : Classifier}
    (hf : ∀ p, Inquiry.Ready catalog depth p → p.Settled f) {q : Inquiry}
    (h : Inquiry.Ready catalog (depth + 1) q) (hq : q.Fresh) :
    ((q.expanded catalog f).2.Coherent ∧
      Extends (q.survey.enter q.descriptor.name) (q.expanded catalog f).2) ∧
    ∀ p ∈ q.nested catalog f, Inquiry.Ready catalog depth p ∧
      Extends (q.survey.enter q.descriptor.name) p.survey ∧
      Extends (p.after f) (q.expanded catalog f).2 := by
  have hin : (q.survey.enter q.descriptor.name).Coherent := h.coherent.enter hq.1 hq.2
  -- Coherence has to be known at an inquiry before it is settled, so it goes along.
  have steps := (q.trail catalog f).steps (R := fun s t => s.Coherent → t.Coherent ∧ Extends s t)
    (fun s hs => ⟨hs, .refl s⟩)
    (fun hst htu hs =>
      ⟨(htu (hst hs).1).1, (hst hs).2.trans (htu (hst hs).1).2⟩)
    (fun p hp hR hs => by
      have settled := hf p (h.of_nested hp hs (hR hin).2)
      exact ⟨settled.coherent, settled.extends_survey⟩)
  refine ⟨steps.1 hin, fun p hp => ?_⟩
  have before := (steps.2 p hp).1 hin
  have ready := h.of_nested hp before.1 before.2
  exact ⟨ready, before.2, ((steps.2 p hp).2 (hf p ready).coherent).2⟩

theorem classifyWithin_settled (depth : Nat) (q : Inquiry)
    (h : Inquiry.Ready catalog depth q) : q.Settled (classifyWithin catalog depth) := by
  induction depth generalizing q with
  | zero => exact absurd rfl h.depth_ne_zero
  | succ depth ih =>
    cases hm : q.survey.memoized q.descriptor.name with
    | some k =>
      have run := classifyWithin_of_memoized catalog depth hm
      constructor <;> simp only [Inquiry.after, Inquiry.answer, run]
      · exact h.coherent
      · exact .refl _
      · exact .inr hm
    | none =>
      by_cases hs : q.descriptor.name ∈ q.survey.inProgress
      · have run := classifyWithin_of_inProgress catalog depth hm hs
        constructor <;> simp only [Inquiry.after, Inquiry.answer, run]
        · exact h.coherent.closeLoop hs
        · exact extends_closeLoop _ _
        · exact .inl ⟨hs, rfl⟩
      · obtain ⟨⟨hco, hext⟩, -⟩ := nested_settled ih h ⟨hm, hs⟩
        have run := classifyWithin_of_fresh catalog depth ⟨hm, hs⟩
        constructor <;> simp only [Inquiry.after, Inquiry.answer, run]
        · exact hco.leave hext hs _
        · exact hext.leave h.coherent hm hs _
        · exact .inr (by rw [memoized_leave, if_pos rfl])

/-- While a type is expanded, the nested inquiries go on from one another and are all settled. -/
theorem nested_of_ready {depth : Nat} {q : Inquiry} (h : Inquiry.Ready catalog (depth + 1) q)
    (hq : q.Fresh) :
    ((q.expanded catalog (classifyWithin catalog depth)).2.Coherent ∧
      Extends (q.survey.enter q.descriptor.name)
        (q.expanded catalog (classifyWithin catalog depth)).2) ∧
    ∀ p ∈ q.nested catalog (classifyWithin catalog depth), Inquiry.Ready catalog depth p ∧
      Extends (q.survey.enter q.descriptor.name) p.survey ∧
      Extends (p.after (classifyWithin catalog depth))
        (q.expanded catalog (classifyWithin catalog depth)).2 :=
  nested_settled (fun p hp => classifyWithin_settled depth p hp) h hq

/-- What holds of an inquiry's answer and of the survey after it, proved by how it is answered. -/
theorem classifyWithin_induction {P : Nat → Inquiry → Prop}
    {Q : Inquiry → Classification → Survey → Prop}
    (finished : ∀ depth q k, P depth q → q.survey.Coherent →
      q.survey.memoized q.descriptor.name = some k → Q q k q.survey)
    (closed : ∀ depth q, P depth q → q.survey.Coherent →
      q.descriptor.name ∈ q.survey.inProgress →
      Q q (q.survey.closeLoop q.descriptor.name).1 (q.survey.closeLoop q.descriptor.name).2)
    (expanded : ∀ depth q, P (depth + 1) q → Inquiry.Ready catalog (depth + 1) q → q.Fresh →
      (∀ p ∈ q.nested catalog (classifyWithin catalog depth), P depth p →
        Q p (p.answer (classifyWithin catalog depth))
          (p.after (classifyWithin catalog depth))) →
      Q q (q.answer (classifyWithin catalog (depth + 1)))
        (q.after (classifyWithin catalog (depth + 1))))
    (depth : Nat) (q : Inquiry) (h : Inquiry.Ready catalog depth q) (hp : P depth q) :
    Q q (q.answer (classifyWithin catalog depth))
      (q.after (classifyWithin catalog depth)) := by
  induction depth generalizing q with
  | zero => exact absurd rfl h.depth_ne_zero
  | succ depth ih =>
    cases hm : q.survey.memoized q.descriptor.name with
    | some k =>
      simp only [Inquiry.answer, Inquiry.after, classifyWithin_of_memoized _ _ hm]
      exact finished _ q k hp h.coherent hm
    | none =>
      by_cases hs : q.descriptor.name ∈ q.survey.inProgress
      · simp only [Inquiry.answer, Inquiry.after, classifyWithin_of_inProgress _ _ hm hs]
        exact closed _ q hp h.coherent hs
      · exact expanded depth q hp h ⟨hm, hs⟩ fun p hmem hp' =>
          ih p ((nested_of_ready h ⟨hm, hs⟩).2 p hmem).1 hp'

end Survey

end EditableFields
