import EditableFields.Proofs.Survey.History

/-!
# Surveys: runs

A run is all that one inquiry makes of a survey: its moves in order, its answer, and the survey
afterwards. `Runs` says by rules what the runs are, with no bound on how deep types are nested, so
that a run is a finite tree of inquiries. Every inquiry has one run at most (`Runs.unique`), and
what is computed within a depth is that run, with the moves listed by `Inquiry.moves`, wherever the
inquiry is ready for the depth (`Inquiry.Ready.runs`).

What holds of all runs is proved by induction on the rules.
-/

namespace EditableFields

namespace Survey

/-! ## Moves -/

/-- One change of a survey. -/
inductive Move where
  /-- A type is met that is finished. -/
  | reuse (name : String)
  /-- A type is met that is in progress. -/
  | close (name : String)
  /-- The classification of a type starts: its shape is decided, and then what the shape holds is
  classified. -/
  | enter (name : String)
  /-- The classification of the innermost type ends: the type is taken off the stack, the loop
  recorded for it is forgotten and its classification is remembered, all in one change. -/
  | leave (name : String) (found : Classification)

namespace Move

def apply (s : Survey) : Move → Survey
  | reuse _ => s
  | close n => (s.closeLoop n).2
  | enter n => s.enter n
  | leave n found => (s.leave n found).2

/-- The name whose classification a move starts. -/
def entered? : Move → Option String
  | enter n => some n
  | _ => none

end Move

variable {catalog : Catalog} {f f' : Classifier}

/-! ## Answers that agree -/

/-- Two classifiers answer an inquiry alike. -/
def Agree (f f' : Classifier) (q : Inquiry) : Prop :=
  f q.standing q.descriptor q.survey = f' q.standing q.descriptor q.survey

theorem resolveMembers_congr {ms : List Member} {s : Survey}
    (h : ∀ q ∈ memberInquiries catalog f ms s, q ∈ memberInquiries catalog f' ms s →
      Agree f f' q) :
    memberInquiries catalog f ms s = memberInquiries catalog f' ms s ∧
      resolveMembers catalog f ms s = resolveMembers catalog f' ms s := by
  induction ms generalizing s with
  | nil => exact ⟨rfl, rfl⟩
  | cons m ms ih =>
    simp only [memberInquiries, resolveMembers] at h ⊢
    cases hm : catalog.memberType? m with
    | none =>
      simp only [hm] at h
      simp only [resolveMember_of_settled hm, ih h, and_self]
    | some e =>
      simp only [hm] at h
      -- Both ask for the first member in the same survey, so what follows starts alike.
      have first : f .topLevel e s = f' .topLevel e s := h _ List.mem_cons_self List.mem_cons_self
      rw [← first] at h
      have rest := ih fun q hq hq' => h q (List.mem_cons_of_mem _ hq) (List.mem_cons_of_mem _ hq')
      simp only [resolveMember_of_memberType? hm, ← first, rest, and_self]

theorem resolveVariants_congr {owner : String} {vs : List Descriptor} {s : Survey}
    (h : ∀ q ∈ variantInquiries f owner vs s, q ∈ variantInquiries f' owner vs s →
      Agree f f' q) :
    variantInquiries f owner vs s = variantInquiries f' owner vs s ∧
      resolveVariants f owner vs s = resolveVariants f' owner vs s := by
  induction vs generalizing s with
  | nil => exact ⟨rfl, rfl⟩
  | cons v vs ih =>
    simp only [variantInquiries, resolveVariants] at h ⊢
    have first : f .variant v s = f' .variant v s := h _ List.mem_cons_self List.mem_cons_self
    rw [← first] at h ⊢
    cases hv : variantRefusal? owner v.simpleName (f .variant v s).1 with
    | some reason => exact ⟨rfl, rfl⟩
    | none =>
      simp only [hv] at h
      have rest := ih fun q hq hq' => h q (List.mem_cons_of_mem _ hq) (List.mem_cons_of_mem _ hq')
      simp only [rest, and_self]

/-- Where two classifiers answer all that both are asked alike, they are asked the same, and a
shape is expanded to the same. -/
theorem expand_congr {name : String} {shape : Shape} {s : Survey}
    (h : ∀ q ∈ inquiries catalog f name shape s, q ∈ inquiries catalog f' name shape s →
      Agree f f' q) :
    inquiries catalog f name shape s = inquiries catalog f' name shape s ∧
      expand catalog f name shape s = expand catalog f' name shape s := by
  cases shape with
  | product style members =>
    obtain ⟨hsame, hrun⟩ := resolveMembers_congr h
    exact ⟨hsame, by simp only [expand, hrun]⟩
  | sum variants =>
    obtain ⟨hsame, hrun⟩ := resolveVariants_congr h
    exact ⟨hsame, by simp only [expand, hrun]⟩
  | primitive | enumeration | singleton | external | unsupported => exact ⟨rfl, rfl⟩

/-! ## Runs -/

/-- The runs of inquiries. In the last rule, `f` and `moves` are what the nested inquiries are
answered by and the moves that they make. -/
inductive Runs (catalog : Catalog) : Inquiry → List Move → Classification → Survey → Prop
  | finished {q k} : q.survey.memoized q.descriptor.name = some k →
      Runs catalog q [.reuse q.descriptor.name] k q.survey
  | closed {q} : q.survey.memoized q.descriptor.name = none →
      q.descriptor.name ∈ q.survey.inProgress →
      Runs catalog q [.close q.descriptor.name] (q.survey.closeLoop q.descriptor.name).1
        (q.survey.closeLoop q.descriptor.name).2
  | expanded {q f} {moves : Inquiry → List Move} : q.Fresh →
      (∀ p ∈ q.nested catalog f, Runs catalog p (moves p) (p.answer f) (p.after f)) →
      Runs catalog q
        (.enter q.descriptor.name :: ((q.nested catalog f).flatMap moves ++
          [.leave q.descriptor.name (q.expanded catalog f).1]))
        ((q.expanded catalog f).2.leave q.descriptor.name (q.expanded catalog f).1).1
        ((q.expanded catalog f).2.leave q.descriptor.name (q.expanded catalog f).1).2

/-- An inquiry has one run at most. -/
theorem Runs.unique {q : Inquiry} {ms ms' : List Move} {k k' : Classification} {t t' : Survey}
    (h : Runs catalog q ms k t) (h' : Runs catalog q ms' k' t') : ms = ms' ∧ k = k' ∧ t = t' := by
  induction h generalizing ms' k' t' with
  | finished hm =>
    cases h' with
    | finished hm' =>
      rw [hm, Option.some_inj] at hm'
      exact ⟨rfl, hm', rfl⟩
    | closed hm' => simp [hm] at hm'
    | expanded hq => simp [hq.1] at hm
  | closed hm hs =>
    cases h' with
    | finished hm' => simp [hm] at hm'
    | closed => exact ⟨rfl, rfl, rfl⟩
    | expanded hq => exact absurd hs hq.2
  | @expanded q f moves hq _ ih =>
    cases h' with
    | finished hm => simp [hq.1] at hm
    | closed _ hs => exact absurd hs hq.2
    | @expanded _ f' moves' _ hruns' =>
      -- An inquiry that both make has one run, so the nested inquiries are the same.
      obtain ⟨hsame, hexpand⟩ : q.nested catalog f = q.nested catalog f' ∧
          q.expanded catalog f = q.expanded catalog f' :=
        expand_congr fun p hp hp' => Prod.ext_iff.2 (ih p hp (hruns' p hp')).2
      have hmoves : (q.nested catalog f).flatMap moves = (q.nested catalog f').flatMap moves' := by
        rw [← hsame]
        exact List.flatMap_congr fun p hp => (ih p hp (hruns' p (hsame ▸ hp))).1
      rw [hexpand, hmoves]
      exact ⟨rfl, rfl, rfl⟩

/-- A run leaves in progress what was in progress. -/
theorem Runs.inProgress {q : Inquiry} {ms : List Move} {k : Classification} {t : Survey}
    (h : Runs catalog q ms k t) : t.inProgress = q.survey.inProgress := by
  induction h with
  | finished => rfl
  | closed => rfl
  | @expanded q f _ _ _ ih =>
    have steps := (q.trail catalog f).steps (R := fun s t => t.inProgress = s.inProgress)
      (fun _ => rfl) (fun hst htu => htu.trans hst) fun p hp _ => ih p hp
    simp [leave, steps.1, enter]

/-- A run starts on names of the catalog's and of the type's only. -/
theorem Runs.entered_subset {q : Inquiry} {ms : List Move} {k : Classification} {t : Survey}
    (h : Runs catalog q ms k t) {names : List String}
    (hc : variantNames catalog.types ⊆ names) (hd : q.descriptor.names ⊆ names) :
    ms.filterMap Move.entered? ⊆ names := by
  induction h with
  | finished => exact List.nil_subset _
  | closed => exact List.nil_subset _
  | @expanded q f moves _ _ ih =>
    have nested : ((q.nested catalog f).flatMap moves).filterMap Move.entered? ⊆ names := by
      intro n hn
      obtain ⟨m, hm, hmn⟩ := List.mem_filterMap.1 hn
      obtain ⟨p, hp, hmp⟩ := List.mem_flatMap.1 hm
      have hsub := ih p hp ((refers_of_mem_inquiries hp).names_subset hc hd)
      exact hsub (List.mem_filterMap.2 ⟨m, hmp, hmn⟩)
    have first : q.descriptor.name ∈ names := hd (Descriptor.name_mem_names _)
    simpa [Move.entered?, first, List.filterMap_cons] using nested

end Survey

/-! ## The moves within a depth -/

/-- The moves that an inquiry makes within a depth. -/
def Inquiry.moves (catalog : Catalog) : Nat → Inquiry → List Survey.Move
  | 0, _ => []
  | depth + 1, q =>
    match q.survey.memoized q.descriptor.name with
    | some _ => [.reuse q.descriptor.name]
    | none =>
      if q.survey.inProgress.contains q.descriptor.name then [.close q.descriptor.name]
      else
        .enter q.descriptor.name ::
          ((q.nested catalog (Survey.classifyWithin catalog depth)).flatMap
              (Inquiry.moves catalog depth) ++
            [.leave q.descriptor.name
              (q.expanded catalog (Survey.classifyWithin catalog depth)).1])

/-- An inquiry that is ready for a depth has a run, which is what is computed within the depth. -/
theorem Inquiry.Ready.runs {catalog : Catalog} {depth : Nat} {q : Inquiry}
    (h : q.Ready catalog depth) :
    Survey.Runs catalog q (q.moves catalog depth) (q.answer (Survey.classifyWithin catalog depth))
      (q.after (Survey.classifyWithin catalog depth)) := by
  induction depth generalizing q with
  | zero => exact absurd rfl h.depth_ne_zero
  | succ depth ih =>
    rw [Inquiry.moves, Inquiry.answer, Inquiry.after]
    cases hm : q.survey.memoized q.descriptor.name with
    | some k =>
      rw [Survey.classifyWithin_of_memoized catalog depth hm]
      exact .finished hm
    | none =>
      by_cases hs : q.descriptor.name ∈ q.survey.inProgress
      · rw [Survey.classifyWithin_of_inProgress catalog depth hm hs,
          List.contains_iff_mem.2 hs]
        exact .closed hm hs
      · have hfresh : q.Fresh := ⟨hm, hs⟩
        have hnot : ¬ q.survey.inProgress.contains q.descriptor.name = true := by simpa using hs
        rw [Survey.classifyWithin_of_fresh catalog depth hfresh]
        simp only [if_neg hnot]
        exact .expanded hfresh fun p hp => ih ((Survey.nested_of_ready h hfresh).2 p hp).1

end EditableFields
