import EditableFields.Proofs.Survey.Run
import Mathlib.Data.List.Dedup

/-!
# Surveys: the course of a history

The moves of a history lead from the fresh survey to the last one, each made where it can be made
(`history_path`), and the moments of a history are the surveys between them. Every such move keeps
a survey coherent (`Coherent.apply`), so every moment is coherent, and between calls nothing is in
progress and no loop is recorded (`history_coherent`).

The names whose classification has started are, at every moment, just those that are finished or
in progress (`Path.known_perm`), each once. So no name is classified twice, and no more types are
in progress than there are names (`history_bounded`).
-/

namespace EditableFields

namespace Survey

variable {catalog : Catalog}

/-! ## Paths -/

namespace Move

/-- Whether a survey can make a move. -/
def Legal (s : Survey) : Move → Prop
  | reuse n => (s.memoized n).isSome
  | close n => s.memoized n = none ∧ n ∈ s.inProgress
  | enter n => s.memoized n = none ∧ n ∉ s.inProgress
  | leave n _ => s.inProgress.head? = some n

end Move

/-- Moves that lead from one survey to another, each made where it can be made. -/
inductive Path : Survey → List Move → Survey → Prop
  | nil (s) : Path s [] s
  | cons {s m ms t} : m.Legal s → Path (m.apply s) ms t → Path s (m :: ms) t

/-- The surveys that moves lead through, with the first and the last. -/
def moments (s : Survey) : List Move → List Survey
  | [] => [s]
  | m :: ms => s :: moments (m.apply s) ms

theorem Path.append {s t u : Survey} {ms ms' : List Move} (h : Path s ms t) (h' : Path t ms' u) :
    Path s (ms ++ ms') u := by
  induction h with
  | nil => exact h'
  | cons hm _ ih => exact .cons hm (ih h')

/-- What every move keeps holds at every moment and at the end. -/
theorem Path.keeps {P : Survey → Prop} {s t : Survey} {ms : List Move} (h : Path s ms t)
    (hs : P s) (step : ∀ m ∈ ms, ∀ s, m.Legal s → P s → P (m.apply s)) :
    P t ∧ ∀ u ∈ moments s ms, P u := by
  induction h with
  | nil => exact ⟨hs, by simpa [moments] using hs⟩
  | @cons s m ms t hm _ ih =>
    have rest := ih (step m List.mem_cons_self s hm hs)
      fun m' hm' => step m' (List.mem_cons_of_mem _ hm')
    exact ⟨rest.1, List.forall_mem_cons.2 ⟨hs, rest.2⟩⟩

theorem Trail.path {f : Classifier} {moves : Inquiry → List Move} {s t : Survey}
    {qs : List Inquiry} (h : Trail f s qs t)
    (hq : ∀ q ∈ qs, Path q.survey (moves q) (q.after f)) : Path s (qs.flatMap moves) t := by
  induction h with
  | nil s => exact .nil s
  | cons _ ih =>
    exact (hq _ List.mem_cons_self).append (ih fun p hp => hq p (List.mem_cons_of_mem _ hp))

/-- The moves of a run lead from the survey before to the survey after. -/
theorem Runs.path {q : Inquiry} {ms : List Move} {k : Classification} {t : Survey}
    (h : Runs catalog q ms k t) : Path q.survey ms t := by
  induction h with
  | finished hm => exact .cons (by simp [Move.Legal, hm]) (.nil _)
  | closed hm hs => exact .cons ⟨hm, hs⟩ (.nil _)
  | @expanded q f moves hfresh hruns ih =>
    have nested : Path (q.survey.enter q.descriptor.name) _ (q.expanded catalog f).2 :=
      (q.trail catalog f).path ih
    -- The nested runs leave the type itself innermost.
    have stack := ((q.trail catalog f).steps (R := fun s t => t.inProgress = s.inProgress)
      (fun _ => rfl) (fun hst htu => htu.trans hst) fun p hp _ => (hruns p hp).inProgress).1
    have last : (Move.leave q.descriptor.name (q.expanded catalog f).1).Legal
        (q.expanded catalog f).2 := by
      simp [Move.Legal, stack, enter]
    exact .cons hfresh (nested.append (.cons last (.nil _)))

/-! ## Coherence at every moment -/

theorem Coherent.apply {s : Survey} (h : s.Coherent) {m : Move} (hm : m.Legal s) :
    (m.apply s).Coherent := by
  cases m with
  | reuse => exact h
  | close n => exact h.closeLoop hm.2
  | enter n => exact h.enter hm.1 hm.2
  | leave n found =>
    -- The survey goes on from the one where the type was not yet in progress.
    obtain ⟨rest, hstack⟩ := List.head?_eq_some_iff.1 hm
    have entered : Extends (Survey.enter { s with inProgress := rest } n) s :=
      ⟨hstack, id, id⟩
    have hnew : n ∉ rest := (List.nodup_cons.1 (hstack ▸ h.stack_nodup)).1
    exact h.leave entered hnew found

theorem Coherent.mem_inProgress_of_mem_loops {s : Survey} (h : s.Coherent)
    {p : String × List String} (hp : p ∈ s.loops) : p.1 ∈ s.inProgress := by
  refine h.loops_open p.1 ?_
  rw [Option.isSome_iff_ne_none, ne_eq, List.lookup_eq_none_iff]
  exact fun hnone => by simpa using hnone p hp

theorem Idle.loops {s : Survey} (h : s.Idle) : s.loops = [] := by
  refine List.eq_nil_iff_forall_not_mem.2 fun p hp => ?_
  simpa [h.inProgress] using h.coherent.mem_inProgress_of_mem_loops hp

/-! ## The moves of a history -/

/-- The moves that a call makes. There are none for a name that means nothing. -/
def Call.moves (catalog : Catalog) (s : Survey) (c : Call) : List Move :=
  match c.inquiry? catalog s with
  | some q => q.moves catalog (depthBound catalog q.descriptor)
  | none => []

/-- The moves that calls make one after another. -/
def movesFrom (catalog : Catalog) (s : Survey) : List Call → List Move
  | [] => []
  | c :: calls => c.moves catalog s ++ movesFrom catalog (c.after catalog s) calls

/-- The moves of a history. -/
def historyMoves (catalog : Catalog) (calls : List Call) : List Move :=
  movesFrom catalog fresh calls

/-- The survey at every moment of a history: before and after each move. -/
def historyMoments (catalog : Catalog) (calls : List Call) : List Survey :=
  moments fresh (historyMoves catalog calls)

theorem Idle.runs {s : Survey} (h : s.Idle) {c : Call} {q : Inquiry}
    (hq : c.inquiry? catalog s = some q) :
    Runs catalog q (c.moves catalog s) (c.answer catalog s) (c.after catalog s) := by
  have hready : q.Ready catalog (depthBound catalog q.descriptor) :=
    Idle.ready (Call.inquiry?_survey hq ▸ h)
  rw [Call.moves, hq, Call.answer_of_some hq, Call.after_of_some hq]
  exact hready.runs

theorem Idle.path {s : Survey} (h : s.Idle) (c : Call) :
    Path s (c.moves catalog s) (c.after catalog s) := by
  cases hq : c.inquiry? catalog s with
  | none =>
    rw [Call.moves, hq, Call.after_of_none hq]
    exact .nil s
  | some q =>
    have hs : q.survey = s := Call.inquiry?_survey hq
    exact hs ▸ (h.runs hq).path

theorem Idle.path_movesFrom {s : Survey} (h : s.Idle) (calls : List Call) :
    Path s (movesFrom catalog s calls) (calls.foldl (Call.after catalog) s) := by
  induction calls generalizing s with
  | nil => exact .nil s
  | cons c calls ih => exact (h.path c).append (ih (h.call c))

theorem idle_fresh : fresh.Idle := ⟨coherent_fresh, rfl⟩

theorem history_path (catalog : Catalog) (calls : List Call) :
    Path fresh (historyMoves catalog calls) (history catalog calls) :=
  idle_fresh.path_movesFrom calls

/-- A type that refers to itself is met once while it is in progress, and once more when it is
finished. -/
example : historyMoves
      (.ofList [.product "Node" ⟨[⟨"next", "Node", true⟩], .named, true, false⟩])
      [.name "Node", .name "Node"] =
    [.enter "Node", .close "Node",
      .leave "Node" (.product .named
        [⟨"next", "Node", true, none, .unsupported (.circular ["Node", "Node"])⟩]),
      .reuse "Node"] := by
  rfl

/-- A survey stays coherent. Between calls nothing is in progress and no loop is recorded; what is
found is neither changed nor lost by later calls; the answer about a descriptor is what is found
for its name; and at every moment of a call, the types in progress have different names, none of
them is finished, and every loop recorded is one of a type in progress. -/
theorem history_coherent (catalog : Catalog) (calls : List Call) :
    ((history catalog calls).inProgress = [] ∧ (history catalog calls).loops = []) ∧
      (∀ later n k, (history catalog calls).memoized n = some k →
        (history catalog (calls ++ later)).memoized n = some k) ∧
      (∀ d, ((history catalog calls).classify catalog d).2.memoized d.name =
        some ((history catalog calls).classify catalog d).1) ∧
      (∀ d, ((history catalog calls).classifyVariant catalog d).2.memoized d.name =
        some ((history catalog calls).classifyVariant catalog d).1) ∧
      ∀ s ∈ historyMoments catalog calls, s.inProgress.Nodup ∧
        (∀ n ∈ s.inProgress, s.memoized n = none) ∧ ∀ p ∈ s.loops, p.1 ∈ s.inProgress := by
  have hidle : (history catalog calls).Idle := history_idle calls
  have coherent : ∀ s ∈ historyMoments catalog calls, s.Coherent :=
    ((history_path catalog calls).keeps coherent_fresh fun _ _ _ hm hs => hs.apply hm).2
  refine ⟨⟨hidle.inProgress, hidle.loops⟩, fun later _ _ => memoized_history_append calls later,
    fun d => ?_, fun d => ?_, fun s hs => ?_⟩
  · exact Idle.answer_memoized (q := ⟨.topLevel, d, _⟩) hidle
  · exact Idle.answer_memoized (q := ⟨.variant, d, _⟩) hidle
  · have hco := coherent s hs
    exact ⟨hco.stack_nodup, hco.stack_open, fun _ hp => hco.mem_inProgress_of_mem_loops hp⟩

/-! ## Each name once -/

/-- The names that a survey knows: what is finished, and what is in progress. -/
def known (s : Survey) : List String :=
  s.memo.map Prod.fst ++ s.inProgress

theorem Coherent.nodup_known {s : Survey} (h : s.Coherent) : s.known.Nodup := by
  refine List.nodup_append.2 ⟨h.memo_nodup, h.stack_nodup, ?_⟩
  rintro n hn _ hstack rfl
  obtain ⟨p, hp, rfl⟩ := List.mem_map.1 hn
  simpa using List.lookup_eq_none_iff.1 (h.stack_open _ hstack) p hp

theorem Move.known_perm {s : Survey} {m : Move} (hm : m.Legal s) :
    (m.apply s).known.Perm (m.entered?.toList ++ s.known) := by
  cases m with
  | reuse | close => exact .refl _
  | enter n => exact List.perm_middle
  | leave n found =>
    obtain ⟨rest, hstack⟩ := List.head?_eq_some_iff.1 hm
    simp only [known, apply, Survey.leave, hstack, List.tail_cons, entered?]
    exact List.perm_middle.symm

/-- A name gets on the stack only when its classification starts. -/
theorem Move.inProgress_subset {s : Survey} {names : List String} (m : Move)
    (hm : ∀ n, m.entered? = some n → n ∈ names) (h : s.inProgress ⊆ names) :
    (m.apply s).inProgress ⊆ names := by
  cases m with
  | reuse | close => exact h
  | enter n => exact List.cons_subset.2 ⟨hm n rfl, h⟩
  | leave n found => exact List.Subset.trans (List.tail_sublist _).subset h

/-- What is known after some moves is what was known before, and the names whose classification
has started since. -/
theorem Path.known_perm {s t : Survey} {ms : List Move} (h : Path s ms t) :
    t.known.Perm (ms.filterMap Move.entered? ++ s.known) := by
  induction h with
  | nil => exact .refl _
  | @cons s m ms t hm _ ih =>
    refine ih.trans (((Move.known_perm hm).append_left _).trans ?_)
    cases hn : m.entered? with
    | none => simp [hn]
    | some n => simp [hn, List.perm_middle]

/-- The names of a descriptor that a call passes. -/
def Call.names : Call → List String
  | name _ => []
  | type d | variant d => d.names

theorem Call.names_subset {c : Call} {s : Survey} {q : Inquiry}
    (hq : c.inquiry? catalog s = some q) :
    q.descriptor.names ⊆ variantNames catalog.types ++ c.names := by
  cases c with
  | name n =>
    obtain ⟨d, hd, rfl⟩ := Option.map_eq_some_iff.1 hq
    have hsub := names_subset_variantNames (Catalog.mem_types_of_get? hd)
    exact List.Subset.trans hsub (List.subset_append_left _ _)
  | type d | variant d =>
    cases hq
    exact List.subset_append_right _ _

theorem Idle.entered_subset {s : Survey} (h : s.Idle) (calls : List Call) :
    (movesFrom catalog s calls).filterMap Move.entered? ⊆
      variantNames catalog.types ++ calls.flatMap Call.names := by
  induction calls generalizing s with
  | nil => exact List.nil_subset _
  | cons c calls ih =>
    rw [movesFrom, List.filterMap_append, List.flatMap_cons]
    refine List.append_subset.2 ⟨?_, fun n hn => ?_⟩
    · cases hq : c.inquiry? catalog s with
      | none =>
        rw [Call.moves, hq]
        exact List.nil_subset _
      | some q =>
        refine (h.runs hq).entered_subset (List.subset_append_left _ _) fun n hn => ?_
        have := Call.names_subset hq hn
        simp only [List.mem_append] at this ⊢
        tauto
    · have := ih (h.call c) hn
      simp only [List.mem_append] at this ⊢
      tauto

/-- Classification is bounded work. A call asks one question at most, which has exactly one run,
however types refer to one another; over a whole history, the classification of each name starts
at most once; and at no moment are there more types in progress than there are names of types in
the catalog and in the descriptors passed in, variants at every depth included. -/
theorem history_bounded (catalog : Catalog) (calls : List Call) :
    (∀ (c : Call) (q : Inquiry), c.inquiry? catalog (history catalog calls) = some q →
        ∀ ms k t, Runs catalog q ms k t ↔
          ms = c.moves catalog (history catalog calls) ∧
            k = c.answer catalog (history catalog calls) ∧
            t = c.after catalog (history catalog calls)) ∧
      ((historyMoves catalog calls).filterMap Move.entered?).Nodup ∧
      ∀ s ∈ historyMoments catalog calls, s.inProgress.length ≤
        (variantNames catalog.types ++ calls.flatMap Call.names).dedup.length := by
  have path := history_path catalog calls
  refine ⟨fun c q hq ms k t => ⟨fun h => ?_, ?_⟩, ?_, fun s hs => ?_⟩
  · exact h.unique ((history_idle calls).runs hq)
  · rintro ⟨rfl, rfl, rfl⟩
    exact (history_idle calls).runs hq
  · have perm : (history catalog calls).known.Perm _ := path.known_perm
    have nodup := perm.nodup_iff.1 (history_idle calls).coherent.nodup_known
    exact (List.nodup_append.1 nodup).1
  · have hsub : (historyMoves catalog calls).filterMap Move.entered? ⊆ _ :=
      idle_fresh.entered_subset calls
    have coherent : s.Coherent :=
      (path.keeps coherent_fresh fun _ _ _ hm hs => hs.apply hm).2 s hs
    have inNames : s.inProgress ⊆ variantNames catalog.types ++ calls.flatMap Call.names :=
      (path.keeps (P := fun s => s.inProgress ⊆ _) (List.nil_subset _) fun m hm s _ h =>
        m.inProgress_subset (fun n hn => hsub (List.mem_filterMap.2 ⟨m, hm, hn⟩)) h).2 s hs
    exact (List.subperm_of_subset coherent.stack_nodup
      fun n hn => List.mem_dedup.2 (inNames hn)).length_le

end Survey

end EditableFields
