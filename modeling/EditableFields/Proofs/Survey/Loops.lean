import EditableFields.Proofs.Survey.History

/-!
# Surveys: which types on loops are refused

In a catalog of products, a type is refused exactly if, at the moment its classification starts,
a way leads from it back to itself or to a type still in progress through types that the survey
knows nothing about (`WayBack`). So not every type on a loop is refused: one whose ways back all
pass through a finished type is not, as in the catalog `sharedLoops`.

The proof is that of depth-first search with finished types left alone. Two facts go along one
inquiry. A loop recorded by it comes from a way to a type in progress (`Surveyed.recorded`); and
whatever it finishes, all that the finished type refers to is finished too, or is in progress with
its loop recorded (`Surveyed.closed`). By the second fact a way through unknown types cannot end
anywhere but in a recorded loop.
-/

namespace EditableFields

/-- Types of which each is a product that stands for itself: they have different names, none of
them a primitive's, a companion, one to `maxMembers` members, and none is a value wrapper. -/
structure AllProducts (ds : List Descriptor) : Prop where
  distinct : (ds.map Descriptor.name).Nodup
  product : ∀ d ∈ ds, ∃ name content, d = .product name content ∧
    Primitive.ofTypeName? name = none ∧ content.companion = true ∧
    1 ≤ content.members.length ∧ content.members.length ≤ maxMembers ∧ d.valueWrapper? = none

namespace Survey

variable {catalog : Catalog}

/-- A way leads from a type to the type in progress named `z`, and on it there are only types that
the survey knows nothing about. -/
inductive Reaches (catalog : Catalog) (s : Survey) : Descriptor → String → Prop
  | here {d} : d.name ∈ s.inProgress → Reaches catalog s d d.name
  | onward {d e z} : s.memoized d.name = none → d.name ∉ s.inProgress → Refers catalog d e →
      Reaches catalog s e z → Reaches catalog s d z

/-- From a type whose classification starts, a way leads back to the type or to one in progress
before it, and on it there are only types that the survey knows nothing about. -/
def WayBack (catalog : Catalog) (s : Survey) (d : Descriptor) : Prop :=
  ∃ e z, Refers catalog d e ∧ Reaches catalog (s.enter d.name) e z

theorem Reaches.of_extends {s t : Survey} (h : Extends s t) {d : Descriptor} {z : String}
    (hr : Reaches catalog t d z) : Reaches catalog s d z := by
  induction hr with
  | here hd => exact .here (h.inProgress ▸ hd)
  | @onward d e z hm hn href _ ih =>
    refine .onward ?_ (h.inProgress ▸ hn) href ih
    cases hk : s.memoized d.name with
    | none => rfl
    | some k => simp [h.memoized hk] at hm

theorem Reaches.of_enter {s : Survey} {n : String} {d : Descriptor} {z : String}
    (hr : Reaches catalog (s.enter n) d z) (hz : z ≠ n) : Reaches catalog s d z := by
  induction hr with
  | here hd => exact .here ((List.mem_cons.1 hd).resolve_left hz)
  | onward hm hn href _ ih =>
    exact .onward hm (fun h => hn (List.mem_cons_of_mem _ h)) href (ih hz)

/-! ## The types that a loop goes through -/

theorem loopOf_congr {s t : Survey} (h : t.inProgress = s.inProgress) (z : String) :
    t.loopOf z = s.loopOf z := by
  simp [loopOf, h]

/-- The loop that a type of the stack closes also goes through the innermost type. -/
theorem mem_loopOf_enter {s : Survey} {m z n : String} (hz : z ≠ m) :
    n ∈ (s.enter m).loopOf z ↔ n = m ∨ n ∈ s.loopOf z := by
  simp [mem_loopOf, enter, Ne.symm hz, or_left_comm]

theorem mem_loopOf_enter_self {s : Survey} {m n : String} :
    n ∈ (s.enter m).loopOf m ↔ n = m := by
  simp [mem_loopOf, enter]

theorem loopOf_subset {s : Survey} {z : String} (hz : z ∈ s.inProgress) :
    s.loopOf z ⊆ s.inProgress := by
  intro n hn
  rcases mem_loopOf.1 hn with rfl | hn
  · exact hz
  · exact (List.takeWhile_prefix _).subset hn

/-! ## What one inquiry does -/

/-- In the survey `t`, later than `s`, a type is taken care of: it is finished, or it was in
progress in `s` and the loop that it closes there is recorded. -/
def Covered (s t : Survey) (d : Descriptor) : Prop :=
  (t.memoized d.name).isSome ∨
    (d.name ∈ s.inProgress ∧ ∀ n ∈ s.loopOf d.name, t.Recorded n)

/-- Whatever was finished between `s` and `t`, what it refers to is taken care of. -/
def Closed (catalog : Catalog) (s t : Survey) : Prop :=
  ∀ w, catalog.get? w.name = some w → (t.memoized w.name).isSome → s.memoized w.name = none →
    ∀ u, Refers catalog w u → Covered s t u

theorem Covered.extend {s t u : Survey} (h : Extends t u) {d : Descriptor}
    (hd : Covered s t d) : Covered s u d :=
  hd.imp h.memoized_isSome fun ⟨hs, hl⟩ => ⟨hs, fun n hn => h.recorded (hl n hn)⟩

theorem Covered.of_stack {s s' t : Survey} (h : s'.inProgress = s.inProgress) {d : Descriptor}
    (hd : Covered s' t d) : Covered s t d := by
  rwa [Covered, h, loopOf_congr h] at hd

/-- What one inquiry about a type of the catalog does to the survey, and what it answers. -/
structure Surveyed (catalog : Catalog) (q : Inquiry) (k : Classification) (t : Survey) : Prop where
  /-- A loop recorded through a type in progress comes from a way to a type in progress, whose
  loop goes through it. -/
  recorded : ∀ n ∈ q.survey.inProgress, t.Recorded n →
    q.survey.Recorded n ∨ ∃ z, Reaches catalog q.survey q.descriptor z ∧ n ∈ q.survey.loopOf z
  covered : Covered q.survey t q.descriptor
  closed : Closed catalog q.survey t
  /-- A type whose classification starts here is refused exactly if there is a way back. -/
  refused : q.Fresh → ((∃ reason, k = .unsupported reason) ↔ WayBack catalog q.survey q.descriptor)

theorem surveyed_of_memoized {q : Inquiry} {k : Classification}
    (h : q.survey.memoized q.descriptor.name = some k) : Surveyed catalog q k q.survey where
  recorded _ _ hr := .inl hr
  covered := .inl (by simp [h])
  closed w _ hw hw' := by simp [hw'] at hw
  refused hq := by simp [hq.1] at h

theorem surveyed_of_inProgress {q : Inquiry} (h : q.descriptor.name ∈ q.survey.inProgress) :
    Surveyed catalog q (q.survey.closeLoop q.descriptor.name).1
      (q.survey.closeLoop q.descriptor.name).2 where
  recorded n _ hr := by
    refine ((recorded_closeLoop _ _ _).1 hr).imp id fun hn => ?_
    exact ⟨_, .here h, hn⟩
  covered := .inr ⟨h, fun n hn => (recorded_closeLoop _ _ _).2 (.inr hn)⟩
  closed w _ hw hw' := by
    have same : (q.survey.closeLoop q.descriptor.name).2.memoized w.name =
        q.survey.memoized w.name := rfl
    simp [same, hw'] at hw
  refused hq := absurd h hq.2

/-! ## A type is expanded -/

section Expanded

variable {f : Classifier} {q : Inquiry} {t : Survey}

/-- What holds of all the inquiries that are made while the type of `q` is expanded, which ends in
the survey `t`. -/
structure Expansion (catalog : Catalog) (f : Classifier) (q : Inquiry) (t : Survey) : Prop where
  coherent : q.survey.Coherent
  fresh : q.Fresh
  known : catalog.get? q.descriptor.name = some q.descriptor
  trail : Trail f (q.survey.enter q.descriptor.name) (q.nested catalog f) t
  ends_coherent : t.Coherent
  ends_extends : Extends (q.survey.enter q.descriptor.name) t
  /-- Each type referred to is asked for. -/
  asked : ∀ e, Refers catalog q.descriptor e → ∃ p ∈ q.nested catalog f, p.descriptor = e
  before : ∀ p ∈ q.nested catalog f, Extends (q.survey.enter q.descriptor.name) p.survey
  after : ∀ p ∈ q.nested catalog f, Extends (p.after f) t
  step : ∀ p ∈ q.nested catalog f, Extends p.survey (p.after f)
  surveyed : ∀ p ∈ q.nested catalog f, Surveyed catalog p (p.answer f) (p.after f)

/-- A loop recorded while a type is expanded comes from a way out of a type it refers to. -/
theorem Expansion.recorded (h : Expansion catalog f q t) :
    ∀ n ∈ (q.survey.enter q.descriptor.name).inProgress, t.Recorded n → q.survey.Recorded n ∨
      ∃ e z, Refers catalog q.descriptor e ∧
        Reaches catalog (q.survey.enter q.descriptor.name) e z ∧
        n ∈ (q.survey.enter q.descriptor.name).loopOf z := by
  refine (h.trail.keeps (P := fun u => ∀ n ∈ (q.survey.enter q.descriptor.name).inProgress,
    u.Recorded n → q.survey.Recorded n ∨ ∃ e z, Refers catalog q.descriptor e ∧
      Reaches catalog (q.survey.enter q.descriptor.name) e z ∧
      n ∈ (q.survey.enter q.descriptor.name).loopOf z) (fun n _ hn => .inl hn) ?_).1
  intro p hp ih n hn hr
  have stack := (h.before p hp).inProgress
  rcases (h.surveyed p hp).recorded n (stack ▸ hn) hr with hr | ⟨z, hz, hnz⟩
  · exact ih n hn hr
  · refine .inr ⟨p.descriptor, z, refers_of_mem_inquiries hp, hz.of_extends (h.before p hp), ?_⟩
    rwa [loopOf_congr stack] at hnz

/-- Whatever is finished while a type is expanded, what it refers to is taken care of. -/
theorem Expansion.closed (h : Expansion catalog f q t) :
    Closed catalog (q.survey.enter q.descriptor.name) t := by
  refine (h.trail.keeps (P := Closed catalog (q.survey.enter q.descriptor.name)) ?_ ?_).1
  · intro w _ hw hw'
    simp [hw'] at hw
  · intro p hp ih w hget hw hw' u hu
    -- Either it was finished before this inquiry, or by it.
    cases hm : p.survey.memoized w.name with
    | some k => exact (ih w hget (by simp [hm]) hw' u hu).extend (h.step p hp)
    | none =>
      exact ((h.surveyed p hp).closed w hget hw hm u hu).of_stack (h.before p hp).inProgress

/-- What the type refers to is taken care of when its expansion ends. -/
theorem Expansion.covered (h : Expansion catalog f q t) {e : Descriptor}
    (he : Refers catalog q.descriptor e) :
    Covered (q.survey.enter q.descriptor.name) t e := by
  obtain ⟨p, hp, rfl⟩ := h.asked e he
  exact ((h.surveyed p hp).covered.of_stack (h.before p hp).inProgress).extend (h.after p hp)

/-- A way through unknown types, out of a type that is taken care of, ends in a recorded loop:
each type on it has been finished meanwhile, so the next one is taken care of too. -/
theorem Expansion.recorded_of_reaches (h : Expansion catalog f q t)
    (onward : ∀ {d e}, catalog.get? d.name = some d → Refers catalog d e →
      catalog.get? e.name = some e) {d : Descriptor} {z : String}
    (hr : Reaches catalog (q.survey.enter q.descriptor.name) d z)
    (hd : catalog.get? d.name = some d)
    (hc : Covered (q.survey.enter q.descriptor.name) t d) :
    ∀ n ∈ (q.survey.enter q.descriptor.name).loopOf z, t.Recorded n := by
  -- On the way; what carries it is that its next type is taken care of.
  induction hr with
  | here hstack =>
    rcases hc with hc | hc
    · rw [h.ends_coherent.stack_open _ (h.ends_extends.inProgress ▸ hstack)] at hc
      cases hc
    · exact hc.2
  | @onward d e z hm hn href _ ih =>
    have finished : (t.memoized d.name).isSome := hc.resolve_right fun hc => hn hc.1
    exact ih (onward hd href) (h.closed d hd finished hm e href)

/-- A loop through a type is recorded while it is expanded exactly if there is a way back. -/
theorem Expansion.recorded_iff_wayBack (h : Expansion catalog f q t)
    (onward : ∀ {d e}, catalog.get? d.name = some d → Refers catalog d e →
      catalog.get? e.name = some e) :
    t.Recorded q.descriptor.name ↔ WayBack catalog q.survey q.descriptor := by
  constructor
  · intro hr
    rcases h.recorded _ List.mem_cons_self hr with hr | ⟨e, z, he, hz, -⟩
    · exact absurd (h.coherent.loops_open _ hr) h.fresh.2
    · exact ⟨e, z, he, hz⟩
  · rintro ⟨e, z, he, hz⟩
    refine h.recorded_of_reaches onward hz (onward h.known he) (h.covered he) _ ?_
    by_cases hzd : z = q.descriptor.name
    · rw [hzd]
      exact mem_loopOf_enter_self.2 rfl
    · exact (mem_loopOf_enter hzd).2 (.inl rfl)

/-- What is taken care of with a type still in progress is so after the type is left. -/
theorem Covered.leave {s t : Survey} {name : String} (hn : name ∉ s.inProgress) {d : Descriptor}
    (hd : Covered (s.enter name) t d) (found : Classification) :
    Covered s (t.leave name found).2 d := by
  by_cases hname : d.name = name
  · exact .inl (by rw [memoized_leave, if_pos hname]; rfl)
  · refine hd.imp (fun hm => by rwa [memoized_leave, if_neg hname]) fun ⟨hs, hl⟩ => ?_
    have hs' : d.name ∈ s.inProgress := (List.mem_cons.1 hs).resolve_left hname
    refine ⟨hs', fun n hmem => (recorded_leave _ _ _ _).2 ⟨?_, ?_⟩⟩
    · exact fun h => hn (h ▸ loopOf_subset hs' hmem)
    · exact hl n ((mem_loopOf_enter hname).2 (.inr hmem))

/-- What a type is found to be when it is left is a refusal if a loop through it is recorded. -/
theorem refused_leave_iff (t : Survey) (name : String) {found : Classification}
    (hf : found.isSupported) :
    (∃ reason, (t.leave name found).1 = .unsupported reason) ↔ t.Recorded name := by
  simp only [leave, Recorded]
  cases t.loops.lookup name with
  | some path => exact ⟨fun _ => rfl, fun _ => ⟨_, rfl⟩⟩
  | none => cases found <;> simp_all [Classification.isSupported]

/-- An inquiry whose type is expanded does what one inquiry does. -/
theorem Expansion.surveyed_leave (h : Expansion catalog f q t)
    (onward : ∀ {d e}, catalog.get? d.name = some d → Refers catalog d e →
      catalog.get? e.name = some e) {found : Classification} (hf : found.isSupported) :
    Surveyed catalog q (t.leave q.descriptor.name found).1
      (t.leave q.descriptor.name found).2 where
  recorded n hn hr := by
    obtain ⟨hne, hr⟩ := (recorded_leave _ _ _ _).1 hr
    refine (h.recorded n (List.mem_cons_of_mem _ hn) hr).imp id ?_
    rintro ⟨e, z, he, hz, hnz⟩
    -- The way does not end at the type itself, since `n` is another type on the loop.
    have hzd : z ≠ q.descriptor.name := by
      rintro rfl
      exact hne (mem_loopOf_enter_self.1 hnz)
    exact ⟨z, .onward h.fresh.1 h.fresh.2 he (hz.of_enter hzd),
      ((mem_loopOf_enter hzd).1 hnz).resolve_left hne⟩
  covered := .inl (by rw [memoized_leave, if_pos rfl]; rfl)
  closed w hget hw hw' u hu := by
    refine Covered.leave h.fresh.2 ?_ found
    by_cases hname : w.name = q.descriptor.name
    · rw [hname, h.known, Option.some_inj] at hget
      exact h.covered (hget ▸ hu)
    · rw [memoized_leave, if_neg hname] at hw
      exact h.closed w hget hw hw' u hu
  refused _ := (refused_leave_iff t _ hf).trans (h.recorded_iff_wayBack onward)

end Expanded

end Survey

/-! ## Catalogs of products -/

namespace AllProducts

open Survey

variable {ds : List Descriptor}

theorem shape_of_mem (hds : AllProducts ds) {d : Descriptor} (h : d ∈ ds) :
    ∃ name content, d = .product name content ∧
      d.shape .topLevel = .product content.style content.members := by
  obtain ⟨name, content, rfl, hprim, hcomp, hpos, hmax, -⟩ := hds.product d h
  have hne : content.members ≠ [] := by
    intro hnil
    simp [hnil] at hpos
  refine ⟨name, content, rfl, ?_⟩
  have hname : (Descriptor.product name content).name = name := rfl
  simp [Descriptor.shape, hname, hprim, productShape, hcomp, hne, hmax]

theorem get?_of_refers (hds : AllProducts ds) {d e : Descriptor}
    (h : (Catalog.ofList ds).get? d.name = some d) (hr : Refers (.ofList ds) d e) :
    (Catalog.ofList ds).get? e.name = some e := by
  cases hr with
  | member _ hm =>
    have he := (Catalog.memberType?_eq_some_iff.1 hm).1
    rwa [Catalog.get?_ofList_name he]
  | variant _ =>
    rcases Catalog.declared_or_primitive_of_get? h with hd | ⟨kind, hk⟩
    · obtain ⟨_, _, hp, -⟩ := hds.shape_of_mem hd
      cases hp
    · cases hk

/-- What is asked for while a type of the catalog is expanded is a type of the catalog that stands
by itself, and each type referred to is asked for; nothing is refused but for a loop. -/
theorem expanded (hds : AllProducts ds) {f : Classifier} {q : Inquiry}
    (hst : q.standing = .topLevel)
    (h : (Catalog.ofList ds).get? q.descriptor.name = some q.descriptor) :
    (∀ p ∈ q.nested (.ofList ds) f, p.standing = .topLevel) ∧
      (∀ e, Refers (.ofList ds) q.descriptor e → ∃ p ∈ q.nested (.ofList ds) f, p.descriptor = e) ∧
      (q.expanded (.ofList ds) f).1.isSupported := by
  rcases Catalog.declared_or_primitive_of_get? h with hd | ⟨kind, hk⟩
  · obtain ⟨name, content, hp, hshape⟩ := hds.shape_of_mem hd
    simp only [Inquiry.nested, Inquiry.expanded, hst, hshape, inquiries, expand]
    refine ⟨fun p hp => (mem_memberInquiries hp).1, fun e he => ?_, rfl⟩
    rw [hp] at he
    cases he with
    | member hm hmt => exact exists_mem_memberInquiries hm hmt _
  · have hshape : q.descriptor.shape q.standing = .primitive kind := by
      rw [hk]
      simp [Descriptor.shape, Descriptor.name, Primitive.ofTypeName?_typeName]
    simp only [Inquiry.nested, Inquiry.expanded, hshape, inquiries, expand]
    refine ⟨by simp, fun e he => ?_, rfl⟩
    rw [hk] at he
    cases he

/-- What one inquiry does, for every type of the catalog and every survey in which it is ready. -/
theorem surveyed (hds : AllProducts ds) {depth : Nat} {q : Inquiry}
    (hready : q.Ready (.ofList ds) depth) (hst : q.standing = .topLevel)
    (hknown : (Catalog.ofList ds).get? q.descriptor.name = some q.descriptor) :
    Surveyed (.ofList ds) q (q.answer (classifyWithin (.ofList ds) depth))
      (q.after (classifyWithin (.ofList ds) depth)) := by
  refine classifyWithin_induction
    (P := fun _ q => q.standing = .topLevel ∧
      (Catalog.ofList ds).get? q.descriptor.name = some q.descriptor)
    (Q := Surveyed (.ofList ds)) ?finished ?closed ?expanded depth q hready ⟨hst, hknown⟩
  case finished => exact fun _ q k _ _ hm => surveyed_of_memoized hm
  case closed => exact fun _ q _ _ hs => surveyed_of_inProgress hs
  case expanded =>
    rintro depth q ⟨hst, hknown⟩ hready hfresh hsub
    obtain ⟨⟨hco, hext⟩, hnested⟩ := nested_of_ready hready hfresh
    obtain ⟨hstand, hasked, hsupported⟩ :=
      hds.expanded (f := classifyWithin (.ofList ds) depth) hst hknown
    have expansion : Expansion (.ofList ds) (classifyWithin (.ofList ds) depth) q
        (q.expanded (.ofList ds) (classifyWithin (.ofList ds) depth)).2 :=
      { coherent := hready.coherent
        fresh := hfresh
        known := hknown
        trail := q.trail _ _
        ends_coherent := hco
        ends_extends := hext
        asked := hasked
        before := fun p hp => (hnested p hp).2.1
        after := fun p hp => (hnested p hp).2.2
        step := fun p hp => (classifyWithin_settled _ p (hnested p hp).1).extends_survey
        surveyed := fun p hp => hsub p hp ⟨hstand p hp,
          hds.get?_of_refers hknown (refers_of_mem_inquiries hp)⟩ }
    simp only [Inquiry.answer, Inquiry.after, classifyWithin_of_fresh _ _ hfresh]
    exact expansion.surveyed_leave hds.get?_of_refers hsupported

/-- Whatever is asked for in the course of calls by name is a type of the catalog by itself. -/
theorem asked (hds : AllProducts ds) {names : List String} {depth : Nat} {q : Inquiry}
    (h : Asked (.ofList ds) (names.map .name) depth q) :
    q.standing = .topLevel ∧
      (Catalog.ofList ds).get? q.descriptor.name = some q.descriptor := by
  induction h with
  | @call before c after q hcalls hq =>
    have hc : c ∈ names.map Call.name := by simp [hcalls]
    obtain ⟨n, -, rfl⟩ := List.mem_map.1 hc
    obtain ⟨d, hd, rfl⟩ := Option.map_eq_some_iff.1 hq
    exact ⟨rfl, by rwa [Catalog.get?_ofList_name hd]⟩
  | nested _ _ hp ih =>
    exact ⟨(hds.expanded ih.1 ih.2).1 _ hp,
      hds.get?_of_refers ih.2 (refers_of_mem_inquiries hp)⟩

end AllProducts

namespace Survey

/-- In the course of calls, the classification of a type starts in the survey `s`, which knows
nothing of the type. -/
def StartsIn (catalog : Catalog) (calls : List Call) (d : Descriptor) (s : Survey) : Prop :=
  ∃ depth q, Asked catalog calls depth q ∧ q.Fresh ∧ q.descriptor = d ∧ q.survey = s

/-- In a catalog of products, after any calls by name, the classification of every finished type
has started somewhere, and the type is refused exactly if there was a way back at that moment. -/
theorem refused_iff_wayBack {ds : List Descriptor} (hds : AllProducts ds) (names : List String)
    {d : Descriptor} (hd : d ∈ ds) {k : Classification}
    (hk : (history (.ofList ds) (names.map .name)).memoized d.name = some k) :
    (∃ s, StartsIn (.ofList ds) (names.map .name) d s) ∧
      ∀ s, StartsIn (.ofList ds) (names.map .name) d s →
        ((∃ reason, k = .unsupported reason) ↔ WayBack (.ofList ds) s d) := by
  constructor
  · obtain ⟨depth, q, hq, hfresh, hname⟩ := exists_asked_of_memoized (by rw [hk]; rfl)
    refine ⟨q.survey, depth, q, hq, hfresh, ?_, rfl⟩
    have hget := (hds.asked hq).2
    rw [hname, Catalog.get?_ofList_of_mem hds.distinct hd, Option.some_inj] at hget
    exact hget.symm
  · rintro s ⟨depth, q, hq, hfresh, rfl, rfl⟩
    have answered := hq.answer_memoized hfresh
    rw [hk, Option.some_inj] at answered
    rw [answered]
    exact (hds.surveyed hq.ready (hds.asked hq).1 (hds.asked hq).2).refused hfresh

/-! ## Two loops that share a type -/

/-- A product with a companion, with members of given names and types. -/
def plainProduct (name : String) (members : List (String × String)) : Descriptor :=
  .product name ⟨members.map fun m => ⟨m.1, m.2, false⟩, .named, true, false⟩

/-- The loops `A`, `B`, `A` and `A`, `C`, `B`, `A`. -/
def sharedLoops : List Descriptor :=
  [plainProduct "A" [("b", "B"), ("c", "C")], plainProduct "B" [("a", "A")],
    plainProduct "C" [("b", "B")]]

theorem allProducts_sharedLoops : AllProducts sharedLoops where
  distinct := by decide
  product d hd := by
    simp only [sharedLoops, List.mem_cons, List.not_mem_nil, or_false] at hd
    rcases hd with rfl | rfl | rfl <;>
      exact ⟨_, _, rfl, by decide, rfl, by decide, by decide, rfl⟩

/-- What `C` is found to be if `A` is classified first. The way from `C` to `A` goes through `B`,
which is finished by then. -/
def missedLoop : Classification :=
  .product .named [⟨"b", "B", false, none, .unsupported (.circular ["A", "B", "A"])⟩]

theorem memoized_sharedLoops :
    (history (.ofList sharedLoops) (["A"].map .name)).memoized "C" = some missedLoop := by
  rfl

/-- The condition decides for `C` of the shared loops, which is not refused. -/
theorem refused_iff_wayBack_sharedLoops :
    (history (.ofList sharedLoops) (["A"].map .name)).memoized "C" = some missedLoop ∧
      (∃ s, StartsIn (.ofList sharedLoops) (["A"].map .name) (plainProduct "C" [("b", "B")]) s) ∧
      ∀ s, StartsIn (.ofList sharedLoops) (["A"].map .name) (plainProduct "C" [("b", "B")]) s →
        ((∃ reason, missedLoop = .unsupported reason) ↔
          WayBack (.ofList sharedLoops) s (plainProduct "C" [("b", "B")])) :=
  ⟨memoized_sharedLoops, refused_iff_wayBack allProducts_sharedLoops ["A"]
    (by simp [sharedLoops]) memoized_sharedLoops⟩

/-- A type on a loop need not be refused: `C` is on a loop, and is a product. -/
theorem exists_type_on_loop_supported :
    AllProducts sharedLoops ∧ plainProduct "C" [("b", "B")] ∈ sharedLoops ∧
      Relation.TransGen (Refers (.ofList sharedLoops)) (plainProduct "C" [("b", "B")])
        (plainProduct "C" [("b", "B")]) ∧
      (history (.ofList sharedLoops) (["A"].map .name)).memoized "C" = some missedLoop ∧
      ¬ ∃ reason, missedLoop = .unsupported reason := by
  refine ⟨allProducts_sharedLoops, by simp [sharedLoops], ?_, memoized_sharedLoops, ?_⟩
  · have hCB : Refers (.ofList sharedLoops) (plainProduct "C" [("b", "B")])
        (plainProduct "B" [("a", "A")]) := .member (m := ⟨"b", "B", false⟩) (by decide) rfl
    have hBA : Refers (.ofList sharedLoops) (plainProduct "B" [("a", "A")])
        (plainProduct "A" [("b", "B"), ("c", "C")]) :=
      .member (m := ⟨"a", "A", false⟩) (by decide) rfl
    have hAC : Refers (.ofList sharedLoops) (plainProduct "A" [("b", "B"), ("c", "C")])
        (plainProduct "C" [("b", "B")]) := .member (m := ⟨"c", "C", false⟩) (by decide) rfl
    exact .head hCB (.head hBA (.single hAC))
  · rintro ⟨reason, h⟩
    cases h

end Survey

end EditableFields
