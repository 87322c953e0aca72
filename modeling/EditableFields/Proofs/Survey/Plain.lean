import EditableFields.Proofs.Survey.History

/-!
# Surveys: agreement with direct recursion

Direct recursion on descriptors classifies a type without a memory and without looking for loops
(`plain`); it ends for a type from which no loop of references can be reached. For such a type a
survey finds just what direct recursion finds, whatever was classified before, loops elsewhere in
the catalog included (`classifyName_eq_plain`).

What carries over from call to call is that each finished type of this kind has been found to be
what direct recursion finds (`PlainMemo`). Within a call, everything in progress refers to the type
that is asked for, so a type without loops never meets itself, and no loop is recorded for it.
-/

namespace EditableFields

/-! ## Direct recursion -/

/-- A member with its type classified by `classify`, where that ends. A value wrapper stands for
its primitive, and a name that means nothing is refused. -/
def plainMember (catalog : Catalog) (classify : Descriptor → Option Classification) (m : Member) :
    Option (ResolvedMember Classification) :=
  match catalog.get? m.type with
  | none => some ⟨m.name, m.type, m.nullable, none, .unsupported (.unknownType m.type)⟩
  | some d =>
    match d.valueWrapper? with
    | some w => some ⟨m.name, m.type, m.nullable, some w, .primitive w.primitive⟩
    | none => (classify d).map fun k => ⟨m.name, m.type, m.nullable, none, k⟩

/-- Members in order. -/
def plainMembers (catalog : Catalog) (classify : Descriptor → Option Classification) :
    List Member → Option (List (ResolvedMember Classification))
  | [] => some []
  | m :: ms =>
    (plainMember catalog classify m).bind fun r =>
      (plainMembers catalog classify ms).map (r :: ·)

/-- Variants in order, each a product or a singleton, up to the first that is neither. -/
def plainVariants (classify : Descriptor → Option Classification) (owner : String) :
    List Descriptor → Option (Except Refusal (List (ResolvedVariant Classification)))
  | [] => some (.ok [])
  | v :: vs =>
    (classify v).bind fun k =>
      match k with
      | .product .. | .singleton _ =>
        (plainVariants classify owner vs).map (·.map (⟨v.simpleName, v.name, k⟩ :: ·))
      | .unsupported reason => some (.error (.variantRefused v.simpleName owner reason))
      | other => some (.error (.variantKind v.simpleName owner other.kindName))

/-- What a shape is, with the types that it holds classified by `classify`. -/
def plainShape (catalog : Catalog) (classify : Standing → Descriptor → Option Classification)
    (name : String) : Shape → Option Classification
  | .primitive kind => some (.primitive kind)
  | .enumeration entries => some (.enumeration entries)
  | .singleton valueless => some (.singleton valueless)
  | .product style members =>
    (plainMembers catalog (classify .topLevel) members).map (.product style)
  | .sum variants =>
    (plainVariants (classify .variant) name variants).map fun
      | .ok rs => .sum rs
      | .error reason => .unsupported reason
  | .external factory => some (.external factory)
  | .unsupported reason => some (.unsupported reason)

/-- Classifies a descriptor by direct recursion, without a memory and without looking for loops.
There is no result if types are nested in one another deeper than `depth`. -/
def plain (catalog : Catalog) : Nat → Standing → Descriptor → Option Classification
  | 0, _, _ => none
  | depth + 1, standing, d => plainShape catalog (plain catalog depth) d.name (d.shape standing)

/-- What direct recursion finds once it is deep enough. -/
def Evaluates (catalog : Catalog) (standing : Standing) (d : Descriptor) (k : Classification) :
    Prop :=
  ∃ depth, ∀ n ≥ depth, plain catalog n standing d = some k

/-- No loop of references can be reached from a type. -/
def LoopFree (catalog : Catalog) (d : Descriptor) : Prop :=
  ∀ e, Relation.ReflTransGen (Refers catalog) d e → ¬ Relation.TransGen (Refers catalog) e e

section

variable {catalog : Catalog}

theorem LoopFree.of_refers {d e : Descriptor} (h : LoopFree catalog d)
    (hr : Refers catalog d e) : LoopFree catalog e :=
  fun e' he' => h e' (.head hr he')

/-- A type that refers only to types without loops has none itself. -/
theorem loopFree_of_forall_refers {d : Descriptor}
    (h : ∀ e, Refers catalog d e → LoopFree catalog e) : LoopFree catalog d := by
  intro e he hloop
  rcases Relation.ReflTransGen.cases_head he with rfl | ⟨e', hd, he'⟩
  · obtain ⟨e', hd, he'⟩ := Relation.TransGen.head'_iff.1 hloop
    exact h e' hd e' .refl (.tail' he' hd)
  · exact h e' hd e he' hloop

/-! ## More depth keeps the result -/

variable {g g' : Standing → Descriptor → Option Classification}

theorem plainMember_mono (hg : ∀ d k, g .topLevel d = some k → g' .topLevel d = some k)
    {m : Member} {r : ResolvedMember Classification}
    (h : plainMember catalog (g .topLevel) m = some r) :
    plainMember catalog (g' .topLevel) m = some r := by
  unfold plainMember at h ⊢
  split at h
  · exact h
  · split at h
    · exact h
    · obtain ⟨k, hk, rfl⟩ := Option.map_eq_some_iff.1 h
      simp [hg _ _ hk]

theorem plainMembers_mono (hg : ∀ d k, g .topLevel d = some k → g' .topLevel d = some k)
    {ms : List Member} {rs : List (ResolvedMember Classification)}
    (h : plainMembers catalog (g .topLevel) ms = some rs) :
    plainMembers catalog (g' .topLevel) ms = some rs := by
  induction ms generalizing rs with
  | nil => exact h
  | cons m ms ih =>
    obtain ⟨r, hr, hrest⟩ := Option.bind_eq_some_iff.1 h
    obtain ⟨rs', hrs, rfl⟩ := Option.map_eq_some_iff.1 hrest
    simp [plainMembers, plainMember_mono hg hr, ih hrs]

theorem plainVariants_mono (hg : ∀ d k, g .variant d = some k → g' .variant d = some k)
    {owner : String} {vs : List Descriptor}
    {rs : Except Refusal (List (ResolvedVariant Classification))}
    (h : plainVariants (g .variant) owner vs = some rs) :
    plainVariants (g' .variant) owner vs = some rs := by
  induction vs generalizing rs with
  | nil => exact h
  | cons v vs ih =>
    obtain ⟨k, hk, hrest⟩ := Option.bind_eq_some_iff.1 h
    simp only [plainVariants, hg _ _ hk, Option.bind_some]
    cases k with
    | product | singleton =>
      obtain ⟨rs', hrs, rfl⟩ := Option.map_eq_some_iff.1 hrest
      simp [ih hrs]
    | _ => exact hrest

theorem plainShape_mono (hg : ∀ st d k, g st d = some k → g' st d = some k) {name : String}
    {shape : Shape} {k : Classification} (h : plainShape catalog g name shape = some k) :
    plainShape catalog g' name shape = some k := by
  cases shape with
  | product style members =>
    obtain ⟨rs, hrs, rfl⟩ := Option.map_eq_some_iff.1 h
    simp [plainShape, plainMembers_mono (hg .topLevel) hrs]
  | sum variants =>
    obtain ⟨rs, hrs, rfl⟩ := Option.map_eq_some_iff.1 h
    simp [plainShape, plainVariants_mono (hg .variant) hrs]
  | primitive | enumeration | singleton | external | unsupported => exact h

theorem plain_succ {n : Nat} {standing : Standing} {d : Descriptor} {k : Classification}
    (h : plain catalog n standing d = some k) : plain catalog (n + 1) standing d = some k := by
  induction n generalizing standing d k with
  | zero => simp [plain] at h
  | succ n ih => exact plainShape_mono (fun st d k => ih) h

theorem plain_mono {n m : Nat} (hnm : n ≤ m) {standing : Standing} {d : Descriptor}
    {k : Classification} (h : plain catalog n standing d = some k) :
    plain catalog m standing d = some k := by
  induction hnm with
  | refl => exact h
  | step _ ih => exact plain_succ ih

theorem evaluates_iff {standing : Standing} {d : Descriptor} {k : Classification} :
    Evaluates catalog standing d k ↔ ∃ n, plain catalog n standing d = some k :=
  ⟨fun ⟨depth, h⟩ => ⟨depth, h depth (Nat.le_refl _)⟩,
    fun ⟨n, h⟩ => ⟨n, fun _ hm => plain_mono hm h⟩⟩

theorem Evaluates.unique {standing : Standing} {d : Descriptor} {k k' : Classification}
    (h : Evaluates catalog standing d k) (h' : Evaluates catalog standing d k') : k = k' := by
  obtain ⟨n, hn⟩ := h
  obtain ⟨m, hm⟩ := h'
  have heq := (hn (max n m) (Nat.le_max_left _ _)).symm.trans (hm _ (Nat.le_max_right _ _))
  exact Option.some_inj.1 heq

/-- A type that is named like a primitive is that primitive for direct recursion too. -/
theorem evaluates_primitive {standing : Standing} {d : Descriptor} {kind : Primitive}
    (h : Primitive.ofTypeName? d.name = some kind) :
    Evaluates catalog standing d (.primitive kind) := by
  refine evaluates_iff.2 ⟨1, ?_⟩
  simp [plain, Descriptor.shape, h, plainShape]

end

namespace Survey

variable {catalog : Catalog} {f : Classifier}
  {g : Standing → Descriptor → Option Classification}

/-! ## One expansion -/

theorem plainMembers_eq {ms : List Member} {s : Survey}
    (h : ∀ q ∈ memberInquiries catalog f ms s, g q.standing q.descriptor = some (q.answer f)) :
    plainMembers catalog (g .topLevel) ms = some (resolveMembers catalog f ms s).1 := by
  induction ms generalizing s with
  | nil => rfl
  | cons m ms ih =>
    simp only [resolveMembers, plainMembers]
    simp only [memberInquiries] at h
    cases hm : catalog.memberType? m with
    | some e =>
      obtain ⟨hget, hw⟩ := Catalog.memberType?_eq_some_iff.1 hm
      simp only [hm, List.forall_mem_cons] at h
      have first : plainMember catalog (g .topLevel) m =
          some ⟨m.name, m.type, m.nullable, none, (f .topLevel e s).1⟩ := by
        simp [plainMember, hget, hw, h.1, Inquiry.answer]
      simp [first, ih h.2, resolveMember_of_memberType? hm]
    | none =>
      simp only [hm] at h
      have first : plainMember catalog (g .topLevel) m = some (settledMember catalog m) := by
        unfold plainMember settledMember
        cases hget : catalog.get? m.type with
        | none => rfl
        | some e =>
          cases hw : e.valueWrapper? with
          | none => simp [Catalog.memberType?, hget, hw] at hm
          | some w => simp [hw]
      simp [first, ih h, resolveMember_of_settled hm]

theorem plainVariants_eq {owner : String} {vs : List Descriptor} {s : Survey}
    (h : ∀ q ∈ variantInquiries f owner vs s, g q.standing q.descriptor = some (q.answer f)) :
    plainVariants (g .variant) owner vs = some (resolveVariants f owner vs s).1 := by
  induction vs generalizing s with
  | nil => rfl
  | cons v vs ih =>
    -- Both stop at the first unfit variant, so agreement is only needed up to there.
    simp only [variantInquiries, List.forall_mem_cons] at h
    have first : g .variant v = some (f .variant v s).1 := h.1
    simp only [plainVariants, resolveVariants, first, Option.bind_some]
    cases hk : (f .variant v s).1 with
    | product | singleton =>
      have rest := ih (by simpa [hk, variantRefusal?] using h.2)
      rcases hr : resolveVariants f owner vs (f .variant v s).2 with ⟨_ | _, t⟩ <;>
        simp [rest, hr, variantRefusal?, Except.map]
    | _ => simp [variantRefusal?]

/-- If direct recursion agrees with every answer that an expansion is made of, it agrees with the
expansion. -/
theorem plainShape_eq {name : String} {shape : Shape} {s : Survey}
    (h : ∀ q ∈ inquiries catalog f name shape s,
      g q.standing q.descriptor = some (q.answer f)) :
    plainShape catalog g name shape = some (expand catalog f name shape s).1 := by
  cases shape with
  | product style members => simp [plainShape, expand, plainMembers_eq h]
  | sum variants =>
    simp only [plainShape, expand, plainVariants_eq h, Option.map_some]
    rcases resolveVariants f name variants s with ⟨_ | _, t⟩ <;> rfl
  | primitive | enumeration | singleton | external | unsupported => rfl

/-- Answers that direct recursion agrees with are all found within one depth. -/
theorem exists_common_depth {qs : List Inquiry}
    (h : ∀ q ∈ qs, Evaluates catalog q.standing q.descriptor (q.answer f)) :
    ∃ n, ∀ q ∈ qs, plain catalog n q.standing q.descriptor = some (q.answer f) := by
  induction qs with
  | nil => exact ⟨0, by simp⟩
  | cons q qs ih =>
    obtain ⟨n, hn⟩ := ih fun p hp => h p (by simp [hp])
    obtain ⟨m, hm⟩ := h q (by simp)
    refine ⟨max m n, fun p hp => ?_⟩
    rcases List.mem_cons.1 hp with rfl | hp
    · exact hm _ (Nat.le_max_left _ _)
    · exact plain_mono (Nat.le_max_right _ _) (hn p hp)

theorem evaluates_expanded {q : Inquiry}
    (h : ∀ p ∈ q.nested catalog f, Evaluates catalog p.standing p.descriptor (p.answer f)) :
    Evaluates catalog q.standing q.descriptor (q.expanded catalog f).1 := by
  obtain ⟨n, hn⟩ := exists_common_depth h
  exact evaluates_iff.2 ⟨n + 1, plainShape_eq hn⟩

/-! ## One inquiry -/

/-- Each finished type without loops was found to be what direct recursion finds. -/
def PlainMemo (catalog : Catalog) (s : Survey) : Prop :=
  ∀ standing e, Placed catalog standing e → LoopFree catalog e →
    ∀ k, s.memoized e.name = some k → Evaluates catalog standing e k

/-- Everything in progress refers to a type, over any number of others. -/
def StackRefers (catalog : Catalog) (s : Survey) (d : Descriptor) : Prop :=
  ∀ n ∈ s.inProgress, ∃ standing e, Placed catalog standing e ∧ e.name = n ∧
    Primitive.ofTypeName? n = none ∧ Relation.TransGen (Refers catalog) e d

theorem StackRefers.of_nested {q p : Inquiry} (hq : Placed catalog q.standing q.descriptor)
    (h : StackRefers catalog q.survey q.descriptor) (hp : p ∈ q.nested catalog f)
    (hext : Extends (q.survey.enter q.descriptor.name) p.survey) :
    StackRefers catalog p.survey p.descriptor := by
  have href : Refers catalog q.descriptor p.descriptor := refers_of_mem_inquiries hp
  intro n hn
  rw [hext.inProgress] at hn
  rcases List.mem_cons.1 hn with rfl | hn
  · exact ⟨_, _, hq, rfl, not_primitive_of_mem_inquiries hp, .single href⟩
  · obtain ⟨st, e, he, hname, hprim, htrans⟩ := h n hn
    exact ⟨st, e, he, hname, hprim, htrans.tail href⟩

/-- What can be relied on when a type is asked for. -/
structure PlainBefore (catalog : Catalog) (q : Inquiry) : Prop where
  placed : Placed catalog q.standing q.descriptor
  memo : PlainMemo catalog q.survey
  stack : StackRefers catalog q.survey q.descriptor

/-- What the answer is relied on for: a type without loops is what direct recursion finds, and no
loop is recorded for it. -/
structure PlainAfter (catalog : Catalog) (q : Inquiry) (k : Classification) (t : Survey) :
    Prop where
  memo : PlainMemo catalog t
  evaluates : LoopFree catalog q.descriptor →
    Evaluates catalog q.standing q.descriptor k
  unrecorded : LoopFree catalog q.descriptor → ∀ n, t.Recorded n → q.survey.Recorded n

/-- The expansion of a type leaves a memory that agrees with direct recursion, and if the type has
no loops, its parts agree and no loop is recorded on the way. -/
theorem plainAfter_nested {depth : Nat} {q : Inquiry} (h : PlainBefore catalog q)
    (hready : q.Ready catalog (depth + 1)) (hfresh : q.Fresh)
    (hsub : ∀ p ∈ q.nested catalog (classifyWithin catalog depth), PlainBefore catalog p →
      PlainAfter catalog p (p.answer (classifyWithin catalog depth))
        (p.after (classifyWithin catalog depth))) :
    PlainMemo catalog (q.expanded catalog (classifyWithin catalog depth)).2 ∧
      (LoopFree catalog q.descriptor →
        Evaluates catalog q.standing q.descriptor
          (q.expanded catalog (classifyWithin catalog depth)).1 ∧
        ∀ n, (q.expanded catalog (classifyWithin catalog depth)).2.Recorded n →
          q.survey.Recorded n) := by
  have hnested := (nested_of_ready hready hfresh).2
  have trail := q.trail catalog (classifyWithin catalog depth)
  have before : ∀ p ∈ q.nested catalog (classifyWithin catalog depth),
      PlainMemo catalog p.survey → PlainBefore catalog p := fun p hp hmemo =>
    ⟨placed_of_mem_inquiries h.placed hp, hmemo, h.stack.of_nested h.placed hp (hnested p hp).2.1⟩
  have memo := trail.keeps (P := PlainMemo catalog) h.memo fun p hp hmemo =>
    (hsub p hp (before p hp hmemo)).memo
  -- If the type has no loops, then neither have the types it refers to.
  refine ⟨memo.1, fun hfree => ⟨evaluates_expanded fun p hp => ?_, fun n hn => ?_⟩⟩
  · exact (hsub p hp (before p hp (memo.2 p hp))).evaluates
      (hfree.of_refers (refers_of_mem_inquiries hp))
  · refine (trail.keeps (P := fun u => u.Recorded n → q.survey.Recorded n) id ?_).1 hn
    intro p hp ih hrec
    exact ih ((hsub p hp (before p hp (memo.2 p hp))).unrecorded
      (hfree.of_refers (refers_of_mem_inquiries hp)) n hrec)

/-- With no loop recorded for it, a type is found to be what it was expanded to. -/
theorem leave_of_not_recorded {t : Survey} {name : String} {found : Classification}
    (h : ¬ t.Recorded name) : (t.leave name found).1 = found := by
  have hnone : t.loops.lookup name = none := Option.not_isSome_iff_eq_none.1 h
  simp [leave, hnone]

/-- Nothing is asked for a type that is named like a primitive, so it is that primitive. -/
theorem leave_primitive {q : Inquiry} (hco : q.survey.Coherent) (hfresh : q.Fresh)
    {kind : Primitive} (h : Primitive.ofTypeName? q.descriptor.name = some kind) :
    ((q.expanded catalog f).2.leave q.descriptor.name (q.expanded catalog f).1).1 =
      .primitive kind := by
  have hshape : q.descriptor.shape q.standing = .primitive kind := by
    simp [Descriptor.shape, h]
  simp only [Inquiry.expanded, hshape, expand]
  exact leave_of_not_recorded fun hrec => hfresh.2 (hco.loops_open _ hrec)

section Distinct

variable {ds : List Descriptor} (distinct : (variantNames ds).Nodup)

include distinct

/-- A type without loops never meets itself while it is in progress. -/
theorem not_inProgress_of_loopFree {s : Survey} {standing : Standing} {d : Descriptor}
    (hd : Placed (.ofList ds) standing d) (hs : StackRefers (.ofList ds) s d)
    (hfree : LoopFree (.ofList ds) d) : d.name ∉ s.inProgress := by
  intro hmem
  obtain ⟨st, e, he, hname, hprim, htrans⟩ := hs _ hmem
  obtain ⟨-, rfl⟩ := he.unique distinct hd hname (hname ▸ hprim)
  exact hfree e .refl htrans

/-- The memory still agrees with direct recursion when a type has been expanded and is left. -/
theorem plainMemo_leave {q : Inquiry} {t : Survey} {found : Classification}
    (hq : Placed (.ofList ds) q.standing q.descriptor) (hco : q.survey.Coherent)
    (hfresh : q.Fresh) (hmemo : PlainMemo (.ofList ds) t)
    (hfound : LoopFree (.ofList ds) q.descriptor →
      Evaluates (.ofList ds) q.standing q.descriptor found ∧
        ∀ n, t.Recorded n → q.survey.Recorded n)
    (hprimitive : ∀ kind, Primitive.ofTypeName? q.descriptor.name = some kind →
      (t.leave q.descriptor.name found).1 = .primitive kind) :
    PlainMemo (.ofList ds) (t.leave q.descriptor.name found).2 := by
  intro st e he hfree k hk
  rw [memoized_leave] at hk
  split at hk
  · -- The type itself, or another that is named like the same primitive.
    rename_i hname
    cases hk
    cases hprim : Primitive.ofTypeName? q.descriptor.name with
    | some kind =>
      rw [hprimitive kind hprim]
      exact evaluates_primitive (hname ▸ hprim)
    | none =>
      obtain ⟨rfl, rfl⟩ := he.unique distinct hq hname (hname ▸ hprim)
      obtain ⟨heval, hrec⟩ := hfound hfree
      rwa [leave_of_not_recorded fun h => hfresh.2 (hco.loops_open _ (hrec _ h))]
  · exact hmemo st e he hfree k hk

/-- What one inquiry does to the agreement with direct recursion. -/
theorem plainAfter {depth : Nat} {q : Inquiry} (hready : q.Ready (.ofList ds) depth)
    (h : PlainBefore (.ofList ds) q) :
    PlainAfter (.ofList ds) q (q.answer (classifyWithin (.ofList ds) depth))
      (q.after (classifyWithin (.ofList ds) depth)) := by
  refine classifyWithin_induction (P := fun _ => PlainBefore (.ofList ds))
    (Q := PlainAfter (.ofList ds)) ?finished ?closed ?expanded depth q hready h
  case finished =>
    intro _ q k h _ hm
    exact ⟨h.memo, fun hfree => h.memo _ _ h.placed hfree k hm, fun _ _ => id⟩
  case closed =>
    intro _ q h _ hs
    -- A type in progress that is met again is on a loop, so nothing is claimed of it.
    have notFree : ¬ LoopFree (.ofList ds) q.descriptor := fun hfree =>
      not_inProgress_of_loopFree distinct h.placed h.stack hfree hs
    exact ⟨h.memo, fun hfree => absurd hfree notFree, fun hfree => absurd hfree notFree⟩
  case expanded =>
    intro depth q h hready hfresh hsub
    obtain ⟨hmemo, hfound⟩ := plainAfter_nested h hready hfresh hsub
    simp only [Inquiry.answer, Inquiry.after, classifyWithin_of_fresh _ _ hfresh]
    refine ⟨?_, fun hfree => ?_, fun hfree n hn => ?_⟩
    · exact plainMemo_leave distinct h.placed hready.coherent hfresh hmemo hfound
        fun kind hk => leave_primitive hready.coherent hfresh hk
    · obtain ⟨heval, hrec⟩ := hfound hfree
      rwa [leave_of_not_recorded fun hr =>
        hfresh.2 (hready.coherent.loops_open _ (hrec _ hr))]
    · exact (hfound hfree).2 n ((recorded_leave _ _ _ _).1 hn).2

/-- With nothing in progress, a type without loops is found to be what direct recursion finds. -/
theorem Idle.plain_classify {s : Survey} (hs : s.Idle) (h : PlainMemo (.ofList ds) s)
    {d : Descriptor} (hd : Placed (.ofList ds) .topLevel d) :
    PlainMemo (.ofList ds) (s.classify (.ofList ds) d).2 ∧ (LoopFree (.ofList ds) d →
      Evaluates (.ofList ds) .topLevel d (s.classify (.ofList ds) d).1) := by
  have before : PlainBefore (.ofList ds) ⟨.topLevel, d, s⟩ :=
    ⟨hd, h, fun n hn => by simp [hs.inProgress] at hn⟩
  have after := plainAfter distinct (Idle.ready (q := ⟨.topLevel, d, s⟩) hs) before
  exact ⟨after.memo, after.evaluates⟩

end Distinct

/-! ## Histories -/

theorem plainMemo_fresh : PlainMemo catalog fresh := by
  intro st e _ _ k hk
  simp [fresh, memoized] at hk

theorem Call.OfCatalog.plainBefore {c : Call} {s : Survey} {q : Inquiry}
    (hc : c.OfCatalog catalog) (hs : s.Idle) (hq : c.inquiry? catalog s = some q)
    (hmemo : PlainMemo catalog s) : PlainBefore catalog q := by
  have hsurvey : q.survey = s := Call.inquiry?_survey hq
  exact ⟨hc.placed hq, hsurvey ▸ hmemo, fun n hn => by simp [hsurvey, hs.inProgress] at hn⟩

theorem plainMemo_history {ds : List Descriptor} (distinct : (variantNames ds).Nodup)
    {calls : List Call} (hcalls : ∀ c ∈ calls, c.OfCatalog (.ofList ds)) :
    PlainMemo (.ofList ds) (history (.ofList ds) calls) := by
  refine history_keeps (P := PlainMemo (.ofList ds)) ?_ ?_
  · exact plainMemo_fresh
  · intro before c after q heq hq hmemo
    have hidle : (history (.ofList ds) before).Idle := history_idle before
    have hbefore := (hcalls c (by simp [heq])).plainBefore hidle hq hmemo
    exact (plainAfter distinct (Call.inquiry?_survey hq ▸ hidle).ready hbefore).memo

/-- Where the names of a catalog differ at every depth, a type from which no loop of references
can be reached is found to be what direct recursion finds, after any earlier calls. -/
theorem classifyName_eq_plain {ds : List Descriptor} (distinct : (variantNames ds).Nodup)
    {calls : List Call} (hcalls : ∀ c ∈ calls, c.OfCatalog (.ofList ds)) {x : Descriptor}
    (hx : x ∈ ds) (noLoop : ∀ e, Relation.ReflTransGen (Refers (.ofList ds)) x e →
      ¬ Relation.TransGen (Refers (.ofList ds)) e e) :
    ∃ depth, ∀ n ≥ depth, plain (.ofList ds) n .topLevel x =
      some (classifyName (.ofList ds) x.name (history (.ofList ds) calls)).1 := by
  have hget : (Catalog.ofList ds).get? x.name = some x :=
    Catalog.get?_ofList_of_mem (nodup_map_name distinct) hx
  have hidle : (history (.ofList ds) calls).Idle := history_idle calls
  have hbefore : PlainBefore (.ofList ds) ⟨.topLevel, x, history (.ofList ds) calls⟩ :=
    Call.OfCatalog.plainBefore (c := .name x.name) trivial hidle (by simp [Call.inquiry?, hget])
      (plainMemo_history distinct hcalls)
  have hafter := plainAfter distinct
    (Idle.ready (q := ⟨.topLevel, x, history (.ofList ds) calls⟩) hidle) hbefore
  have run : classifyName (.ofList ds) x.name (history (.ofList ds) calls) =
      classifyWithin (.ofList ds) (depthBound (.ofList ds) x) .topLevel x
        (history (.ofList ds) calls) := by
    simp [classifyName, classifyNameWith, hget, classifyAs]
  rw [run]
  exact hafter.evaluates noLoop

/-! ## A type beside a loop -/

/-- The sum of a point and a constant. The point refers to the wrapper of a number. -/
def figure : Descriptor :=
  .sum "X" [.product "X::P" ⟨[⟨"w", "W", false⟩, ⟨"y", "i32", true⟩], .named, true, false⟩,
    .singleton "X::S" true] true

/-- The loop `A`, `B`, `A`, with the figure beside it. -/
def besideLoop : List Descriptor :=
  [.product "A" ⟨[⟨"b", "B", false⟩, ⟨"x", "X", false⟩], .named, true, false⟩,
    .product "B" ⟨[⟨"a", "A", false⟩, ⟨"x", "X", true⟩], .named, true, false⟩,
    figure, .product "W" ⟨[⟨"value", "i64", false⟩], .positional, true, true⟩]

/-- The figure does not reach the loop. -/
theorem loopFree_figure : LoopFree (.ofList besideLoop) figure := by
  refine loopFree_of_forall_refers fun e he => ?_
  rcases he with _ | hv
  simp only [List.mem_cons, List.not_mem_nil, or_false] at hv
  rcases hv with rfl | rfl
  · refine loopFree_of_forall_refers fun e he => ?_
    rcases he with ⟨hm, he⟩
    simp only [List.mem_cons, List.not_mem_nil, or_false] at hm
    rcases hm with rfl | rfl
    · cases he
    · cases he
      exact loopFree_of_forall_refers fun e he => by cases he
  · exact loopFree_of_forall_refers fun e he => by cases he

/-- The figure is found to be the same after the loop beside it was refused. -/
theorem classifyName_eq_plain_besideLoop :
    (classifyName (.ofList besideLoop) "A" fresh).1.isSupported = false ∧
      ∃ depth, ∀ n ≥ depth, plain (.ofList besideLoop) n .topLevel figure =
        some (classifyName (.ofList besideLoop) "X"
          (history (.ofList besideLoop) [.name "A", .name "B"])).1 :=
  ⟨by decide, classifyName_eq_plain (by decide) (by simp [Call.OfCatalog])
    (by simp [besideLoop]) loopFree_figure⟩

end Survey

end EditableFields
