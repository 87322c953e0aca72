import EditableFields.Proofs.Survey.History

/-!
# Surveys: what classifications are made of

A classification that is remembered is made of classifications that were remembered before it
(`Grounded`): each part that is not refused is what its own name was found to be, and was found
earlier (`Grounded.part`). So no type lies within itself in a classification, loops of references
or not. Conversely nothing that a type refers to is left out of what the type is found to be
(`Complete`).

Both hold of the memory at every moment, and a classification keeps them
(`Idle.grounded_classify`, `Idle.complete_classify`).
-/

namespace EditableFields

/-- The types that a classification is made of, each with what it was found to be: those of a
product's members that are no value wrappers, and the variants of a sum. -/
def Classification.parts : Classification → List (String × Classification)
  | product _ members =>
    (members.filter (·.wrapper.isNone)).map fun m => (m.type, m.classification)
  | sum variants => variants.map fun v => (v.type, v.classification)
  | _ => []

theorem Classification.mem_parts_product {style : ConstructorStyle}
    {members : List (ResolvedMember Classification)} {p : String × Classification} :
    p ∈ (product style members).parts ↔
      ∃ m ∈ members, m.wrapper = none ∧ (m.type, m.classification) = p := by
  simp [parts, and_assoc]

theorem Classification.mem_parts_sum {variants : List (ResolvedVariant Classification)}
    {p : String × Classification} :
    p ∈ (sum variants).parts ↔ ∃ v ∈ variants, (v.type, v.classification) = p := by
  simp [parts]

namespace Survey

/-! ## The parts of an expansion -/

section Expansion

variable {ds : List Descriptor} {f : Classifier} {q : Inquiry}

/-- A part that is not refused is the answer of an inquiry about the type of its name. -/
theorem exists_nested_of_mem_parts {p : String × Classification}
    (hp : p ∈ (q.expanded (.ofList ds) f).1.parts) (hs : p.2.isSupported) :
    ∃ r ∈ q.nested (.ofList ds) f, r.descriptor.name = p.1 ∧ r.answer f = p.2 := by
  unfold Inquiry.expanded at hp
  unfold Inquiry.nested
  cases hshape : q.descriptor.shape q.standing with
  | product style members =>
    simp only [hshape, expand, inquiries] at hp ⊢
    obtain ⟨m, hm, hw, rfl⟩ := Classification.mem_parts_product.1 hp
    obtain ⟨member, -, ⟨-, rfl⟩ | ⟨r, hr, -, htype, rfl⟩⟩ :=
      exists_left_of_forall₂ (resolveMembers_answered members _) hm
    · simp [settledMember_refused hw] at hs
    · exact ⟨r, hr, Catalog.get?_ofList_name (Catalog.memberType?_eq_some_iff.1 htype).1, rfl⟩
  | sum variants =>
    simp only [hshape, inquiries] at hp ⊢
    rcases expand_sum_answered q.descriptor.name variants _ with ⟨rs, hrun, answered⟩ | ⟨_, hrun⟩
    · rw [hrun] at hp
      obtain ⟨v, hv, rfl⟩ := Classification.mem_parts_sum.1 hp
      obtain ⟨d, -, r, hr, -, rfl, -, rfl⟩ := exists_left_of_forall₂ answered hv
      exact ⟨r, hr, rfl, rfl⟩
    · simp [hrun, Classification.parts] at hp
  | primitive | enumeration | singleton | external | unsupported =>
    simp [hshape, expand, Classification.parts] at hp

/-- What a type refers to is among the parts that it is expanded to, unless it is refused. -/
theorem exists_mem_parts_of_refers (hprim : Primitive.ofTypeName? q.descriptor.name = none)
    (hs : (q.expanded (.ofList ds) f).1.isSupported) {e : Descriptor}
    (he : Refers (.ofList ds) q.descriptor e) :
    ∃ k, (e.name, k) ∈ (q.expanded (.ofList ds) f).1.parts := by
  unfold Inquiry.expanded at hs ⊢
  rcases shape_of_refers he hprim q.standing with
    ⟨reason, hshape⟩ | ⟨style, members, m, hshape, hm, htype⟩ | ⟨variants, hshape, hv⟩
  · simp [hshape, expand, Classification.isSupported] at hs
  · rw [hshape]
    have answered : List.Forall₂ (MemberAnswered (.ofList ds) f _) members _ :=
      resolveMembers_answered members (q.survey.enter q.descriptor.name)
    obtain ⟨r, hr, ⟨hnone, -⟩ | ⟨p, -, -, -, rfl⟩⟩ := exists_right_of_forall₂ answered hm
    · simp [htype] at hnone
    · rw [Catalog.get?_ofList_name (Catalog.memberType?_eq_some_iff.1 htype).1]
      exact ⟨_, Classification.mem_parts_product.2 ⟨_, hr, rfl, rfl⟩⟩
  · rw [hshape] at hs ⊢
    rcases expand_sum_answered q.descriptor.name variants _ with ⟨rs, hrun, answered⟩ | ⟨_, hrun⟩
    · obtain ⟨r, hr, p, -, -, rfl, -, rfl⟩ := exists_right_of_forall₂ answered hv
      rw [hrun]
      exact ⟨_, Classification.mem_parts_sum.2 ⟨_, hr, rfl⟩⟩
    · simp [hrun, Classification.isSupported] at hs

end Expansion

/-! ## Grounded memories -/

/-- A memory, the latest first, in which each classification is made of earlier ones: each of its
parts that is not refused is what its name was found to be before. -/
inductive Grounded : List (String × Classification) → Prop
  | nil : Grounded []
  | cons {n k memo} : memo.lookup n = none →
      (∀ p ∈ k.parts, p.2.isSupported → memo.lookup p.1 = some p.2) → Grounded memo →
      Grounded ((n, k) :: memo)

/-- How many names were finished by the time that a name was. -/
def rank (memo : List (String × Classification)) (n : String) : Nat :=
  (memo.dropWhile (·.1 != n)).length

theorem rank_cons_self (n : String) (k : Classification)
    (memo : List (String × Classification)) : rank ((n, k) :: memo) n = memo.length + 1 := by
  simp [rank]

theorem rank_cons_of_ne {n m : String} (h : m ≠ n) (k : Classification)
    (memo : List (String × Classification)) : rank ((n, k) :: memo) m = rank memo m := by
  simp [rank, Ne.symm h]

theorem rank_le (memo : List (String × Classification)) (n : String) :
    rank memo n ≤ memo.length :=
  (List.dropWhile_suffix _).length_le

/-- A part that is not refused is what its own name was found to be, earlier than the whole. -/
theorem Grounded.part {memo : List (String × Classification)} (h : Grounded memo) {n : String}
    {k : Classification} (hk : memo.lookup n = some k) {p : String × Classification}
    (hp : p ∈ k.parts) (hs : p.2.isSupported) :
    memo.lookup p.1 = some p.2 ∧ rank memo p.1 < rank memo n := by
  induction h with
  | nil => simp at hk
  | @cons n' k' memo hnew hparts _ ih =>
    -- A name found earlier is another name than the latest.
    have earlier : ∀ {m k}, memo.lookup m = some k → m ≠ n' := by
      rintro m k hm rfl
      simp [hnew] at hm
    rw [List.lookup_cons] at hk
    by_cases hn : n = n'
    · subst hn
      simp only [beq_self_eq_true, Option.some_inj] at hk
      subst hk
      have hlookup := hparts p hp hs
      have hne := earlier hlookup
      refine ⟨by rw [List.lookup_cons, beq_eq_false_iff_ne.2 hne, hlookup], ?_⟩
      rw [rank_cons_self, rank_cons_of_ne hne]
      exact Nat.lt_succ_of_le (rank_le memo p.1)
    · rw [beq_eq_false_iff_ne.2 hn] at hk
      obtain ⟨hlookup, hrank⟩ := ih hk
      have hne := earlier hlookup
      refine ⟨by rw [List.lookup_cons, beq_eq_false_iff_ne.2 hne, hlookup], ?_⟩
      rwa [rank_cons_of_ne hne, rank_cons_of_ne hn]

/-! ## What is left behind -/

/-- In a memory, every type that is not refused has all it refers to among its parts. -/
def Complete (catalog : Catalog) (memo : List (String × Classification)) : Prop :=
  ∀ standing d, Placed catalog standing d → Primitive.ofTypeName? d.name = none →
    ∀ k, memo.lookup d.name = some k → k.isSupported →
      ∀ e, Refers catalog d e → ∃ k', (e.name, k') ∈ k.parts

/-- A type that is not refused when it is left is what it was expanded to. -/
theorem leave_of_isSupported {t : Survey} {name : String} {found : Classification}
    (h : (t.leave name found).1.isSupported) : (t.leave name found).1 = found := by
  simp only [leave] at h ⊢
  cases hl : t.loops.lookup name with
  | some path => simp [hl, Classification.isSupported] at h
  | none => rfl

/-- A type has no parts when it is left but those that it was expanded to. -/
theorem mem_parts_of_leave {t : Survey} {name : String} {found : Classification}
    {p : String × Classification} (h : p ∈ (t.leave name found).1.parts) : p ∈ found.parts := by
  simp only [leave] at h
  cases hl : t.loops.lookup name with
  | some path => simp [hl, Classification.parts] at h
  | none => rwa [hl] at h

theorem memo_leave (t : Survey) (name : String) (found : Classification) :
    (t.leave name found).2.memo = (name, (t.leave name found).1) :: t.memo :=
  rfl

variable {ds : List Descriptor}

/-- When a type that was expanded is left, its parts are in the memory already. -/
theorem grounded_leave {depth : Nat} {q : Inquiry} (hready : q.Ready (.ofList ds) (depth + 1))
    (hfresh : q.Fresh)
    (h : Grounded (q.expanded (.ofList ds) (classifyWithin (.ofList ds) depth)).2.memo) :
    Grounded (q.after (classifyWithin (.ofList ds) (depth + 1))).memo := by
  obtain ⟨⟨hco, hext⟩, hnested⟩ := nested_of_ready hready hfresh
  have hopen := hco.stack_open q.descriptor.name
    (by rw [hext.inProgress]; exact List.mem_cons_self)
  rw [Inquiry.after, classifyWithin_of_fresh _ _ hfresh, memo_leave]
  refine .cons hopen (fun p hp hs => ?_) h
  obtain ⟨r, hr, hname, hanswer⟩ :=
    exists_nested_of_mem_parts (f := classifyWithin (.ofList ds) depth) (mem_parts_of_leave hp) hs
  -- An answer is remembered unless its type was in progress, which is then refused.
  rcases (classifyWithin_settled depth r (hnested r hr).1).answer_memoized with ⟨-, hno⟩ | hm
  · rw [hanswer, hs] at hno
    cases hno
  · rw [hname, hanswer] at hm
    exact (hnested r hr).2.2.memoized hm

/-- When a type that was expanded is left, all it refers to is among its parts. -/
theorem complete_leave (distinct : (variantNames ds).Nodup) {depth : Nat} {q : Inquiry}
    (hq : Placed (.ofList ds) q.standing q.descriptor) (hfresh : q.Fresh)
    (h : Complete (.ofList ds)
      (q.expanded (.ofList ds) (classifyWithin (.ofList ds) depth)).2.memo) :
    Complete (.ofList ds) (q.after (classifyWithin (.ofList ds) (depth + 1))).memo := by
  intro standing d hd hprim k hk hs e he
  rw [Inquiry.after, classifyWithin_of_fresh _ _ hfresh] at hk
  have hk' := hk
  rw [← memoized, memoized_leave] at hk'
  split at hk'
  · -- One name has one place, so it is the type itself that was finished.
    rename_i hname
    cases hk'
    obtain ⟨-, rfl⟩ := hd.unique distinct hq hname hprim
    have hfound := leave_of_isSupported hs
    rw [hfound] at hs ⊢
    exact exists_mem_parts_of_refers hprim hs he
  · exact h standing d hd hprim k hk' hs e he

/-! ## One classification -/

/-- What is kept when a type is left is kept by a classification, if it is about the memory. -/
theorem Idle.memo_classify {catalog : Catalog} {P : List (String × Classification) → Prop}
    (leave : ∀ (depth : Nat) (q : Inquiry), Placed catalog q.standing q.descriptor →
      q.Ready catalog (depth + 1) → q.Fresh →
      P (q.expanded catalog (classifyWithin catalog depth)).2.memo →
      P (q.after (classifyWithin catalog (depth + 1))).memo)
    {s : Survey} (hs : s.Idle) {d : Descriptor} (hd : Placed catalog .topLevel d) (h : P s.memo) :
    P (s.classify catalog d).2.memo := by
  have ready : Inquiry.Ready catalog (depthBound catalog d) ⟨.topLevel, d, s⟩ :=
    Idle.ready (q := ⟨.topLevel, d, s⟩) hs
  refine classifyWithin_induction
    (P := fun _ q => Placed catalog q.standing q.descriptor ∧ P q.survey.memo)
    (Q := fun _ _ t => P t.memo) ?finished ?closed ?expanded _ _ ready ⟨hd, h⟩
  case finished => exact fun _ _ _ h _ _ => h.2
  case closed => exact fun _ _ h _ _ => h.2
  case expanded =>
    intro depth q h hready hfresh hsub
    have rest := (q.trail catalog (classifyWithin catalog depth)).keeps (P := fun s => P s.memo)
      h.2 fun p hp hmemo => hsub p hp ⟨placed_of_mem_inquiries h.1 hp, hmemo⟩
    exact leave depth q h.1 hready hfresh rest.1

theorem Idle.grounded_classify {s : Survey} (hs : s.Idle) (h : Grounded s.memo) {d : Descriptor}
    (hd : Placed (.ofList ds) .topLevel d) : Grounded (s.classify (.ofList ds) d).2.memo :=
  hs.memo_classify (fun _ _ _ => grounded_leave) hd h

theorem Idle.complete_classify (distinct : (variantNames ds).Nodup) {s : Survey} (hs : s.Idle)
    (h : Complete (.ofList ds) s.memo) {d : Descriptor} (hd : Placed (.ofList ds) .topLevel d) :
    Complete (.ofList ds) (s.classify (.ofList ds) d).2.memo :=
  hs.memo_classify (fun _ _ hq _ => complete_leave distinct hq) hd h

end Survey

end EditableFields
