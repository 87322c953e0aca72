import EditableFields.Proofs.Catalog
import EditableFields.Proofs.Lists

/-!
# Surveys: the inquiries behind one classification

To classify what a shape holds, a survey asks for one type after another. `inquiries` lists what is
asked, each time with the survey as it then stands, and `Trail` says that the surveys follow on one
another: whatever one answer leaves behind is what the next inquiry starts from (`expand_trail`).
What holds of a survey after a classification is proved of one inquiry and carried along the trail
(`Trail.steps`); what the classification itself is made of is said by `MemberAnswered` and
`VariantAnswered`.
-/

namespace EditableFields

/-- A type to be classified as what it stands for, in a survey as it is. -/
structure Inquiry where
  standing : Standing
  descriptor : Descriptor
  survey : Survey

namespace Inquiry

/-- What a classifier answers. -/
def answer (f : Survey.Classifier) (q : Inquiry) : Classification :=
  (f q.standing q.descriptor q.survey).1

/-- The survey that the answer leaves behind. -/
def after (f : Survey.Classifier) (q : Inquiry) : Survey :=
  (f q.standing q.descriptor q.survey).2

/-- The inquiry is not settled at once: its type is neither finished nor in progress. -/
def Fresh (q : Inquiry) : Prop :=
  q.survey.memoized q.descriptor.name = none ∧ q.descriptor.name ∉ q.survey.inProgress

end Inquiry

namespace Survey

variable {catalog : Catalog} {f : Classifier}

/-! ## Trails -/

/-- Inquiries one after another, each in the survey that the one before left behind. -/
inductive Trail (f : Classifier) : Survey → List Inquiry → Survey → Prop
  | nil (s : Survey) : Trail f s [] s
  | cons {q : Inquiry} {qs : List Inquiry} {t : Survey} :
      Trail f (q.after f) qs t → Trail f q.survey (q :: qs) t

/-- A relation that every single inquiry keeps holds all along a trail. -/
theorem Trail.steps {R : Survey → Survey → Prop} (refl : ∀ s, R s s)
    (trans : ∀ {s t u}, R s t → R t u → R s u) {s t : Survey} {qs : List Inquiry}
    (h : Trail f s qs t) (step : ∀ q ∈ qs, R s q.survey → R q.survey (q.after f)) :
    R s t ∧ ∀ q ∈ qs, R s q.survey ∧ R (q.after f) t := by
  induction h with
  | nil s => exact ⟨refl s, by simp⟩
  | @cons q qs t _ ih =>
    have first : R q.survey (q.after f) := step q (by simp) (refl _)
    obtain ⟨hrest, hqs⟩ := ih fun p hp hR => step p (by simp [hp]) (trans first hR)
    refine ⟨trans first hrest, fun p hp => ?_⟩
    -- The first inquiry starts where the trail does; a later one is met after the first step.
    rcases List.mem_cons.1 hp with rfl | hp
    · exact ⟨refl _, hrest⟩
    · exact ⟨trans first (hqs p hp).1, (hqs p hp).2⟩

/-- What every single inquiry keeps holds at each of them, and at the end. -/
theorem Trail.keeps {P : Survey → Prop} {s t : Survey} {qs : List Inquiry} (h : Trail f s qs t)
    (hs : P s) (step : ∀ q ∈ qs, P q.survey → P (q.after f)) : P t ∧ ∀ q ∈ qs, P q.survey := by
  -- To be kept is a relation between the survey before and the survey after.
  have all := h.steps (R := fun s t => P s → P t) (fun _ => id) (fun hst htu => htu ∘ hst)
    fun q hq _ => step q hq
  exact ⟨all.1 hs, fun q hq => (all.2 q hq).1 hs⟩

/-! ## What is asked -/

/-- The inquiries for the types of members. -/
def memberInquiries (catalog : Catalog) (f : Classifier) : List Member → Survey → List Inquiry
  | [], _ => []
  | m :: ms, s =>
    match catalog.memberType? m with
    | some e => ⟨.topLevel, e, s⟩ :: memberInquiries catalog f ms (f .topLevel e s).2
    | none => memberInquiries catalog f ms s

/-- The inquiries for variants, up to the first one that makes the sum unfit. -/
def variantInquiries (f : Classifier) (owner : String) : List Descriptor → Survey → List Inquiry
  | [], _ => []
  | v :: vs, s =>
    ⟨.variant, v, s⟩ ::
      match variantRefusal? owner v.simpleName (f .variant v s).1 with
      | some _ => []
      | none => variantInquiries f owner vs (f .variant v s).2

/-- The inquiries for what a shape holds. -/
def inquiries (catalog : Catalog) (f : Classifier) (name : String) (shape : Shape) (s : Survey) :
    List Inquiry :=
  match shape with
  | .product _ members => memberInquiries catalog f members s
  | .sum variants => variantInquiries f name variants s
  | _ => []

theorem resolveMember_of_memberType? {m : Member} {e : Descriptor}
    (h : catalog.memberType? m = some e) (s : Survey) :
    resolveMember catalog f m s =
      (⟨m.name, m.type, m.nullable, none, (f .topLevel e s).1⟩, (f .topLevel e s).2) := by
  obtain ⟨hget, hw⟩ := Catalog.memberType?_eq_some_iff.1 h
  simp [resolveMember, classifyNameWith, hget, hw]

/-- What a member is resolved to if nothing is asked for it: a value wrapper stands for its
primitive, and a name that means nothing is refused. -/
def settledMember (catalog : Catalog) (m : Member) : ResolvedMember Classification :=
  match (catalog.get? m.type).bind Descriptor.valueWrapper? with
  | some w => ⟨m.name, m.type, m.nullable, some w, .primitive w.primitive⟩
  | none => ⟨m.name, m.type, m.nullable, none, .unsupported (.unknownType m.type)⟩

/-- What is settled without asking is a value wrapper or refused. -/
theorem settledMember_refused {m : Member} (h : (settledMember catalog m).wrapper = none) :
    (settledMember catalog m).classification.isSupported = false := by
  unfold settledMember at h ⊢
  split at h
  · cases h
  · rfl

theorem resolveMember_of_settled {m : Member} (h : catalog.memberType? m = none) (s : Survey) :
    resolveMember catalog f m s = (settledMember catalog m, s) := by
  cases hget : catalog.get? m.type with
  | none => simp [resolveMember, settledMember, classifyNameWith, hget]
  | some e =>
    cases hw : e.valueWrapper? with
    | none => simp [Catalog.memberType?, hget, hw] at h
    | some w => simp [resolveMember, settledMember, hget, hw]

theorem resolveMembers_trail (ms : List Member) (s : Survey) :
    Trail f s (memberInquiries catalog f ms s) (resolveMembers catalog f ms s).2 := by
  induction ms generalizing s with
  | nil => exact .nil s
  | cons m ms ih =>
    simp only [resolveMembers, memberInquiries]
    cases h : catalog.memberType? m with
    | some e =>
      simp only [resolveMember_of_memberType? h]
      exact .cons (q := ⟨.topLevel, e, s⟩) (ih _)
    | none =>
      simp only [resolveMember_of_settled h]
      exact ih s

theorem resolveVariants_cons_after {owner : String} {v : Descriptor} {s : Survey}
    (h : variantRefusal? owner v.simpleName (f .variant v s).1 = none) (vs : List Descriptor) :
    (resolveVariants f owner (v :: vs) s).2 =
      (resolveVariants f owner vs (f .variant v s).2).2 := by
  simp only [resolveVariants, h]
  rcases resolveVariants f owner vs (f .variant v s).2 with ⟨_ | _, t⟩ <;> rfl

theorem expand_sum_after (name : String) (variants : List Descriptor) (s : Survey) :
    (expand catalog f name (.sum variants) s).2 = (resolveVariants f name variants s).2 := by
  simp only [expand]
  rcases resolveVariants f name variants s with ⟨_ | _, t⟩ <;> rfl

theorem resolveVariants_trail (owner : String) (vs : List Descriptor) (s : Survey) :
    Trail f s (variantInquiries f owner vs s) (resolveVariants f owner vs s).2 := by
  induction vs generalizing s with
  | nil => exact .nil s
  | cons v vs ih =>
    refine .cons (q := ⟨.variant, v, s⟩) ?_
    cases h : variantRefusal? owner v.simpleName (f .variant v s).1 with
    | some reason =>
      simp only [resolveVariants, h]
      exact .nil _
    | none =>
      rw [resolveVariants_cons_after h]
      exact ih _

/-- The inquiries for what a shape holds lead from the survey before to the survey after. -/
theorem expand_trail (name : String) (shape : Shape) (s : Survey) :
    Trail f s (inquiries catalog f name shape s) (expand catalog f name shape s).2 := by
  cases shape with
  | product style members => exact resolveMembers_trail members s
  | sum variants =>
    rw [expand_sum_after]
    exact resolveVariants_trail name variants s
  | primitive | enumeration | singleton | external | unsupported => exact .nil s

/-! ## What the answer is made of -/

/-- A member is resolved to the answer of one of the inquiries, or nothing was asked for it. -/
def MemberAnswered (catalog : Catalog) (f : Classifier) (qs : List Inquiry) (m : Member)
    (r : ResolvedMember Classification) : Prop :=
  (catalog.memberType? m = none ∧ r = settledMember catalog m) ∨
    ∃ q ∈ qs, q.standing = .topLevel ∧ catalog.memberType? m = some q.descriptor ∧
      r = ⟨m.name, m.type, m.nullable, none, q.answer f⟩

/-- A variant is resolved to the answer of one of the inquiries, which is a product or singleton. -/
def VariantAnswered (f : Classifier) (owner : String) (qs : List Inquiry) (v : Descriptor)
    (r : ResolvedVariant Classification) : Prop :=
  ∃ q ∈ qs, q.standing = .variant ∧ q.descriptor = v ∧
    variantRefusal? owner v.simpleName (q.answer f) = none ∧ r = ⟨v.simpleName, v.name, q.answer f⟩

theorem MemberAnswered.mono {qs qs' : List Inquiry} (hsub : qs ⊆ qs') {m : Member}
    {r : ResolvedMember Classification} (h : MemberAnswered catalog f qs m r) :
    MemberAnswered catalog f qs' m r :=
  h.imp id fun ⟨q, hq, h⟩ => ⟨q, hsub hq, h⟩

theorem VariantAnswered.mono {owner : String} {qs qs' : List Inquiry} (hsub : qs ⊆ qs')
    {v : Descriptor} {r : ResolvedVariant Classification} (h : VariantAnswered f owner qs v r) :
    VariantAnswered f owner qs' v r :=
  let ⟨q, hq, h⟩ := h
  ⟨q, hsub hq, h⟩

theorem resolveMembers_answered (ms : List Member) (s : Survey) :
    List.Forall₂ (MemberAnswered catalog f (memberInquiries catalog f ms s)) ms
      (resolveMembers catalog f ms s).1 := by
  induction ms generalizing s with
  | nil => exact .nil
  | cons m ms ih =>
    simp only [resolveMembers, memberInquiries]
    cases h : catalog.memberType? m with
    | some e =>
      simp only [resolveMember_of_memberType? h]
      refine .cons (.inr ⟨_, List.mem_cons_self, rfl, h, rfl⟩) ?_
      exact (ih _).imp fun _ _ => MemberAnswered.mono (List.subset_cons_self _ _)
    | none =>
      simp only [resolveMember_of_settled h]
      exact .cons (.inl ⟨h, rfl⟩) (ih s)

theorem resolveVariants_answered (owner : String) (vs : List Descriptor) (s : Survey)
    {rs : List (ResolvedVariant Classification)}
    (h : (resolveVariants f owner vs s).1 = .ok rs) :
    List.Forall₂ (VariantAnswered f owner (variantInquiries f owner vs s)) vs rs := by
  induction vs generalizing s rs with
  | nil =>
    cases h
    exact .nil
  | cons v vs ih =>
    simp only [resolveVariants] at h
    simp only [variantInquiries]
    cases hv : variantRefusal? owner v.simpleName (f .variant v s).1 with
    | some reason => simp [hv] at h
    | none =>
      simp only [hv] at h
      rcases hr : resolveVariants f owner vs (f .variant v s).2 with ⟨_ | rs', t⟩
      · simp [hr] at h
      · simp only [hr] at h
        cases h
        have rest := ih (f .variant v s).2 (congrArg Prod.fst hr)
        refine .cons ⟨_, List.mem_cons_self, rfl, rfl, hv, rfl⟩ ?_
        exact rest.imp fun _ _ => VariantAnswered.mono (List.subset_cons_self _ _)

/-- Variants that make their sum unfit do so by the answer to one of the inquiries. -/
theorem resolveVariants_refused {owner : String} (vs : List Descriptor) (s : Survey)
    {reason : Refusal} (h : (resolveVariants f owner vs s).1 = .error reason) :
    ∃ q ∈ variantInquiries f owner vs s,
      variantRefusal? owner q.descriptor.simpleName (q.answer f) = some reason := by
  induction vs generalizing s with
  | nil => cases h
  | cons v vs ih =>
    simp only [resolveVariants] at h
    simp only [variantInquiries]
    cases hv : variantRefusal? owner v.simpleName (f .variant v s).1 with
    | some r =>
      simp only [hv] at h
      cases h
      exact ⟨⟨.variant, v, s⟩, List.mem_cons_self, hv⟩
    | none =>
      simp only [hv] at h
      rcases hrest : resolveVariants f owner vs (f .variant v s).2 with ⟨r | rs, t⟩
      · simp only [hrest] at h
        cases h
        obtain ⟨q, hq, hreason⟩ := ih _ (congrArg Prod.fst hrest)
        exact ⟨q, List.mem_cons_of_mem _ hq, hreason⟩
      · simp [hrest] at h

/-- A sum is what its variants are answered to be, or refused. -/
theorem expand_sum_answered (name : String) (variants : List Descriptor) (s : Survey) :
    (∃ rs, (expand catalog f name (.sum variants) s).1 = .sum rs ∧
      List.Forall₂ (VariantAnswered f name (variantInquiries f name variants s)) variants rs) ∨
    ∃ reason, (expand catalog f name (.sum variants) s).1 = .unsupported reason := by
  simp only [expand]
  rcases hrun : resolveVariants f name variants s with ⟨reason | rs, t⟩
  · exact .inr ⟨reason, rfl⟩
  · exact .inl ⟨rs, rfl, resolveVariants_answered name variants s (congrArg Prod.fst hrun)⟩

/-! ## Who is asked for -/

theorem descriptor_of_shape_product {standing : Standing} {d : Descriptor}
    {style : ConstructorStyle} {members : List Member}
    (h : d.shape standing = .product style members) :
    Primitive.ofTypeName? d.name = none ∧
      ∃ name content, d = .product name content ∧ content.members = members ∧
        content.style = style := by
  unfold Descriptor.shape at h
  split at h
  · cases h
  · rename_i hprim
    refine ⟨hprim, ?_⟩
    cases d with
    | product name content =>
      simp only [productShape] at h
      split_ifs at h
      cases h
      exact ⟨name, content, rfl, rfl, rfl⟩
    | sum => simp only [sumShape] at h; split_ifs at h
    | enumeration => simp only at h; split_ifs at h
    | primitive | singleton | sealed | external => cases h

theorem descriptor_of_shape_sum {standing : Standing} {d : Descriptor}
    {variants : List Descriptor} (h : d.shape standing = .sum variants) :
    Primitive.ofTypeName? d.name = none ∧ ∃ name companion, d = .sum name variants companion := by
  unfold Descriptor.shape at h
  split at h
  · cases h
  · rename_i hprim
    refine ⟨hprim, ?_⟩
    cases d with
    | sum name variants companion =>
      simp only [sumShape] at h
      split_ifs at h
      cases h
      exact ⟨name, companion, rfl⟩
    | product => simp only [productShape] at h; split_ifs at h
    | enumeration => simp only at h; split_ifs at h
    | primitive | singleton | sealed | external => cases h

/-- A type that refers to another is taken apart down to that reference, or refused. -/
theorem shape_of_refers {d e : Descriptor} (he : Refers catalog d e)
    (hprim : Primitive.ofTypeName? d.name = none) (standing : Standing) :
    (∃ reason, d.shape standing = .unsupported reason) ∨
      (∃ style members m, d.shape standing = .product style members ∧ m ∈ members ∧
        catalog.memberType? m = some e) ∨
      ∃ variants, d.shape standing = .sum variants ∧ e ∈ variants := by
  cases he with
  | member hm htype =>
    simp only [Descriptor.shape, hprim, productShape]
    split_ifs
    · exact .inl ⟨_, rfl⟩
    · exact .inl ⟨_, rfl⟩
    · exact .inr (.inl ⟨_, _, _, rfl, hm, htype⟩)
  | variant hv =>
    simp only [Descriptor.shape, hprim, sumShape]
    split_ifs
    · exact .inl ⟨_, rfl⟩
    · exact .inl ⟨_, rfl⟩
    · exact .inr (.inr ⟨_, rfl, hv⟩)

theorem mem_memberInquiries {ms : List Member} {s : Survey} {q : Inquiry}
    (h : q ∈ memberInquiries catalog f ms s) :
    q.standing = .topLevel ∧ ∃ m ∈ ms, catalog.memberType? m = some q.descriptor := by
  induction ms generalizing s with
  | nil => simp [memberInquiries] at h
  | cons m ms ih =>
    simp only [memberInquiries] at h
    cases hm : catalog.memberType? m with
    | none =>
      simp only [hm] at h
      obtain ⟨hst, m', hm', he⟩ := ih h
      exact ⟨hst, m', by simp [hm'], he⟩
    | some e =>
      simp only [hm, List.mem_cons] at h
      rcases h with rfl | h
      · exact ⟨rfl, m, by simp, hm⟩
      · obtain ⟨hst, m', hm', he⟩ := ih h
        exact ⟨hst, m', by simp [hm'], he⟩

/-- Each member whose type has to be looked into is asked for. -/
theorem exists_mem_memberInquiries {ms : List Member} {m : Member} {e : Descriptor} (hm : m ∈ ms)
    (he : catalog.memberType? m = some e) (s : Survey) :
    ∃ q ∈ memberInquiries catalog f ms s, q.descriptor = e := by
  induction ms generalizing s with
  | nil => simp at hm
  | cons m' ms ih =>
    simp only [memberInquiries]
    rcases List.mem_cons.1 hm with rfl | hm
    · simp [he]
    · cases catalog.memberType? m' with
      | none => exact ih hm s
      | some e' =>
        obtain ⟨q, hq, hqe⟩ := ih hm (f .topLevel e' s).2
        exact ⟨q, List.mem_cons_of_mem _ hq, hqe⟩

theorem mem_variantInquiries {owner : String} {vs : List Descriptor} {s : Survey} {q : Inquiry}
    (h : q ∈ variantInquiries f owner vs s) : q.standing = .variant ∧ q.descriptor ∈ vs := by
  induction vs generalizing s with
  | nil => simp [variantInquiries] at h
  | cons v vs ih =>
    simp only [variantInquiries, List.mem_cons] at h
    rcases h with rfl | h
    · exact ⟨rfl, by simp⟩
    · cases hv : variantRefusal? owner v.simpleName (f .variant v s).1 with
      | some reason => simp [hv] at h
      | none =>
        simp only [hv] at h
        exact (ih h).imp id fun hd => by simp [hd]

/-- A type asked for while `d` is expanded is one that `d` refers to. -/
theorem refers_of_mem_inquiries {standing : Standing} {d : Descriptor} {s : Survey} {q : Inquiry}
    (h : q ∈ inquiries catalog f d.name (d.shape standing) s) : Refers catalog d q.descriptor := by
  unfold inquiries at h
  split at h
  · rename_i hshape
    obtain ⟨-, name, content, rfl, rfl, -⟩ := descriptor_of_shape_product hshape
    obtain ⟨-, m, hm, he⟩ := mem_memberInquiries h
    exact .member hm he
  · rename_i hshape
    obtain ⟨-, name, companion, rfl⟩ := descriptor_of_shape_sum hshape
    exact .variant (mem_variantInquiries h).2
  · simp at h

/-- Nothing is asked for a type that is named like a primitive. -/
theorem not_primitive_of_mem_inquiries {standing : Standing} {d : Descriptor} {s : Survey}
    {q : Inquiry} (h : q ∈ inquiries catalog f d.name (d.shape standing) s) :
    Primitive.ofTypeName? d.name = none := by
  unfold inquiries at h
  split at h
  · rename_i hshape
    exact (descriptor_of_shape_product hshape).1
  · rename_i hshape
    exact (descriptor_of_shape_sum hshape).1
  · simp at h

/-- Types are asked for as what they stand as: by themselves, or as variants. -/
theorem placed_of_mem_inquiries {standing : Standing} {d : Descriptor} {s : Survey} {q : Inquiry}
    (hd : Placed catalog standing d)
    (h : q ∈ inquiries catalog f d.name (d.shape standing) s) :
    Placed catalog q.standing q.descriptor := by
  unfold inquiries at h
  split at h
  · obtain ⟨hst, m, -, he⟩ := mem_memberInquiries h
    rw [hst]
    exact .of_get? (Catalog.memberType?_eq_some_iff.1 he).1
  · rename_i hshape
    obtain ⟨-, name, companion, rfl⟩ := descriptor_of_shape_sum hshape
    obtain ⟨hst, hv⟩ := mem_variantInquiries h
    rw [hst]
    exact .variant hd hv
  · simp at h

end Survey

/-! ## Why an expansion is refused -/

/-- The reason lies in how a type is declared, or in its variants: not in a name that means nothing
and not in the course of the classification. -/
def Refusal.OfExpansion : Refusal → Prop
  | noCompanion kind _ => kind = "product" ∨ kind = "sum"
  | noEntries _ | noVariants _ | memberCount .. | sealed _ => True
  | variantRefused .. | variantKind .. => True
  | unknownType _ | circular _ | tooDeep _ => False

theorem Descriptor.ofExpansion_of_shape {standing : Standing} {d : Descriptor} {reason : Refusal}
    (h : d.shape standing = .unsupported reason) : reason.OfExpansion := by
  unfold shape at h
  split at h
  · cases h
  · cases d with
    | product name content =>
      simp only [productShape] at h
      split_ifs at h <;> cases h
      · exact .inl rfl
      · trivial
    | sum name variants companion =>
      simp only [sumShape] at h
      split_ifs at h <;> cases h
      · exact .inr rfl
      · trivial
    | enumeration name entries =>
      simp only at h
      split_ifs at h
      cases h
      trivial
    | sealed name =>
      cases h
      trivial
    | primitive | singleton | external => cases h

namespace Survey

variable {catalog : Catalog} {f : Classifier}

theorem ofExpansion_of_variantRefusal {owner variant : String} {k : Classification}
    {reason : Refusal} (h : variantRefusal? owner variant k = some reason) :
    reason.OfExpansion := by
  cases k <;> cases h <;> trivial

theorem ofExpansion_of_expand {standing : Standing} {d : Descriptor} {s : Survey}
    {reason : Refusal}
    (h : (expand catalog f d.name (d.shape standing) s).1 = .unsupported reason) :
    reason.OfExpansion := by
  cases hshape : d.shape standing with
  | unsupported r =>
    simp only [hshape, expand] at h
    cases h
    exact d.ofExpansion_of_shape hshape
  | sum variants =>
    simp only [hshape, expand] at h
    rcases hrun : resolveVariants f d.name variants s with ⟨r | rs, t⟩
    · simp only [hrun] at h
      cases h
      obtain ⟨q, -, hq⟩ := resolveVariants_refused variants s (congrArg Prod.fst hrun)
      exact ofExpansion_of_variantRefusal hq
    · simp [hrun] at h
  | primitive | enumeration | singleton | product | external =>
    simp only [hshape, expand] at h
    cases h

end Survey

end EditableFields
