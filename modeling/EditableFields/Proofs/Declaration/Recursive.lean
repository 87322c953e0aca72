import EditableFields.Declaration.Derivation
import EditableFields.Proofs.Declaration.Valid
import EditableFields.Proofs.Planning.Refusals
import EditableFields.Proofs.Source.Lines
import EditableFields.Proofs.Survey.History
import EditableFields.Proofs.Survey.WellFormed

/-!
# Declarations: fields of the declared type itself

A declared type with a field of that very type, or of an option of it, has no factory
(`derive_recursive`), whatever the pragmas say. The survey meets the type while it is in progress
and records the loop (`Survey.recorded_of_member`), which refuses the type in the end.

For an enum, the variant with that field has to be looked into for this. It is, unless its name is
finished already; and before it only an earlier variant of the same name could be found to be a
product or singleton (`Declaration.Makes.unvaried_after`). So the field counts in the first variant
of a name, and `exists_tokens_twins` shows that it need not count in a later one.
-/

namespace EditableFields

/-- The shape is one that a variant may have. -/
def Shape.IsVariant : Shape → Prop
  | .product .. | .singleton _ => True
  | _ => False

/-- A product is taken apart if its shape is one that a variant may have. -/
theorem Shape.IsVariant.product_of_member {catalog : Catalog} {standing : Standing}
    {d : Descriptor} (h : (d.shape standing).IsVariant) {name : String} {content : Product}
    (hd : d = .product name content) {m : Member} (hm : m ∈ content.members) {e : Descriptor}
    (he : catalog.memberType? m = some e) :
    ∃ style members m', d.shape standing = .product style members ∧ m' ∈ members ∧
      catalog.memberType? m' = some e := by
  cases hprim : Primitive.ofTypeName? d.name with
  | some kind =>
    simp only [Descriptor.shape, hprim] at h
    cases h
  | none =>
    have refers : Refers catalog d e := hd ▸ Refers.member hm he
    rcases Survey.shape_of_refers refers hprim standing with
      ⟨reason, hshape⟩ | hproduct | ⟨variants, hshape, -⟩
    · rw [hshape] at h
      cases h
    · exact hproduct
    · rw [hshape] at h
      cases h

/-- The expansion of a type ends in a refusal, or a loop through the type is recorded by then. -/
def Inquiry.EndsRefused (catalog : Catalog) (f : Survey.Classifier) (q : Inquiry) : Prop :=
  (∃ reason, (q.expanded catalog f).1 = .unsupported reason) ∨
    (q.expanded catalog f).2.Recorded q.descriptor.name

namespace Survey

variable {catalog : Catalog} {f : Classifier}

/-! ## Loops through a type in progress -/

/-- A type with a member of a type in progress has a loop recorded for the latter. -/
theorem recorded_of_member {depth : Nat} {q : Inquiry}
    (h : Inquiry.Ready catalog (depth + 1) q) (hq : q.Fresh) {style : ConstructorStyle}
    {members : List Member} (hshape : q.descriptor.shape q.standing = .product style members)
    {m : Member} (hm : m ∈ members) {e : Descriptor} (he : catalog.memberType? m = some e)
    (hstack : e.name ∈ (q.survey.enter q.descriptor.name).inProgress) :
    (q.expanded catalog (classifyWithin catalog depth)).2.Recorded e.name := by
  obtain ⟨p, hp, rfl⟩ := exists_mem_memberInquiries (f := classifyWithin catalog depth) hm he
    (q.survey.enter q.descriptor.name)
  have hnested : p ∈ q.nested catalog (classifyWithin catalog depth) := by
    simpa [Inquiry.nested, inquiries, hshape] using hp
  obtain ⟨ready, before, after⟩ := (nested_of_ready h hq).2 p hnested
  obtain ⟨depth, rfl⟩ := Nat.exists_eq_succ_of_ne_zero ready.depth_ne_zero
  rw [← before.inProgress] at hstack
  refine after.recorded ?_
  rw [Inquiry.after, classifyWithin_of_inProgress catalog depth
    (ready.coherent.stack_open _ hstack) hstack]
  exact (recorded_closeLoop _ _ _).2 (.inr (mem_loopOf.2 (.inl rfl)))

/-- What a type is left with is what it was found to be, or a refusal. -/
theorem leave_eq_or (t : Survey) (name : String) (found : Classification) :
    (t.leave name found).1 = found ∨ ∃ reason, (t.leave name found).1 = .unsupported reason := by
  unfold leave
  cases t.loops.lookup name with
  | none => exact .inl rfl
  | some path => exact .inr ⟨_, rfl⟩

theorem refused_of_endsRefused {depth : Nat} {q : Inquiry} (hq : q.Fresh)
    (h : q.EndsRefused catalog (classifyWithin catalog depth)) :
    ∃ reason, q.answer (classifyWithin catalog (depth + 1)) = .unsupported reason := by
  rw [Inquiry.answer, classifyWithin_of_fresh catalog depth hq]
  rcases h with ⟨reason, hreason⟩ | hrecorded
  · rcases leave_eq_or (q.expanded catalog (classifyWithin catalog depth)).2 q.descriptor.name
      (q.expanded catalog (classifyWithin catalog depth)).1 with heq | hleft
    · exact ⟨reason, heq.trans hreason⟩
    · exact hleft
  · obtain ⟨path, hpath⟩ := Option.isSome_iff_exists.1 hrecorded
    exact ⟨.circular path, by simp [leave, hpath]⟩

/-! ## What is found to be a variant -/

theorem isVariant_of_expand {name : String} {shape : Shape} {s : Survey}
    (h : (expand catalog f name shape s).1.IsVariant) : shape.IsVariant := by
  cases shape with
  | product | singleton => trivial
  | sum variants =>
    rcases expand_sum_answered name variants s with ⟨rs, hrs, -⟩ | ⟨reason, hreason⟩
    · rw [hrs] at h
      exact h
    · rw [hreason] at h
      exact h
  | primitive | enumeration | external | unsupported => exact h

/-- A type that is found to be a product or singleton when it is expanded has such a shape. -/
theorem isVariant_of_answer {depth : Nat} {q : Inquiry} (hq : q.Fresh)
    (h : (q.answer (classifyWithin catalog (depth + 1))).IsVariant) :
    (q.descriptor.shape q.standing).IsVariant := by
  rw [Inquiry.answer, classifyWithin_of_fresh catalog depth hq] at h
  rcases leave_eq_or (q.expanded catalog (classifyWithin catalog depth)).2 q.descriptor.name
    (q.expanded catalog (classifyWithin catalog depth)).1 with heq | ⟨reason, hreason⟩
  · rw [heq] at h
    exact isVariant_of_expand h
  · rw [hreason] at h
    cases h

/-- The name is not finished as a product or singleton. -/
def Unvaried (name : String) (s : Survey) : Prop :=
  ∀ k, s.memoized name = some k → ¬ k.IsVariant

/-- A variant with a member of a type in progress has a loop recorded for that type, if it is found
to be a product at all, and not because its name was finished as one. -/
theorem recorded_of_variant {depth : Nat} {q : Inquiry} (h : Inquiry.Ready catalog depth q)
    {name : String} {content : Product} (hd : q.descriptor = .product name content) {m : Member}
    (hm : m ∈ content.members) {e : Descriptor} (he : catalog.memberType? m = some e)
    (hstack : e.name ∈ q.survey.inProgress) (hne : e.name ≠ name)
    (hopen : Unvaried name q.survey)
    (hk : (q.answer (classifyWithin catalog depth)).IsVariant) :
    (q.after (classifyWithin catalog depth)).Recorded e.name := by
  obtain ⟨depth, rfl⟩ := Nat.exists_eq_succ_of_ne_zero h.depth_ne_zero
  have hname : q.descriptor.name = name := by rw [hd]; rfl
  cases hmemo : q.survey.memoized q.descriptor.name with
  | some k =>
    rw [Inquiry.answer, classifyWithin_of_memoized catalog depth hmemo] at hk
    exact absurd hk (hopen k (hname ▸ hmemo))
  | none =>
    by_cases hs : q.descriptor.name ∈ q.survey.inProgress
    · rw [Inquiry.answer, classifyWithin_of_inProgress catalog depth hmemo hs] at hk
      cases hk
    · have hq : q.Fresh := ⟨hmemo, hs⟩
      obtain ⟨style, members, m', hproduct, hm', he'⟩ :=
        (isVariant_of_answer hq hk).product_of_member hd hm he
      rw [Inquiry.after, classifyWithin_of_fresh catalog depth hq]
      refine (recorded_leave _ _ _ _).2 ⟨hname ▸ hne, ?_⟩
      exact recorded_of_member h hq hproduct hm' he' (List.mem_cons_of_mem _ hstack)

/-- A sum is refused before a variant is come to, or at it, or else that variant is asked for after
the ones before it, and is a product or singleton. -/
theorem exists_variantInquiry (owner : String) (pre : List Descriptor) (v : Descriptor)
    (post : List Descriptor) (s : Survey) :
    (∃ reason, (resolveVariants f owner (pre ++ v :: post) s).1 = .error reason) ∨
      ∃ q ∈ variantInquiries f owner (pre ++ v :: post) s, q.descriptor = v ∧
        (q.answer f).IsVariant ∧ ∃ qs, Trail f s qs q.survey ∧
          ∀ p ∈ qs, p ∈ variantInquiries f owner (pre ++ v :: post) s ∧ p.descriptor ∈ pre := by
  induction pre generalizing s with
  | nil =>
    simp only [List.nil_append, resolveVariants, variantInquiries]
    cases hv : variantRefusal? owner v.simpleName (f .variant v s).1 with
    | some reason => exact .inl ⟨reason, rfl⟩
    | none =>
      refine .inr ⟨_, List.mem_cons_self, rfl, isVariant_of_variantRefusal? hv, [], .nil s, ?_⟩
      simp
  | cons u pre ih =>
    simp only [List.cons_append, resolveVariants, variantInquiries]
    cases hu : variantRefusal? owner u.simpleName (f .variant u s).1 with
    | some reason => exact .inl ⟨reason, rfl⟩
    | none =>
      rcases ih (f .variant u s).2 with ⟨reason, hreason⟩ | ⟨q, hq, hqv, hk, qs, trail, hqs⟩
      · refine .inl ⟨reason, ?_⟩
        rcases hrun : resolveVariants f owner (pre ++ v :: post) (f .variant u s).2 with ⟨r | rs, t⟩
        · rw [hrun] at hreason
          cases hreason
          rfl
        · rw [hrun] at hreason
          cases hreason
      · refine .inr ⟨q, List.mem_cons_of_mem _ hq, hqv, hk, ⟨.variant, u, s⟩ :: qs,
          .cons (q := ⟨.variant, u, s⟩) trail, fun p hp => ?_⟩
        rcases List.mem_cons.1 hp with rfl | hp
        · exact ⟨List.mem_cons_self, List.mem_cons_self⟩
        · exact ⟨List.mem_cons_of_mem _ (hqs p hp).1, List.mem_cons_of_mem _ (hqs p hp).2⟩

end Survey

/-! ## The catalog of a declaration -/

namespace Declaration.Makes

variable {d : Declaration} {mentions : List Mention} {described : Descriptor} {c : Catalog}

theorem indexed (h : d.Makes mentions described c) : c.Indexed := by
  obtain ⟨added, -, rfl⟩ := h.types
  exact Catalog.indexed_ofList _

/-- Only the declared type has variants. -/
theorem variants_eq_nil (h : d.Makes mentions described c) {standing : Standing} {x : Descriptor}
    (hx : Placed c standing x) : x.variants = [] ∨ x = described := by
  induction hx with
  | @type x hx =>
    rcases h.mem_types hx with ⟨kind, rfl⟩ | ⟨f, -, m, -, rfl⟩ | rfl
    · exact .inl rfl
    · exact .inl m.members_descriptor.1
    · exact .inr rfl
  | @variant _ _ variants _ v _ hv ih =>
    rcases ih with hnone | rfl
    · have hnone : variants = [] := hnone
      rw [hnone] at hv
      cases hv
    · exact .inl ((describes_of_descriptor? h.descriptor_eq).members.2 _ hv).1

/-- What a member is, the declared type apart, is no product or singleton: a wrapper stands for its
primitive, and other types that are mentioned are not taken apart. -/
theorem not_isVariant (h : d.Makes mentions described c) {m : Member} {e : Descriptor}
    (he : c.memberType? m = some e) (hne : e.name ≠ d.name) :
    ¬ (e.shape .topLevel).IsVariant := by
  obtain ⟨hget, hwrapper⟩ := Catalog.memberType?_eq_some_iff.1 he
  have hname : e.name = m.type := h.indexed.get?_name hget
  rw [h.get?_eq, if_neg (hname ▸ hne)] at hget
  unfold Descriptor.shape
  cases hprim : Primitive.ofTypeName? e.name with
  | some kind => exact id
  | none =>
    rw [← hname, hprim, Option.map_none, Option.none_or, Option.map_eq_some_iff] at hget
    obtain ⟨mention, -, rfl⟩ := hget
    rcases mention with ⟨type, wrapped⟩
    cases hpath : type.name? with
    | none => simp [Mention.descriptor, hpath, Shape.IsVariant]
    | some name =>
      cases wrapped with
      | none => simp [Mention.descriptor, hpath, Shape.IsVariant]
      | some kind =>
        simp [Mention.descriptor, hpath, Descriptor.valueWrapper?,
          Primitive.ofTypeName?_typeName] at hwrapper

open Survey in
/-- While the declared type is in progress, a name that no variant has is not found to be a product
or singleton, and neither is that of a variant before the variant itself is asked for. -/
theorem unvaried_after (h : d.Makes mentions described c) {name : String} (hne : name ≠ d.name)
    {depth : Nat} {q : Inquiry} (hready : q.Ready c depth)
    (hplaced : Placed c q.standing q.descriptor) (hstack : d.name ∈ q.survey.inProgress)
    (hq : q.descriptor.name = name → ¬ (q.descriptor.shape q.standing).IsVariant)
    (hopen : Unvaried name q.survey) :
    Unvaried name (q.after (classifyWithin c depth)) := by
  refine classifyWithin_induction
    (P := fun _ q => Placed c q.standing q.descriptor ∧ d.name ∈ q.survey.inProgress ∧
      (q.descriptor.name = name → ¬ (q.descriptor.shape q.standing).IsVariant))
    (Q := fun q _ t => Unvaried name q.survey → Unvaried name t)
    ?finished ?closed ?expanded depth q hready ⟨hplaced, hstack, hq⟩ hopen
  case finished => exact fun _ _ _ _ _ _ hopen => hopen
  case closed => exact fun _ _ _ _ _ hopen => hopen
  case expanded =>
    rintro depth q ⟨hplaced, hstack, hq⟩ hready hfresh ih hopen
    have hdeclared : q.descriptor ≠ described := by
      rintro heq
      rw [← name_of_descriptor? h.descriptor_eq, ← heq] at hstack
      exact hfresh.2 hstack
    -- The type is not the declared one, so it has no variants: only members are asked for.
    have inside : Unvaried name (q.expanded c (classifyWithin c depth)).2 := by
      refine ((q.trail c (classifyWithin c depth)).keeps hopen fun p hp => ?_).1
      obtain ⟨-, before, -⟩ := (nested_of_ready hready hfresh).2 p hp
      have hp' := hp
      unfold Inquiry.nested inquiries at hp'
      split at hp'
      · obtain ⟨hst, m, -, he⟩ := mem_memberInquiries hp'
        refine ih p hp ⟨placed_of_mem_inquiries hplaced hp, ?_, fun hname => ?_⟩
        · rw [before.inProgress]
          exact List.mem_cons_of_mem _ hstack
        · rw [hst]
          exact h.not_isVariant he (hname ▸ hne)
      · rename_i variants hshape
        obtain ⟨-, _, _, hsum⟩ := descriptor_of_shape_sum hshape
        have hnone : variants = [] := by
          simpa [hsum, Descriptor.variants] using
            (h.variants_eq_nil hplaced).resolve_right hdeclared
        rw [hnone] at hp'
        cases hp'
      · cases hp'
    intro k hk hvariant
    rw [Inquiry.after, classifyWithin_of_fresh c depth hfresh, memoized_leave] at hk
    split at hk
    · rename_i hname
      rw [Option.some_inj] at hk
      have hanswer : q.answer (classifyWithin c (depth + 1)) = k := by
        rw [Inquiry.answer, classifyWithin_of_fresh c depth hfresh, hk]
      exact hq hname.symm (isVariant_of_answer hfresh (hanswer ▸ hvariant))
    · exact inside k hk hvariant

end Declaration.Makes

/-- What is asked first when a type is classified with nothing remembered. -/
def Inquiry.first (d : Descriptor) : Inquiry := ⟨.topLevel, d, .fresh⟩

theorem Inquiry.fresh_first (d : Descriptor) : (first d).Fresh :=
  ⟨rfl, List.not_mem_nil⟩

/-! ## Fields of the declared type -/

namespace DeclaredMember

/-- The type of the field is the type of this name, or an option of it. -/
def IsOf (f : DeclaredMember) (name : String) : Prop :=
  f.type = .path false [name] ∨ ∃ rooted segments, segments.getLast? = some "Option" ∧
    f.type = .applied rooted segments [.path false [name]]

theorem IsOf.typeName_eq {f : DeclaredMember} {name : String} (h : f.IsOf name) :
    f.typeName = name := by
  have hname : (TypeExpr.path false [name]).typeName = name := by
    simp [TypeExpr.typeName, TypeExpr.name?]
  rcases h with h | ⟨rooted, segments, hlast, h⟩
  · rw [typeName, h]
    exact hname
  · have hoption : (TypeExpr.applied rooted segments [.path false [name]]).isOptional = true := by
      simp [TypeExpr.isOptional, TypeExpr.isOneRequired, hlast]
    rw [typeName, h, TypeExpr.content, if_pos hoption]
    exact hname

end DeclaredMember

namespace Declaration

/-- A struct has a field of its own type, or an enum has one in a variant that is the first of its
name. -/
def IsRecursive (d : Declaration) : Prop :=
  match d.body with
  | .record members => ∃ f ∈ members.toList, f.IsOf d.name
  | .choice variants => ∃ before v after, variants = before ++ v :: after ∧
      (∀ u ∈ before, u.name ≠ v.name) ∧ ∃ f ∈ v.members.toList, f.IsOf d.name
  | .union => False

variable {d : Declaration} {mentions : List Mention} {described : Descriptor} {c : Catalog}

/-- Among the members that fields are lowered to is one of the type that a field is of. -/
theorem exists_member {ms : DeclaredMembers} {name : String} (h : ∃ f ∈ ms.toList, f.IsOf name) :
    ∃ m ∈ ms.members, m.type = name := by
  obtain ⟨f, hf, hown⟩ := h
  obtain ⟨m, hm, hlowered⟩ := exists_right_of_forall₂ ms.lowered_members hf
  exact ⟨m, hm, hlowered.1.trans hown.typeName_eq⟩

/-- The declared type is looked into for a member of that type. -/
theorem Makes.memberType?_eq (h : d.Makes mentions described c)
    (hw : described.valueWrapper? = none) {m : Member} (hm : m.type = d.name) :
    c.memberType? m = some described := by
  refine Catalog.memberType?_eq_some_iff.2 ⟨?_, hw⟩
  rw [h.get?_eq, if_pos hm]

theorem valueWrapper?_product (ms : DeclaredMembers) (companion : Bool) (name : String) :
    (Descriptor.product name (ms.product companion)).valueWrapper? = none := by
  unfold Descriptor.valueWrapper?
  split
  · rename_i heq
    simp [DeclaredMembers.product] at heq
  · rfl

end Declaration

theorem DeclaredVariant.descriptor_of_mem {v : DeclaredVariant} {m : Member}
    (hm : m ∈ v.members.members) (owner : String) :
    v.descriptor owner = .product (owner ++ "::" ++ v.name) (v.members.product false) := by
  rcases v with ⟨name, _ | (_ | ⟨field, fields⟩) | fields⟩
  · cases hm
  · cases hm
  · rfl
  · rfl

theorem Name.qualified_ne (owner a : String) : owner ++ "::" ++ a ≠ owner := by
  intro h
  have hlength := congrArg String.length h
  rw [String.length_append, String.length_append, show "::".length = 2 from rfl] at hlength
  omega

namespace Declaration

variable {d : Declaration} {mentions : List Mention} {described : Descriptor} {c : Catalog}
  {depth : Nat}

open Survey Planning

/-- A struct with a field of its own type is refused when it is expanded, or a loop through it is
recorded. -/
theorem Makes.endsRefused_record (h : d.Makes mentions described c) {ms : DeclaredMembers}
    (hbody : d.body = .record ms) (hown : ∃ f ∈ ms.toList, f.IsOf d.name)
    (hprim : Primitive.ofTypeName? d.name = none)
    (hready : (Inquiry.first described).Ready c (depth + 1)) :
    (Inquiry.first described).EndsRefused c (classifyWithin c depth) := by
  obtain ⟨m, hm, htype⟩ := exists_member hown
  have hdescribed : described = .product d.name (ms.product true) := by
    have heq := h.descriptor_eq
    rw [descriptor?, hbody] at heq
    cases ms with
    | unit => cases hm
    | named | positional => exact (Option.some_inj.1 heq).symm
  subst hdescribed
  have hmember := h.memberType?_eq (valueWrapper?_product ms true d.name) htype
  have refers : Refers c (.product d.name (ms.product true)) (.product d.name (ms.product true)) :=
    .member hm hmember
  rcases shape_of_refers refers hprim .topLevel with
    ⟨reason, hshape⟩ | ⟨style, members, m', hshape, hm', he⟩ | ⟨variants, hshape, -⟩
  · exact .inl ⟨reason, by simp [Inquiry.expanded, Inquiry.first, hshape, expand]⟩
  · exact .inr (recorded_of_member hready (Inquiry.fresh_first _) hshape hm' he List.mem_cons_self)
  · obtain ⟨-, _, _, hsum⟩ := descriptor_of_shape_sum hshape
    cases hsum

/-- The variants of one enum that are asked for one after another finish no name but their own as
a product or singleton. -/
theorem Makes.unvaried_trail (h : d.Makes mentions described c) {name : String}
    (hne : name ≠ d.name) {s t : Survey} {qs : List Inquiry}
    (trail : Trail (classifyWithin c depth) s qs t) (hs : Unvaried name s)
    (hqs : ∀ q ∈ qs, q.Ready c depth ∧ Placed c q.standing q.descriptor ∧
      d.name ∈ q.survey.inProgress ∧ q.descriptor.name ≠ name) : Unvaried name t := by
  refine (trail.keeps hs fun q hq hopen => ?_).1
  obtain ⟨ready, placed, stack, hother⟩ := hqs q hq
  exact h.unvaried_after hne ready placed stack (fun heq => absurd heq hother) hopen

/-- An enum with a field of its own type, in the first variant of a name, is refused when it is
expanded, or a loop through it is recorded. -/
theorem Makes.endsRefused_choice (h : d.Makes mentions described c)
    {before after : List DeclaredVariant} {v : DeclaredVariant}
    (hbody : d.body = .choice (before ++ v :: after)) (hfirst : ∀ u ∈ before, u.name ≠ v.name)
    (hown : ∃ f ∈ v.members.toList, f.IsOf d.name)
    (hprim : Primitive.ofTypeName? d.name = none)
    (hready : (Inquiry.first described).Ready c (depth + 1)) :
    (Inquiry.first described).EndsRefused c (classifyWithin c depth) := by
  obtain ⟨m, hm, htype⟩ := exists_member hown
  obtain rfl : described = .sum d.name (before.map (·.descriptor d.name) ++
      v.descriptor d.name :: after.map (·.descriptor d.name)) true := by
    have heq := h.descriptor_eq
    rw [descriptor?, hbody, Option.some_inj] at heq
    simp [← heq]
  set variants := before.map (·.descriptor d.name) ++
    v.descriptor d.name :: after.map (·.descriptor d.name) with hvariants
  have hmember := h.memberType?_eq rfl htype
  have hplaced : Placed c .topLevel (.sum d.name variants true) :=
    .of_get? (Catalog.memberType?_eq_some_iff.1 hmember).1
  have hshape : (Descriptor.sum d.name variants true).shape .topLevel = .sum variants := by
    simp [Descriptor.shape, Descriptor.name, hprim, sumShape, hvariants]
  have nested : ∀ q ∈ variantInquiries (classifyWithin c depth) d.name variants
      (fresh.enter d.name), _ := fun q hq =>
    (nested_of_ready hready (Inquiry.fresh_first _)).2 q
      (by simpa [Inquiry.nested, Inquiry.first, hshape, inquiries, Descriptor.name] using hq)
  rcases exists_variantInquiry (f := classifyWithin c depth) d.name
      (before.map (·.descriptor d.name)) (v.descriptor d.name)
      (after.map (·.descriptor d.name)) (fresh.enter d.name) with
    ⟨reason, hreason⟩ | ⟨p, hp, hpv, hk, qs, trail, hqs⟩
  · refine .inl ⟨reason, ?_⟩
    rw [← hvariants] at hreason
    simp only [Inquiry.expanded, Inquiry.first, hshape, expand, Descriptor.name]
    split <;> simp_all
  · obtain ⟨ready, hbefore, hafter⟩ := nested p hp
    have hopen : Unvaried (d.name ++ "::" ++ v.name) p.survey := by
      refine h.unvaried_trail (Name.qualified_ne _ _) trail (fun k hk => by cases hk) ?_
      intro q hq
      obtain ⟨hmem, hq⟩ := hqs q hq
      obtain ⟨ready, hbefore, -⟩ := nested q hmem
      obtain ⟨u, hu, heq⟩ := List.mem_map.1 hq
      refine ⟨ready, ?_, hbefore.inProgress ▸ List.mem_cons_self, ?_⟩
      · rw [(mem_variantInquiries hmem).1]
        exact .variant hplaced (mem_variantInquiries hmem).2
      · rw [← heq, (u.describes_descriptor d.name).name_eq, Ne, String.append_right_inj]
        exact hfirst u hu
    refine .inr (hafter.recorded (recorded_of_variant ready
      (hpv.trans (v.descriptor_of_mem hm d.name)) hm hmember ?_ ?_ hopen hk))
    · exact hbefore.inProgress ▸ List.mem_cons_self
    · exact (Name.qualified_ne d.name v.name).symm

/-- A declared type with a field of its own type is refused, or it is named like a primitive and
taken for that. -/
theorem Makes.classify_refused (h : d.Makes mentions described c) (hd : d.IsRecursive) :
    (∃ reason, (fresh.classify c described).1 = .unsupported reason) ∨
      ∃ kind, Primitive.ofTypeName? d.name = some kind ∧
        (fresh.classify c described).1 = .primitive kind := by
  obtain ⟨depth, hdepth⟩ : ∃ depth, depthBound c described = depth + 1 := ⟨_, rfl⟩
  have hready : (Inquiry.first described).Ready c (depth + 1) :=
    hdepth ▸ Idle.ready (q := Inquiry.first described) ⟨coherent_fresh, rfl⟩
  have hfresh := Inquiry.fresh_first described
  have hrun : (fresh.classify c described).1 =
      (Inquiry.first described).answer (classifyWithin c (depth + 1)) := by
    rw [← hdepth]
    rfl
  rw [hrun]
  cases hprim : Primitive.ofTypeName? d.name with
  | some kind =>
    -- Nothing is asked for a type that is named like a primitive.
    have hexpanded : ((Inquiry.first described).expanded c (classifyWithin c depth)).1 =
        .primitive kind := by
      rw [← name_of_descriptor? h.descriptor_eq] at hprim
      simp [Inquiry.expanded, Inquiry.first, Descriptor.shape, hprim, expand]
    rw [Inquiry.answer, classifyWithin_of_fresh c depth hfresh]
    rcases leave_eq_or ((Inquiry.first described).expanded c (classifyWithin c depth)).2
      described.name ((Inquiry.first described).expanded c (classifyWithin c depth)).1 with
      heq | hleft
    · exact .inr ⟨kind, rfl, heq.trans hexpanded⟩
    · exact .inl hleft
  | none =>
    refine .inl (refused_of_endsRefused hfresh ?_)
    unfold IsRecursive at hd
    cases hbody : d.body with
    | record ms =>
      rw [hbody] at hd
      exact h.endsRefused_record hbody hd hprim hready
    | choice variants =>
      rw [hbody] at hd
      obtain ⟨before, v, after, rfl, hfirst, hown⟩ := hd
      exact h.endsRefused_choice hbody hfirst hown hprim hready
    | union =>
      rw [hbody] at hd
      cases hd

/-- Functions can be attached to a declared type that has fields. -/
theorem Makes.companionOf_eq (h : d.Makes mentions described c) (hd : d.IsRecursive) :
    companionOf d.name described = .ok true := by
  have heq := h.descriptor_eq
  unfold IsRecursive at hd
  unfold descriptor? at heq
  cases hbody : d.body with
  | record ms =>
    rw [hbody] at hd heq
    cases ms with
    | unit =>
      obtain ⟨f, hf, -⟩ := hd
      cases hf
    | named | positional =>
      cases heq
      rfl
  | choice variants =>
    rw [hbody] at heq
    cases heq
    rfl
  | union =>
    rw [hbody] at hd
    cases hd

/-- Why nothing is generated for a declared type with a field of its own type. -/
inductive RefusesRecursion (d : Declaration) : DerivationError → Prop
  /-- The declaration cannot be described in the first place. -/
  | declaration {e} : RefusesRecursion d (.declaration e)
  | unsupported {reason} : RefusesRecursion d (.generation (.unsupported d.name reason))
  /-- The type is taken for the primitive that it is named like, which has no factory. -/
  | primitive {kind} : Primitive.ofTypeName? d.name = some kind →
      RefusesRecursion d (.generation (.notPlannable d.name "primitive"))

theorem Makes.generate_refused (h : d.Makes mentions described c) (hd : d.IsRecursive)
    (conf : Configuration) {r : Request} (hdir : r.directive = .factory) (htype : r.type = d.name) :
    ∃ e, c.generate conf [r] = .error e ∧ d.RefusesRecursion (.generation e) := by
  have hget : c.get? r.type = some described := by rw [h.get?_eq, if_pos htype]
  have hcompanion := h.companionOf_eq hd
  suffices planned : ∃ e, planFactory conf c r described .fresh = .error e ∧
      d.RefusesRecursion (.generation e) by
    obtain ⟨e, he, hrefuses⟩ := planned
    refine ⟨e, bind_eq_error.2 (.inl (bind_eq_error.2 (.inl ?_))), hrefuses⟩
    rw [planRequest, hget, hdir]
    exact he
  rcases h.classify_refused hd with ⟨reason, hk⟩ | ⟨kind, hprim, hk⟩
  · refine ⟨.unsupported d.name reason, ?_, .unsupported⟩
    simp [planFactory, hcompanion, bind, Except.bind, Planning.fresh, hk, htype]
  · refine ⟨.notPlannable d.name "primitive", ?_, .primitive hprim⟩
    simp [planFactory, hcompanion, bind, Except.bind, Planning.fresh, hk, htype, planType,
      Classification.kindName]

/-- A declared type with a field of that very type, or of an option of it, has no factory, whatever
its pragmas say: a struct with such a field, and an enum with one in a variant that is the first of
its name. -/
theorem derive_recursive {d : Declaration} (hd : d.IsRecursive) :
    ∃ e, d.derive = .error e ∧ d.RefusesRecursion e := by
  suffices generated : ∃ e, d.generate = .error e ∧ d.RefusesRecursion e by
    obtain ⟨e, he, hrefuses⟩ := generated
    exact ⟨e, by rw [derive, he], hrefuses⟩
  unfold generate
  cases hoptions : d.options with
  | error e => exact ⟨_, rfl, .declaration⟩
  | ok options =>
    cases hcatalog : d.catalog with
    | error e => exact ⟨_, rfl, .declaration⟩
    | ok c =>
      obtain ⟨mentions, described, makes⟩ := makes_of_catalog hcatalog
      obtain ⟨e, he, hrefuses⟩ :=
        makes.generate_refused hd options.configuration (r := options.request d.name) rfl rfl
      exact ⟨.generation e, by simp only [he, Except.mapError], hrefuses⟩

/-- A list that ends or goes on; members that cannot be edited would be left to the caller. -/
def chain : Declaration :=
  ⟨"Chain", [], [⟨"preview", some [⟨"tolerate_unsupported", none⟩]⟩],
    .choice [⟨"End", .unit⟩,
      ⟨"Link", .named [("value", ⟨.path false ["i32"], []⟩),
        ("next", ⟨.applied true ["std", "option", "Option"] [.path false ["Chain"]], []⟩)]⟩]⟩

theorem derive_recursive_chain :
    chain.IsRecursive ∧ ∃ e, chain.derive = .error e ∧ chain.RefusesRecursion e := by
  have next : DeclaredMember.IsOf
      ⟨.applied true ["std", "option", "Option"] [.path false ["Chain"]], []⟩ "Chain" :=
    .inr ⟨true, _, rfl, rfl⟩
  have recursive : chain.IsRecursive :=
    ⟨[⟨"End", .unit⟩], _, [], rfl, by simp, _, List.mem_cons_of_mem _ List.mem_cons_self, next⟩
  exact ⟨recursive, derive_recursive recursive⟩

/-! ## A later variant of the same name -/

/-- The characters of the code of a declared type's factory, where there is any. -/
def code? (d : Declaration) : Option (List Char) :=
  match d.options, d.catalog with
  | .ok o, .ok c =>
    (planRequests o.configuration c [o.request d.name] .fresh).toOption.map fun s =>
      (keptLines o.configuration.docs (s.lines o.configuration)).flatMap (·.render.toList)
  | _, _ => none

theorem generate_of_code? {d : Declaration} {cs : List Char} (h : d.code? = some cs) :
    ∃ code, d.generate = .ok code ∧ code.toList = cs := by
  unfold code? at h
  split at h
  · rename_i o c hoptions hcatalog
    cases hplanned : planRequests o.configuration c [o.request d.name] .fresh with
    | error e => simp [hplanned, Except.toOption] at h
    | ok s =>
      rw [hplanned, Except.toOption, Option.map_some, Option.some_inj] at h
      refine ⟨s.source o.configuration, ?_, ?_⟩
      · simp [generate, hoptions, hcatalog, Catalog.generate, hplanned, bind, Except.bind, pure,
          Except.pure, Except.mapError]
      · rw [source, toList_renderLines, h]
  · cases h

/-- Code that is made of tokens is what is derived. -/
theorem exists_tokens_of_code? {d : Declaration}
    (h : (d.code?.map fun cs => (Token.tokensWithin (cs.length + 1) [] cs).isSome) = some true) :
    ∃ tokens, d.derive = .ok tokens := by
  obtain ⟨cs, hcode, hsome⟩ := Option.map_eq_some_iff.1 h
  obtain ⟨tokens, htokens⟩ := Option.isSome_iff_exists.1 hsome
  obtain ⟨code, hgenerate, rfl⟩ := generate_of_code? hcode
  exact ⟨tokens, by simp only [derive, hgenerate, Token.tokens, htokens]⟩

/-- An enum with two variants of one name, of which the later one has a field of the enum. -/
def twins : Declaration :=
  ⟨"E", [], [⟨"preview",
      some [⟨"runtime", some (.text "r")⟩, ⟨"auto_label", some (.truth false)⟩]⟩],
    .choice [⟨"V", .unit⟩, ⟨"V", .positional [⟨.path false ["E"], []⟩]⟩]⟩

/-- The later variant is taken for what was found of the earlier one, and its field is not looked
at. -/
theorem exists_tokens_twins :
    (∃ f ∈ twins.fields, f.IsOf twins.name) ∧ ∃ tokens, twins.derive = .ok tokens := by
  refine ⟨⟨⟨.path false ["E"], []⟩, List.mem_cons_self, .inl rfl⟩, ?_⟩
  exact exists_tokens_of_code? (by decide +kernel)

end Declaration

end EditableFields
