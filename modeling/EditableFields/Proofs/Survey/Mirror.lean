import EditableFields.Proofs.Survey.Grounded

/-!
# Surveys: classifications say what was declared

A classification that is remembered under a name is that of a type or variant of the catalog with
this name, and says of it what was declared: the same members in the same order, the same variants,
the same entries (`Mirrors`). This holds of a memory at every moment (`Mirrored`), and a
classification keeps it (`Idle.mirrored_classify`).

Only refusals say nothing of what was declared.
-/

namespace EditableFields

namespace Survey

/-- A member is resolved to a member with what was declared of it. -/
structure MirrorsMember (catalog : Catalog) (m : Member) (r : ResolvedMember Classification) :
    Prop where
  name_eq : r.name = m.name
  type_eq : r.type = m.type
  nullable_eq : r.nullable = m.nullable
  wrapper_eq : r.wrapper = (catalog.get? m.type).bind Descriptor.valueWrapper?
  /-- What is not refused is the type of the catalog that the name of the member's type means. -/
  known : r.wrapper = none → r.classification.isSupported → ∃ e, catalog.get? m.type = some e

/-- A variant is resolved to a variant with its name. -/
def MirrorsVariant (v : Descriptor) (r : ResolvedVariant Classification) : Prop :=
  r.name = v.simpleName ∧ r.type = v.name

/-- What a classification says of a type is what the type's shape is. -/
def Mirrors (catalog : Catalog) (shape : Shape) : Classification → Prop
  | .primitive kind => shape = .primitive kind
  | .enumeration entries => shape = .enumeration entries
  | .singleton valueless => shape = .singleton valueless
  | .product style rs =>
    ∃ ms, shape = .product style ms ∧ List.Forall₂ (MirrorsMember catalog) ms rs
  | .sum rs => ∃ vs, shape = .sum vs ∧ List.Forall₂ MirrorsVariant vs rs
  | .external factory => shape = .external factory
  | .unsupported _ => True

variable {catalog : Catalog} {f : Classifier}

theorem mirrorsMember_settled (m : Member) :
    MirrorsMember catalog m (settledMember catalog m) := by
  unfold settledMember
  split
  · rename_i w hw
    exact ⟨rfl, rfl, rfl, hw.symm, nofun⟩
  · rename_i hw
    exact ⟨rfl, rfl, rfl, hw.symm, nofun⟩

theorem MemberAnswered.mirrors {qs : List Inquiry} {m : Member}
    {r : ResolvedMember Classification} (h : MemberAnswered catalog f qs m r) :
    MirrorsMember catalog m r := by
  rcases h with ⟨-, rfl⟩ | ⟨q, -, -, htype, rfl⟩
  · exact mirrorsMember_settled m
  · obtain ⟨hget, hw⟩ := Catalog.memberType?_eq_some_iff.1 htype
    exact ⟨rfl, rfl, rfl, by simp [hget, hw], fun _ _ => ⟨_, hget⟩⟩

/-- What a shape is expanded to says what the shape is. -/
theorem mirrors_expand (name : String) (shape : Shape) (s : Survey) :
    Mirrors catalog shape (expand catalog f name shape s).1 := by
  cases shape with
  | product style members =>
    refine ⟨members, rfl, ?_⟩
    exact (resolveMembers_answered members s).imp fun _ _ => MemberAnswered.mirrors
  | sum variants =>
    rcases expand_sum_answered (f := f) name variants s with ⟨rs, hrun, answered⟩ | ⟨_, hrun⟩
    · rw [hrun]
      refine ⟨variants, rfl, answered.imp ?_⟩
      rintro v r ⟨q, -, -, -, -, rfl⟩
      exact ⟨rfl, rfl⟩
    · rw [hrun]
      trivial
  | primitive | enumeration | singleton | external => rfl
  | unsupported => trivial

/-- A type that is left was found to be what it was expanded to, or is refused. -/
theorem Mirrors.leave {shape : Shape} {found : Classification} (h : Mirrors catalog shape found)
    (t : Survey) (name : String) : Mirrors catalog shape (t.leave name found).1 := by
  simp only [Survey.leave]
  split
  · trivial
  · exact h

/-! ## Memories -/

/-- In a memory, each name was found to be what a type or variant of this name was declared to
be. -/
def Mirrored (catalog : Catalog) (memo : List (String × Classification)) : Prop :=
  ∀ n k, memo.lookup n = some k →
    ∃ standing d, Placed catalog standing d ∧ d.name = n ∧ Mirrors catalog (d.shape standing) k

theorem mirrored_nil : Mirrored catalog [] := by
  intro n k h
  simp at h

theorem mirrored_leave {depth : Nat} {q : Inquiry} (hq : Placed catalog q.standing q.descriptor)
    (hfresh : q.Fresh)
    (h : Mirrored catalog (q.expanded catalog (classifyWithin catalog depth)).2.memo) :
    Mirrored catalog (q.after (classifyWithin catalog (depth + 1))).memo := by
  intro n k hk
  rw [Inquiry.after, classifyWithin_of_fresh _ _ hfresh, ← memoized, memoized_leave] at hk
  split at hk
  · rename_i hn
    cases hk
    exact ⟨q.standing, q.descriptor, hq, hn.symm, (mirrors_expand _ _ _).leave _ _⟩
  · exact h n k hk

theorem Idle.mirrored_classify {s : Survey} (hs : s.Idle) (h : Mirrored catalog s.memo)
    {d : Descriptor} (hd : Placed catalog .topLevel d) :
    Mirrored catalog (s.classify catalog d).2.memo :=
  hs.memo_classify (fun _ _ hq _ => mirrored_leave hq) hd h

/-! ## What is remembered of a name -/

/-- Only a type with the name of a primitive has the shape of one, where types of primitive kind
have their own names. -/
theorem name_of_shape_primitive {standing : Standing} {d : Descriptor} {kind : Primitive}
    (named : ∀ p, d = .primitive p → p.name = p.kind.typeName)
    (h : d.shape standing = .primitive kind) : d.name = kind.typeName := by
  unfold Descriptor.shape at h
  split at h
  · rename_i kind' hprim
    cases h
    exact (Primitive.typeName_of_ofTypeName? hprim).symm
  · cases d with
    | primitive p =>
      cases h
      exact named p rfl
    | enumeration => simp only at h; split_ifs at h
    | product => simp only [productShape] at h; split_ifs at h
    | sum => simp only [sumShape] at h; split_ifs at h
    | singleton | sealed | external => cases h

theorem descriptor_of_shape_external {standing : Standing} {d : Descriptor} {factory : String}
    (h : d.shape standing = .external factory) :
    Primitive.ofTypeName? d.name = none ∧ d = .external d.name factory := by
  unfold Descriptor.shape at h
  split at h
  · cases h
  · rename_i hprim
    refine ⟨hprim, ?_⟩
    cases d with
    | external name factory' =>
      cases h
      rfl
    | enumeration => simp only at h; split_ifs at h
    | product => simp only [productShape] at h; split_ifs at h
    | sum => simp only [sumShape] at h; split_ifs at h
    | primitive | singleton | sealed => cases h

/-- A primitive is remembered under its own name, where types of primitive kind have theirs. -/
theorem Mirrored.primitive {memo : List (String × Classification)} (h : Mirrored catalog memo)
    (named : catalog.NamesPrimitives) {n : String} {kind : Primitive}
    (hk : memo.lookup n = some (.primitive kind)) : n = kind.typeName := by
  obtain ⟨standing, d, hd, rfl, hshape⟩ := h n _ hk
  exact name_of_shape_primitive (fun p hp => named standing p (hp ▸ hd)) hshape

end Survey

end EditableFields
