import EditableFields.Declaration.Mention
import EditableFields.Proofs.Catalog
import EditableFields.Proofs.Result

/-!
# Declarations: the catalog that is made

The catalog of a declaration is made in one pass over its fields, in order. The type of a field is
described when it is first mentioned, and whatever a later field says of the same type comes too
late: a name means a primitive, or the declared type itself, or what the first field that mentions
it asks for (`get?_catalog`).
-/

namespace EditableFields

/-! ## Fields and members -/

/-- The lists of fields of a declaration: a struct has one, an enum has one for each variant. -/
def Declaration.fieldLists (d : Declaration) : List DeclaredMembers :=
  match d.body with
  | .record members => [members]
  | .choice variants => variants.map (·.members)
  | .union => []

/-- The fields of a declaration in order. -/
def Declaration.fields (d : Declaration) : List DeclaredMember :=
  d.fieldLists.flatMap (·.toList)

/-- The members that the fields of a declaration are lowered to. -/
def Declaration.members (d : Declaration) : List Member :=
  d.fieldLists.flatMap (·.members)

/-- The name of the type that a field mentions. -/
def DeclaredMember.typeName (f : DeclaredMember) : String :=
  f.type.content.typeName

/-- A member is what a field is lowered to, apart from its name. -/
def Lowered (f : DeclaredMember) (m : Member) : Prop :=
  m.type = f.typeName ∧ m.nullable = f.type.isOptional

theorem lowered_positionalMembers (fs : List DeclaredMember) (i : Nat) :
    List.Forall₂ Lowered fs (DeclaredMembers.positionalMembers i fs) := by
  induction fs generalizing i with
  | nil => exact .nil
  | cons f fs ih => exact .cons ⟨rfl, rfl⟩ (ih (i + 1))

theorem DeclaredMembers.lowered_members (ms : DeclaredMembers) :
    List.Forall₂ Lowered ms.toList ms.members := by
  cases ms with
  | unit => exact .nil
  | named fields =>
    refine List.forall₂_map_left_iff.2 (List.forall₂_map_right_iff.2 ?_)
    exact List.forall₂_same.2 fun _ _ => ⟨rfl, rfl⟩
  | positional fields => exact lowered_positionalMembers fields 0

/-- Each field has one member, in order. -/
theorem Declaration.lowered_members (d : Declaration) :
    List.Forall₂ Lowered d.fields d.members := by
  unfold fields members
  induction d.fieldLists with
  | nil => exact .nil
  | cons ms rest ih => exact List.rel_append ms.lowered_members ih

/-! ## Mentions -/

/-- A field asks for a type to be described. -/
def Asks (f : DeclaredMember) (m : Mention) : Prop :=
  m.type = f.type.content ∧ Pragma.wrapped? f.pragmas = .ok m.wrapped

theorem DeclaredMember.mention_eq_ok_iff {f : DeclaredMember} {m : Mention} :
    f.mention = .ok m ↔ Asks f m := by
  rcases m with ⟨type, wrapped⟩
  unfold mention Asks
  cases Pragma.wrapped? f.pragmas <;> simp [eq_comm]

theorem DeclaredMembers.mentions_eq_ok_iff {ms : DeclaredMembers} {mentions : List Mention} :
    ms.mentions = .ok mentions ↔ List.Forall₂ Asks ms.toList mentions := by
  simp only [DeclaredMembers.mentions, mapM_eq_ok_iff, DeclaredMember.mention_eq_ok_iff]

/-- The pragmas of a field can be read. -/
def DeclaredMember.Readable (f : DeclaredMember) : Prop :=
  ∃ wrapped, Pragma.wrapped? f.pragmas = .ok wrapped

theorem DeclaredMembers.exists_mentions_iff {ms : DeclaredMembers} :
    (∃ mentions, ms.mentions = .ok mentions) ↔ ∀ f ∈ ms.toList, f.Readable := by
  simp only [DeclaredMembers.mentions, exists_mapM_eq_ok_iff, DeclaredMember.mention_eq_ok_iff]
  exact forall₂_congr fun f _ =>
    ⟨fun ⟨m, _, h⟩ => ⟨_, h⟩, fun ⟨wrapped, h⟩ => ⟨⟨_, wrapped⟩, rfl, h⟩⟩

/-- A list of fields is not a pair of parentheses with nothing in it. -/
def DeclaredMembers.Filled (ms : DeclaredMembers) : Prop :=
  ms ≠ .positional []

theorem DeclaredVariant.mentions_eq_ok_iff {v : DeclaredVariant} {mentions : List Mention} :
    v.mentions = .ok mentions ↔ v.members.Filled ∧ v.members.mentions = .ok mentions := by
  rcases v with ⟨name, members⟩
  unfold DeclaredVariant.mentions DeclaredMembers.Filled
  split
  · rename_i hempty
    cases hempty
    simp
  · rename_i hfilled
    exact ⟨fun h => ⟨hfilled, h⟩, And.right⟩

namespace Declaration

/-- What is mentioned is one type for each field, in order. -/
theorem asks_of_mentions {d : Declaration} {mentions : List Mention}
    (h : d.mentions = .ok mentions) : List.Forall₂ Asks d.fields mentions := by
  unfold Declaration.mentions at h
  unfold fields fieldLists
  cases hbody : d.body with
  | record members =>
    rw [hbody] at h
    simpa using DeclaredMembers.mentions_eq_ok_iff.1 h
  | choice variants =>
    rw [hbody] at h
    obtain ⟨lists, hlists, rfl⟩ := map_eq_ok.1 h
    rw [List.flatMap_map, List.flatMap_def]
    refine List.rel_flatten (List.forall₂_map_left_iff.2 ?_)
    refine (mapM_eq_ok_iff.1 hlists).imp fun v _ hv => ?_
    exact DeclaredMembers.mentions_eq_ok_iff.1 (v.mentions_eq_ok_iff.1 hv).2
  | union =>
    rw [hbody] at h
    cases h

/-- A declaration is a struct, or an enum of which no variant has parentheses and nothing in
them. -/
def Describable (d : Declaration) : Prop :=
  match d.body with
  | .record _ => True
  | .choice variants => ∀ v ∈ variants, v.members.Filled
  | .union => False

/-- Only the form of a declaration and the pragmas of single fields keep it from being lowered. -/
theorem exists_mentions_iff {d : Declaration} :
    (∃ mentions, d.mentions = .ok mentions) ↔ d.Describable ∧ ∀ f ∈ d.fields, f.Readable := by
  unfold Declaration.mentions Describable fields fieldLists
  cases d.body with
  | record members => simpa using DeclaredMembers.exists_mentions_iff
  | choice variants =>
    have hlists : (∃ mentions, (variants.mapM DeclaredVariant.mentions).map List.flatten =
        .ok mentions) ↔ ∀ v ∈ variants, ∃ mentions, v.mentions = .ok mentions := by
      rw [← exists_mapM_eq_ok_iff]
      exact ⟨fun ⟨_, h⟩ => let ⟨lists, hl, _⟩ := map_eq_ok.1 h; ⟨lists, hl⟩,
        fun ⟨lists, h⟩ => ⟨_, map_eq_ok.2 ⟨lists, h, rfl⟩⟩⟩
    simp only [hlists, DeclaredVariant.mentions_eq_ok_iff, exists_and_left,
      DeclaredMembers.exists_mentions_iff]
    simp only [List.mem_flatMap, List.mem_map]
    constructor
    · intro h
      refine ⟨fun v hv => (h v hv).1, ?_⟩
      rintro f ⟨_, ⟨v, hv, rfl⟩, hf⟩
      exact (h v hv).2 f hf
    · intro h v hv
      exact ⟨h.1 v hv, fun f hf => h.2 f ⟨_, ⟨v, hv, rfl⟩, hf⟩⟩
  | union => simp

end Declaration

/-! ## Look-ups -/

theorem Mention.name_descriptor (m : Mention) : m.descriptor.name = m.type.typeName := by
  rcases m with ⟨type, wrapped⟩
  unfold descriptor TypeExpr.typeName
  cases type.name? <;> cases wrapped <;> rfl

namespace Catalog

variable {c : Catalog} {owner : String}

/-- A mentioned type is described if its name means nothing yet. -/
theorem Indexed.get?_mention (h : c.Indexed) (m : Mention) (n : String) :
    (c.mention owner m).get? n =
      (c.get? n).or (if m.type.typeName = n ∧ n ≠ owner then some m.descriptor else none) := by
  unfold mention
  by_cases hn : m.type.typeName = n
  · subst hn
    by_cases howner : m.type.typeName = owner
    · simp [howner]
    · cases hget : c.get? m.type.typeName with
      | some d => simp [howner, h.has_iff.2 ⟨d, hget⟩, hget]
      | none =>
        have hhas : c.has m.type.typeName = false := by
          rw [Bool.eq_false_iff, Ne, h.has_iff, hget]
          simp
        simp [howner, hhas, h.get?_add, m.name_descriptor]
  · simp only [hn, false_and, if_false, Option.or_none]
    split
    · rfl
    · rw [h.get?_add, m.name_descriptor, if_neg (Ne.symm hn)]

theorem Indexed.mention (h : c.Indexed) (m : Mention) : (c.mention owner m).Indexed := by
  unfold Catalog.mention
  split
  · exact h
  · exact h.add _

/-- Of the mentions of one name, the first is the one that counts. -/
theorem Indexed.get?_mentions (h : c.Indexed) (mentions : List Mention) (n : String) :
    (mentions.foldl (Catalog.mention owner) c).get? n =
      (c.get? n).or (if n = owner then none
        else (mentions.find? (·.type.typeName == n)).map Mention.descriptor) := by
  induction mentions generalizing c with
  | nil => simp
  | cons m mentions ih =>
    rw [List.foldl_cons, ih (h.mention m), h.get?_mention, Option.or_assoc]
    by_cases howner : n = owner
    · simp [howner]
    · by_cases hn : m.type.typeName = n <;> simp [howner, hn]

/-- Mentioned types are described after those that are there. -/
theorem mentions_ofList (owner : String) (ds : List Descriptor) (mentions : List Mention) :
    ∃ added, (∀ d ∈ added, ∃ m ∈ mentions, d = m.descriptor) ∧
      mentions.foldl (Catalog.mention owner) (ofList ds) = ofList (ds ++ added) := by
  induction mentions generalizing ds with
  | nil => exact ⟨[], by simp, by simp⟩
  | cons m mentions ih =>
    rw [List.foldl_cons, Catalog.mention]
    split
    · obtain ⟨added, hadded, heq⟩ := ih ds
      refine ⟨added, fun d hd => ?_, heq⟩
      obtain ⟨m', hm', rfl⟩ := hadded d hd
      exact ⟨m', List.mem_cons_of_mem _ hm', rfl⟩
    · rw [ofList_add]
      obtain ⟨added, hadded, heq⟩ := ih (ds ++ [m.descriptor])
      refine ⟨m.descriptor :: added, fun d hd => ?_, by rw [heq, List.append_assoc]; rfl⟩
      rcases List.mem_cons.1 hd with rfl | hd
      · exact ⟨m, List.mem_cons_self, rfl⟩
      · obtain ⟨m', hm', rfl⟩ := hadded d hd
        exact ⟨m', List.mem_cons_of_mem _ hm', rfl⟩

end Catalog

/-! ## Catalogs of declarations -/

theorem Declaration.name_of_descriptor? {d : Declaration} {described : Descriptor}
    (h : d.descriptor? = some described) : described.name = d.name := by
  unfold descriptor? at h
  split at h <;> cases h <;> rfl

theorem Declaration.Describable.exists_descriptor {d : Declaration} (h : d.Describable) :
    ∃ described, d.descriptor? = some described := by
  unfold Describable at h
  unfold descriptor?
  split at h <;> rename_i hbody
  · rw [hbody]
    split <;> simp_all
  · simp [hbody]
  · cases h

/-- The catalog of a declaration: the types that its fields mention, and the declared type. -/
structure Declaration.Makes (d : Declaration) (mentions : List Mention) (described : Descriptor)
    (c : Catalog) : Prop where
  asks : List.Forall₂ Asks d.fields mentions
  descriptor_eq : d.descriptor? = some described
  /-- The declared type comes last, and before it only types that are mentioned. -/
  types : ∃ added, (∀ x ∈ added, ∃ m ∈ mentions, x = m.descriptor) ∧
    c = .ofList (added ++ [described])
  get?_eq : ∀ n, c.get? n = if n = d.name then some described
    else ((Primitive.ofTypeName? n).map fun kind => .primitive kind.named).or
      ((mentions.find? (·.type.typeName == n)).map Mention.descriptor)

theorem Declaration.makes_of_catalog {d : Declaration} {c : Catalog} (h : d.catalog = .ok c) :
    ∃ mentions described, d.Makes mentions described c := by
  unfold catalog at h
  split at h
  · cases h
  · rename_i mentions hmentions
    cases h
    obtain ⟨described, hdescribed⟩ := (exists_mentions_iff.1 ⟨_, hmentions⟩).1.exists_descriptor
    obtain ⟨added, hadded, hlast⟩ : ∃ added, (∀ x ∈ added, ∃ m ∈ mentions, x = m.descriptor) ∧
        mentions.foldl (Catalog.mention d.name) .primitives = .ofList added :=
      Catalog.mentions_ofList d.name [] mentions
    have hindexed : (mentions.foldl (Catalog.mention d.name) .primitives).Indexed :=
      hlast ▸ Catalog.indexed_ofList added
    rw [hdescribed, Option.elim_some]
    refine ⟨mentions, described, asks_of_mentions hmentions, hdescribed, ⟨added, hadded, ?_⟩, ?_⟩
    · rw [hlast, Catalog.ofList_add]
    · intro n
      rw [hindexed.get?_add, name_of_descriptor? hdescribed]
      by_cases hn : n = d.name
      · rw [if_pos hn, if_pos hn]
      · rw [if_neg hn, if_neg hn, Catalog.indexed_primitives.get?_mentions, if_neg hn,
          Catalog.get?_primitives]

end EditableFields
