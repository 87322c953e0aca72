import EditableFields.Factory.Planning
import EditableFields.Proofs.Declaration.Lowering

/-!
# Declarations: fields that say what their type wraps

A field can say that its type wraps a primitive. The type is then described as such a wrapper if
the field is the first one to mention the type, or the first one says the same; what an earlier
field said of the type stays (`catalog_wraps_iff`). No catalog is refused because two fields of a
declaration disagree. In `account` the first field of a type says nothing of it, and the second one
says in vain what it wraps.
-/

namespace EditableFields

/-- The type of a member is a tuple of one primitive in a catalog. -/
def Member.Wraps (c : Catalog) (m : Member) (p : Primitive) : Prop :=
  (c.get? m.type).bind Descriptor.valueWrapper? = some ⟨p, "0", .positional⟩

/-- A member whose type is a wrapper has a factory that transforms its primitive's, in any survey
and at any point of the planning. -/
theorem Member.Wraps.memberFactory {c : Catalog} {m : Member} {p : Primitive} (h : m.Wraps c p)
    (f : Survey.Classifier) (s : Survey) (conf : Configuration) (owner : String)
    (receiver : Receiver) (t : Planning) :
    ∃ child, Planning.memberFactory conf owner receiver (Survey.resolveMember c f m s).1 t =
        .ok (child, t) ∧
      child.type = if m.nullable then .optional (.transform (.leaf p) m.type p) m.type
        else .transform (.leaf p) m.type p := by
  have hresolved : (Survey.resolveMember c f m s).1 =
      ⟨m.name, m.type, m.nullable, some ⟨p, "0", .positional⟩, .primitive p⟩ := by
    unfold Wraps at h
    simp only [Survey.resolveMember, h]
  rw [hresolved]
  rcases m with ⟨name, type, _ | _⟩
  · exact ⟨_, rfl, rfl⟩
  · exact ⟨_, rfl, rfl⟩

/-- A mentioned type is described as a wrapper if it is a plain path that is said to be one. -/
theorem Mention.valueWrapper?_eq_some_iff (m : Mention) (p : Primitive) :
    m.descriptor.valueWrapper? = some ⟨p, "0", .positional⟩ ↔
      m.type.name? = some m.type.typeName ∧ m.wrapped = some p := by
  rcases m with ⟨type, wrapped⟩
  unfold descriptor TypeExpr.typeName
  cases type.name? with
  | none => simp [Descriptor.valueWrapper?]
  | some name =>
    cases wrapped with
    | none => simp [Descriptor.valueWrapper?]
    | some q => simp [Descriptor.valueWrapper?, Primitive.ofTypeName?_typeName]

/-- The first of the mentions is that of the first of the fields. -/
theorem find?_of_asks {fields : List DeclaredMember} {mentions : List Mention}
    (h : List.Forall₂ Asks fields mentions) (name : String) :
    Option.Rel Asks (fields.find? (·.typeName == name))
      (mentions.find? (·.type.typeName == name)) := by
  induction h with
  | nil => exact .none
  | @cons f m _ _ hfm _ ih =>
    have hname : f.typeName = m.type.typeName := by rw [hfm.1]; rfl
    by_cases hm : m.type.typeName = name
    · simpa [List.find?_cons, hname, hm] using hfm
    · simpa [List.find?_cons, hname, hm] using ih

namespace Declaration

/-- A declaration is lowered unless its form or the pragmas of a single field are wrong. -/
theorem exists_catalog_iff {d : Declaration} :
    (∃ c, d.catalog = .ok c) ↔ d.Describable ∧ ∀ f ∈ d.fields, f.Readable := by
  rw [← exists_mentions_iff]
  unfold catalog
  cases d.mentions <;> simp

/-- The type of a member, where a field has a plain path that is no primitive's and not the
declared type's own, wraps a primitive exactly if the first field that mentions the type says so.
What fields say of their types does not keep a declaration from being lowered, as long as each of
them can be read. -/
theorem catalog_wraps_iff (d : Declaration) :
    ((∃ c, d.catalog = .ok c) ↔ d.Describable ∧ ∀ f ∈ d.fields, f.Readable) ∧
    ∀ c, d.catalog = .ok c → ∀ f m, (f, m) ∈ d.fields.zip d.members →
      ∀ name, f.type.content.name? = some name → Primitive.ofTypeName? name = none →
        name ≠ d.name → ∀ p, m.Wraps c p ↔
          ∃ first, d.fields.find? (·.typeName == name) = some first ∧
            first.type.content.name? = some name ∧
            Pragma.wrapped? first.pragmas = .ok (some p) := by
  refine ⟨exists_catalog_iff, ?_⟩
  intro c hc f m hfm name hname hprim howner p
  obtain ⟨mentions, described, makes⟩ := makes_of_catalog hc
  have htype : m.type = name := by
    rw [((List.forall₂_iff_zip.1 d.lowered_members).2 hfm).1, DeclaredMember.typeName,
      TypeExpr.typeName, hname]
    rfl
  have hget : c.get? name =
      (mentions.find? (·.type.typeName == name)).map Mention.descriptor := by
    rw [makes.get?_eq, if_neg howner, hprim]
    rfl
  have hfirst := find?_of_asks makes.asks name
  rw [Member.Wraps, htype, hget]
  generalize d.fields.find? (·.typeName == name) = field? at hfirst ⊢
  generalize hmention : mentions.find? (·.type.typeName == name) = mention? at hfirst ⊢
  cases hfirst with
  | none => simp
  | @some first mention hasks =>
    have hsame : mention.type.typeName = name := by simpa using List.find?_some hmention
    rw [Option.map_some, Option.bind_some, mention.valueWrapper?_eq_some_iff, hsame, hasks.1]
    simp [hasks.2]

/-- A field that says nothing of its type. -/
def silent : DeclaredMember := ⟨.path false ["UserId"], []⟩

/-- A field that says what the same type wraps. -/
def marked : DeclaredMember :=
  ⟨.path false ["UserId"], [⟨"preview", some [⟨"value", some (.text "i64")⟩]⟩]⟩

/-- A struct in which the field that says more comes first. -/
def ledger : Declaration :=
  ⟨"Ledger", [], [], .record (.named [("a", marked), ("b", silent)])⟩

theorem catalog_wraps_iff_ledger :
    ∃ c, ledger.catalog = .ok c ∧
      (marked, ⟨"a", "UserId", false⟩) ∈ ledger.fields.zip ledger.members ∧
      Pragma.wrapped? marked.pragmas = .ok (some .int64) ∧
      Member.Wraps c ⟨"a", "UserId", false⟩ .int64 := by
  have hmem : (marked, ⟨"a", "UserId", false⟩) ∈ ledger.fields.zip ledger.members := .head _
  refine ⟨_, rfl, hmem, by decide, ?_⟩
  exact ((catalog_wraps_iff ledger).2 _ rfl _ _ hmem "UserId" rfl (by decide) (by decide) .int64).2
    ⟨marked, rfl, rfl, by decide⟩

/-- A struct in which the field that says more comes second. -/
def account : Declaration :=
  ⟨"Account", [], [], .record (.named [("a", silent), ("b", marked)])⟩

/-- What a field says that its type wraps can count for nothing. -/
theorem exists_mark_ignored :
    ∃ c, account.catalog = .ok c ∧
      (marked, ⟨"b", "UserId", false⟩) ∈ account.fields.zip account.members ∧
      marked.type.content.name? = some "UserId" ∧ Primitive.ofTypeName? "UserId" = none ∧
      "UserId" ≠ account.name ∧ Pragma.wrapped? marked.pragmas = .ok (some .int64) ∧
      ¬ Member.Wraps c ⟨"b", "UserId", false⟩ .int64 :=
  ⟨_, rfl, .tail _ (.head _), rfl, by decide, by decide, by decide, nofun⟩

end Declaration

end EditableFields
