import EditableFields.Proofs.Declaration.Described
import EditableFields.Proofs.Schema.Validity
import EditableFields.Proofs.Survey.Resolved

/-!
# Declarations: the catalog is valid and closed

Nothing checks the catalog that is made for a declaration, and nothing needs to: every type in it
would pass (`Makes.check`), and what a member's type is called means something in it
(`Makes.closed`), so no classification is refused for a name that means nothing. This takes what
is true of any declaration that is well written: names are not empty and differ where they stand
side by side (`WellWritten`).
-/

namespace EditableFields

/-- Names are not empty, and the names of fields and variants differ. A raw name is the same as the
name behind it. -/
structure Declaration.WellWritten (d : Declaration) : Prop where
  name_ne : d.name ≠ ""
  path_ne : ∀ f ∈ d.fields, f.type.content.name? ≠ some ""
  fields_nodup : ∀ fields, .named fields ∈ d.fieldLists →
    (fields.map fun f => Name.unraw f.1).Nodup
  variants_nodup : ∀ variants, d.body = .choice variants → (variants.map (·.name)).Nodup

theorem Declaration.WellWritten.names_nodup {d : Declaration} (h : d.WellWritten)
    {ms : DeclaredMembers} (hms : ms ∈ d.fieldLists) : ms.names.Nodup := by
  cases ms with
  | unit => exact List.nodup_nil
  | named fields => exact h.fields_nodup fields hms
  | positional fields => exact List.nodup_range.map_on fun i _ j _ => toString_inj

/-! ## Every type passes the check -/

theorem check_product {name : String} {content : Product} (hname : name ≠ "")
    (h : checkMembers name content.style [] 0 content.members = .ok ()) :
    (Descriptor.product name content).check = .ok () := by
  simpa [Descriptor.check, Descriptor.name, hname] using h

theorem Mention.check_descriptor {m : Mention} (h : m.type.name? ≠ some "") :
    m.descriptor.check = .ok () := by
  rcases m with ⟨type, wrapped⟩
  unfold descriptor
  dsimp only at h ⊢
  cases hname : type.name? with
  | none => simp [Descriptor.check, Descriptor.name, TypeExpr.text_ne_empty hname]
  | some name =>
    have hne : name ≠ "" := fun heq => h (heq ▸ hname)
    cases wrapped with
    | none => simp [Descriptor.check, Descriptor.name, hne]
    | some p => exact check_product hne rfl

/-- The members of a list of fields pass the check. -/
theorem DeclaredMembers.Describes.checkMembers {ms : DeclaredMembers} {companion : Bool}
    {content : Product} (h : ms.Describes companion content) (distinct : ms.names.Nodup)
    (owner : String) : checkMembers owner content.style [] 0 content.members = .ok () := by
  refine checkMembers_eq_ok_iff.2 ⟨by rwa [h.names], by simp, fun hstyle => ?_⟩
  rw [h.style_eq] at hstyle
  cases ms with
  | unit | named => cases hstyle
  | positional fields =>
    have hlength := h.members.length_eq
    rw [h.names, ← hlength, ← List.range_eq_range']
    rfl

namespace DeclaredVariant.Describes

variable {owner : String} {v : DeclaredVariant} {e : Descriptor}

theorem name_eq (h : v.Describes owner e) : e.name = owner ++ "::" ++ v.name := by
  unfold DeclaredVariant.Describes at h
  split at h
  · rw [h]
    rfl
  · rw [h]
    rfl
  · obtain ⟨content, rfl, -⟩ := h
    rfl

theorem check (h : v.Describes owner e) (distinct : v.members.names.Nodup) :
    e.check = .ok () := by
  have hne : owner ++ "::" ++ v.name ≠ "" := by simp
  unfold DeclaredVariant.Describes at h
  split at h
  · simp [h, Descriptor.check, Descriptor.name]
  · simp [h, Descriptor.check, Descriptor.name]
  · obtain ⟨content, rfl, hcontent⟩ := h
    exact check_product hne (hcontent.checkMembers distinct _)

end DeclaredVariant.Describes

/-- What a declaration is described as passes the check. -/
theorem Declaration.Describes.check {d : Declaration} {e : Descriptor} (h : d.Describes e)
    (hd : d.WellWritten) : e.check = .ok () := by
  have hlists : ∀ ms ∈ d.fieldLists, ms.names.Nodup := fun ms => hd.names_nodup
  unfold Describes at h
  unfold fieldLists at hlists
  cases hbody : d.body with
  | record ms =>
    rw [hbody] at h hlists
    have distinct : ms.names.Nodup := hlists ms (List.mem_singleton.2 rfl)
    cases ms with
    | unit => simp [h, Descriptor.check, Descriptor.name, hd.name_ne]
    | named | positional =>
      obtain ⟨content, rfl, hcontent⟩ := h
      exact check_product hd.name_ne (hcontent.checkMembers distinct _)
  | choice variants =>
    rw [hbody] at h hlists
    obtain ⟨es, rfl, hes⟩ := h
    have hnames : es.map Descriptor.name = (variants.map (·.name)).map (d.name ++ "::" ++ ·) := by
      rw [List.map_map]
      exact map_eq_of_forall₂ hes fun v e he => he.name_eq
    have distinct : (es.map Descriptor.name).Nodup := by
      rw [hnames]
      exact (hd.variants_nodup variants hbody).map fun a b hab => (String.append_right_inj _).1 hab
    have passes : checkVariants d.name [] es = .ok () := by
      refine checkVariants_eq_ok_iff.2 ⟨distinct, by simp, fun e he => ?_⟩
      obtain ⟨v, hv, hve⟩ := exists_left_of_forall₂ hes he
      exact hve.check (hlists _ (List.mem_map.2 ⟨v, hv, rfl⟩))
    simpa [Descriptor.check, Descriptor.name, hd.name_ne] using passes
  | union =>
    rw [hbody] at h
    cases h

namespace Declaration.Makes

variable {d : Declaration} {mentions : List Mention} {described : Descriptor} {c : Catalog}

/-- Every type of the catalog is a primitive, or is mentioned, or is the declared one. -/
theorem mem_types (h : d.Makes mentions described c) {x : Descriptor} (hx : x ∈ c.types) :
    (∃ kind : Primitive, x = .primitive kind) ∨
      (∃ f ∈ d.fields, ∃ m, Asks f m ∧ x = m.descriptor) ∨ x = described := by
  obtain ⟨added, hadded, rfl⟩ := h.types
  rw [Catalog.types_ofList, List.mem_append, List.mem_append, List.mem_singleton] at hx
  rcases hx with hx | hx | hx
  · obtain ⟨kind, -, rfl⟩ := List.mem_map.1 hx
    exact .inl ⟨kind, rfl⟩
  · obtain ⟨m, hm, rfl⟩ := hadded x hx
    obtain ⟨f, hf, hasks⟩ := exists_left_of_forall₂ h.asks hm
    exact .inr (.inl ⟨f, hf, m, hasks, rfl⟩)
  · exact .inr (.inr hx)

theorem check (h : d.Makes mentions described c) (hd : d.WellWritten) :
    ∀ x ∈ c.types, x.check = .ok () := by
  intro x hx
  rcases h.mem_types hx with ⟨kind, rfl⟩ | ⟨f, hf, m, hasks, rfl⟩ | rfl
  · exact check_primitive kind
  · exact Mention.check_descriptor (by rw [hasks.1]; exact hd.path_ne f hf)
  · exact (describes_of_descriptor? h.descriptor_eq).check hd

/-! ## Every name means something -/

theorem get?_primitive (h : d.Makes mentions described c) (kind : Primitive) :
    ∃ e, c.get? kind.typeName = some e := by
  rw [h.get?_eq, Primitive.ofTypeName?_typeName]
  split
  · exact ⟨_, rfl⟩
  · exact ⟨_, rfl⟩

/-- The name of a field's type means the declared type, or a primitive, or what was mentioned. -/
theorem get?_field (h : d.Makes mentions described c) {f : DeclaredMember} (hf : f ∈ d.fields) :
    ∃ e, c.get? f.typeName = some e := by
  obtain ⟨m, hm, hasks⟩ := exists_right_of_forall₂ h.asks hf
  have hname : m.type.typeName = f.typeName := by
    rw [hasks.1]
    rfl
  rw [h.get?_eq]
  split
  · exact ⟨_, rfl⟩
  · cases Primitive.ofTypeName? f.typeName with
    | some kind => exact ⟨_, rfl⟩
    | none =>
      cases hfind : mentions.find? (·.type.typeName == f.typeName) with
      | some first => exact ⟨_, rfl⟩
      | none => simpa [hname] using List.find?_eq_none.1 hfind m hm

end Declaration.Makes

theorem DeclaredVariant.Describes.members {owner : String} {v : DeclaredVariant} {e : Descriptor}
    (h : v.Describes owner e) :
    e.variants = [] ∧ ∀ m ∈ e.members, ∃ f ∈ v.members.toList, FieldMember f m := by
  unfold DeclaredVariant.Describes at h
  split at h
  · subst h
    exact ⟨rfl, nofun⟩
  · subst h
    exact ⟨rfl, nofun⟩
  · obtain ⟨content, rfl, hcontent⟩ := h
    exact ⟨rfl, fun m hm => exists_left_of_forall₂ hcontent.members hm⟩

/-- All members of what a declaration is described as are those of fields, those of variants
included, and variants have no variants. -/
theorem Declaration.Describes.members {d : Declaration} {e : Descriptor} (h : d.Describes e) :
    (∀ m ∈ e.members, ∃ f ∈ d.fields, FieldMember f m) ∧
      ∀ v ∈ e.variants, v.variants = [] ∧ ∀ m ∈ v.members, ∃ f ∈ d.fields, FieldMember f m := by
  unfold Describes at h
  unfold fields fieldLists
  cases hbody : d.body with
  | record ms =>
    rw [hbody] at h
    cases ms with
    | unit =>
      subst h
      exact ⟨nofun, nofun⟩
    | named | positional =>
      obtain ⟨content, rfl, hcontent⟩ := h
      refine ⟨fun m hm => ?_, nofun⟩
      simpa using exists_left_of_forall₂ hcontent.members hm
  | choice variants =>
    rw [hbody] at h
    obtain ⟨es, rfl, hes⟩ := h
    refine ⟨nofun, fun e he => ?_⟩
    obtain ⟨v, hv, hve⟩ := exists_left_of_forall₂ hes he
    refine ⟨hve.members.1, fun m hm => ?_⟩
    obtain ⟨f, hf, hfm⟩ := hve.members.2 m hm
    exact ⟨f, List.mem_flatMap.2 ⟨_, List.mem_map.2 ⟨v, hv, rfl⟩, hf⟩, hfm⟩
  | union =>
    rw [hbody] at h
    cases h

/-- Only a wrapper has members, and its one member is a primitive. -/
theorem Mention.members_descriptor (m : Mention) :
    m.descriptor.variants = [] ∧
      ∀ x ∈ m.descriptor.members, ∃ kind : Primitive, x.type = kind.typeName := by
  rcases m with ⟨type, wrapped⟩
  unfold descriptor
  cases type.name? with
  | none => exact ⟨rfl, nofun⟩
  | some name =>
    cases wrapped with
    | none => exact ⟨rfl, nofun⟩
    | some p =>
      refine ⟨rfl, fun x hx => ⟨p, ?_⟩⟩
      rw [List.mem_singleton.1 hx]

theorem Declaration.Makes.closed {d : Declaration} {mentions : List Mention}
    {described : Descriptor} {c : Catalog} (h : d.Makes mentions described c) : c.Closed := by
  obtain ⟨hown, hvariants⟩ := (describes_of_descriptor? h.descriptor_eq).members
  have resolves : ∀ m : Member, (∃ f ∈ d.fields, FieldMember f m) →
      ∃ e, c.get? m.type = some e := by
    rintro m ⟨f, hf, hm⟩
    rw [hm.type_eq]
    exact h.get?_field hf
  -- Variants have to be known of before they are come to.
  suffices all : ∀ standing x, Placed c standing x →
      (∀ m ∈ x.members, ∃ e, c.get? m.type = some e) ∧
        ∀ v ∈ x.variants, v.variants = [] ∧ ∀ m ∈ v.members, ∃ e, c.get? m.type = some e from
    fun standing x hx => (all standing x hx).1
  intro standing x hx
  induction hx with
  | @type x hx =>
    rcases h.mem_types hx with ⟨kind, rfl⟩ | ⟨f, hf, m, hasks, rfl⟩ | rfl
    · exact ⟨nofun, nofun⟩
    · refine ⟨fun x hx => ?_, by simp [m.members_descriptor.1]⟩
      obtain ⟨kind, hkind⟩ := m.members_descriptor.2 x hx
      rw [hkind]
      exact h.get?_primitive kind
    · exact ⟨fun m hm => resolves m (hown m hm), fun v hv =>
        ⟨(hvariants v hv).1, fun m hm => resolves m ((hvariants v hv).2 m hm)⟩⟩
  | variant _ hv ih =>
    obtain ⟨hnone, hmembers⟩ := ih.2 _ hv
    exact ⟨hmembers, by simp [hnone]⟩

/-! ## The catalog of a declaration -/

/-- The catalog of a declaration that is well written is valid: every type in it passes the check.
The declared type is described in it as it is written, and the type of every member means something
in it. So whatever types of the catalog are classified, in whatever order, nothing is refused
because its name is unknown. -/
theorem Declaration.catalog_valid {d : Declaration} {c : Catalog} (h : d.catalog = .ok c)
    (hd : d.WellWritten) :
    (∀ x ∈ c.types, x.check = .ok ()) ∧
      (∃ described, c.get? d.name = some described ∧ d.Describes described) ∧ c.Closed ∧
      ∀ calls : List Survey.Call, (∀ call ∈ calls, call.OfCatalog c) →
        (Survey.history c calls).Remembers Classification.Resolved ∧
        ∀ n e, c.get? n = some e →
          ((Survey.Call.name n).answer c (Survey.history c calls)).Resolved := by
  obtain ⟨mentions, described, makes⟩ := makes_of_catalog h
  have hget : c.get? d.name = some described := by rw [makes.get?_eq, if_pos rfl]
  exact ⟨makes.check hd, ⟨described, hget, describes_of_descriptor? makes.descriptor_eq⟩,
    makes.closed, fun _ hcalls => makes.closed.resolved_history hcalls⟩

/-- An enum with variants of every form, and with options of several types. -/
def drawing : Declaration :=
  ⟨"Drawing", [], [], .choice [
    ⟨"Dot", .unit⟩,
    ⟨"Mark", .named []⟩,
    ⟨"Circle", .named [
      ("radius", ⟨.path false ["f64"], []⟩),
      ("r#type", ⟨.applied false ["Option"] [.path false ["String"]], []⟩)]⟩,
    ⟨"Group", .positional [
      ⟨.path false ["Drawing"], []⟩,
      ⟨.applied false ["Option"] [.applied false ["Option"] [.path false ["geo", "Point"]]], []⟩]⟩]⟩

theorem wellWritten_drawing : drawing.WellWritten where
  name_ne := by decide
  path_ne := by decide
  fields_nodup := by
    intro fields hfields
    simp only [Declaration.fieldLists, drawing, List.map_cons, List.map_nil, List.mem_cons,
      reduceCtorEq, DeclaredMembers.named.injEq, List.not_mem_nil, or_false, false_or] at hfields
    rcases hfields with rfl | rfl <;> decide
  variants_nodup := by
    intro variants hvariants
    cases hvariants
    decide

theorem Declaration.catalog_valid_drawing :
    drawing.WellWritten ∧ ∃ c, drawing.catalog = .ok c ∧ (∀ x ∈ c.types, x.check = .ok ()) ∧
      c.Closed ∧ ∃ described, c.get? "Drawing" = some described ∧ drawing.Describes described := by
  obtain ⟨valid, described, closed, -⟩ := catalog_valid (d := drawing) rfl wellWritten_drawing
  exact ⟨wellWritten_drawing, _, rfl, valid, closed, described⟩

end EditableFields
