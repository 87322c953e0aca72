import EditableFields.Proofs.Declaration.Lowering

/-!
# Declarations: what they are described as

What a declaration is described as, said without the functions that describe it
(`Declaration.Describes`). A list of fields makes one member for each field, in order, which is
optional exactly if the field's type is an option (`FieldMember`). An option of an option is not one
again; so of options nested in one another every other one is (`TypeExpr.IsOption`).
-/

namespace EditableFields

/-! ## Types of fields -/

namespace TypeExpr

/-- A type is an option: a path that ends in `Option` and has one argument, which is not itself such
an option. -/
def IsOption : TypeExpr → Prop
  | applied _ segments [t] => segments.getLast? = some "Option" ∧ ¬ t.IsOption
  | _ => False

theorem not_isOption {e : TypeExpr} (h : ∀ rooted segments t, e ≠ applied rooted segments [t]) :
    ¬ e.IsOption := by
  unfold IsOption
  split
  · exact absurd rfl (h _ _ _)
  · exact id

theorem isOptional_eq_true_iff (e : TypeExpr) : e.isOptional = true ↔ e.IsOption := by
  induction e using IsOption.induct with
  | case1 rooted segments t ih => simp [isOptional, isOneRequired, IsOption, ← ih]
  | case2 e hnot =>
    have hoption : ¬ e.IsOption := not_isOption fun rooted segments t heq => hnot _ _ _ heq
    cases e with
    | applied rooted segments arguments =>
      match arguments with
      | [] | _ :: _ :: _ => simp [isOptional, isOneRequired, hoption]
      | [t] => exact absurd rfl (hnot _ _ _)
    | path | reference | tuple | slice | array | associated | other => simp [isOptional, hoption]

/-- The content of an option is its argument, and that of any other type is the type itself. -/
theorem content_eq (e : TypeExpr) :
    (∃ rooted segments t, e = .applied rooted segments [t] ∧ e.IsOption ∧ e.content = t) ∨
      ¬ e.IsOption ∧ e.content = e := by
  unfold content
  split
  · rename_i rooted segments t
    by_cases h : (applied rooted segments [t]).IsOption
    · rw [if_pos ((isOptional_eq_true_iff _).2 h)]
      exact .inl ⟨rooted, segments, t, rfl, h, rfl⟩
    · rw [if_neg (mt (isOptional_eq_true_iff _).1 h)]
      exact .inr ⟨h, rfl⟩
  · rename_i hnot
    exact .inr ⟨not_isOption hnot, rfl⟩

theorem intercalate_ne_empty {separator s : String} {parts : List String} (hs : s ∈ parts)
    (hne : s ≠ "") : separator.intercalate parts ≠ "" := by
  induction parts with
  | nil => simp at hs
  | cons first rest ih =>
    cases rest with
    | nil =>
      rw [List.mem_singleton] at hs
      rwa [String.intercalate_singleton, ← hs]
    | cons second rest =>
      rw [String.intercalate_cons_cons]
      rcases List.mem_cons.1 hs with rfl | hs
      · simp [hne]
      · simp [ih hs]

/-- A type that is no plain path has a text. -/
theorem text_ne_empty {e : TypeExpr} (h : e.name? = none) : e.text ≠ "" := by
  have of_token : ∀ s ∈ e.tokens, s ≠ "" → e.text ≠ "" := fun s hs hne =>
    intercalate_ne_empty hs hne
  cases e with
  | path rooted segments =>
    cases rooted with
    | true => exact of_token "::" (by simp [tokens, pathTokens]) (by decide)
    | false => cases h
  | applied => exact of_token "<" (by simp [tokens]) (by decide)
  | reference => exact of_token "&" (by simp [tokens]) (by decide)
  | tuple | slice | array => exact of_token _ List.mem_cons_self (by simp)
  | associated => exact of_token "<" (by simp [tokens]) (by decide)
  | other tokens written => exact written

/-- An option of a function is optional, and its content is known by its tokens. -/
example :
    let e : TypeExpr := .applied false ["Option"] [.other ["fn", "(i32)"] (by decide)]
    e.isOptional = true ∧ e.content.typeName = "fn (i32)" := by decide

end TypeExpr

/-! ## What is described -/

/-- A member is that of a field: an option of a type gives an optional member of that type, any
other type a member that is not optional. -/
inductive FieldMember (f : DeclaredMember) (m : Member) : Prop
  | option {rooted segments t} : f.type = .applied rooted segments [t] → f.type.IsOption →
      m.nullable = true → m.type = t.typeName → FieldMember f m
  | required : ¬ f.type.IsOption → m.nullable = false → m.type = f.type.typeName → FieldMember f m

theorem Lowered.fieldMember {f : DeclaredMember} {m : Member} (h : Lowered f m) :
    FieldMember f m := by
  rcases f.type.content_eq with ⟨rooted, segments, t, heq, hoption, hcontent⟩ | ⟨hoption, hcontent⟩
  · refine .option heq hoption ?_ ?_
    · rw [h.2, TypeExpr.isOptional_eq_true_iff]
      exact hoption
    · rw [h.1, DeclaredMember.typeName, hcontent]
  · refine .required hoption ?_ ?_
    · rw [h.2, Bool.eq_false_iff, Ne, TypeExpr.isOptional_eq_true_iff]
      exact hoption
    · rw [h.1, DeclaredMember.typeName, hcontent]

theorem FieldMember.type_eq {f : DeclaredMember} {m : Member} (h : FieldMember f m) :
    m.type = f.typeName := by
  rw [DeclaredMember.typeName]
  rcases f.type.content_eq with ⟨rooted, segments, t, heq, hoption, hcontent⟩ | ⟨hoption, hcontent⟩
  · cases h with
    | option heq' _ _ htype =>
      rw [heq] at heq'
      cases heq'
      rw [htype, hcontent]
    | required hnot => exact absurd hoption hnot
  · cases h with
    | option _ hoption' => exact absurd hoption' hoption
    | required _ _ htype => rw [htype, hcontent]

namespace DeclaredMembers

/-- The names of the members: those of the fields, not raw, or their numbers. -/
def names : DeclaredMembers → List String
  | unit => []
  | named fields => fields.map fun f => Name.unraw f.1
  | positional fields => (List.range fields.length).map toString

theorem map_name_positionalMembers (i : Nat) (fields : List DeclaredMember) :
    (positionalMembers i fields).map (·.name) = (List.range' i fields.length).map toString := by
  induction fields generalizing i with
  | nil => rfl
  | cons f fields ih =>
    rw [positionalMembers, List.map_cons, ih, List.length_cons, List.range'_succ, List.map_cons]
    rfl

theorem map_name_members (ms : DeclaredMembers) : ms.members.map (·.name) = ms.names := by
  cases ms with
  | unit => rfl
  | named fields => simp [members, names, TypeExpr.member]
  | positional fields => rw [members, map_name_positionalMembers, names, List.range_eq_range']

/-- The content of a product is described by a list of fields: it has one member for each, in order,
and is no wrapper. -/
structure Describes (ms : DeclaredMembers) (companion : Bool) (content : Product) : Prop where
  members : List.Forall₂ FieldMember ms.toList content.members
  names : content.members.map (·.name) = ms.names
  style_eq : content.style = ms.style
  companion_eq : content.companion = companion
  value_eq : content.value = false

theorem describes_product (ms : DeclaredMembers) (companion : Bool) :
    ms.Describes companion (ms.product companion) where
  members := ms.lowered_members.imp fun _ _ => Lowered.fieldMember
  names := ms.map_name_members
  style_eq := rfl
  companion_eq := rfl
  value_eq := rfl

end DeclaredMembers

/-- What a variant is described as: a constant without fields, a bare path or an empty marker, and a
product without a companion otherwise. -/
def DeclaredVariant.Describes (owner : String) (v : DeclaredVariant) (e : Descriptor) : Prop :=
  match v.members with
  | .unit => e = .singleton (owner ++ "::" ++ v.name) true
  | .named [] => e = .singleton (owner ++ "::" ++ v.name) false
  | ms => ∃ content, e = .product (owner ++ "::" ++ v.name) content ∧ ms.Describes false content

/-- What a declaration is described as. -/
def Declaration.Describes (d : Declaration) (e : Descriptor) : Prop :=
  match d.body with
  | .record .unit => e = .singleton d.name true
  | .record ms => ∃ content, e = .product d.name content ∧ ms.Describes true content
  | .choice variants =>
    ∃ es, e = .sum d.name es true ∧ List.Forall₂ (DeclaredVariant.Describes d.name) variants es
  | .union => False

theorem DeclaredVariant.describes_descriptor (owner : String) (v : DeclaredVariant) :
    v.Describes owner (v.descriptor owner) := by
  rcases v with ⟨name, _ | (_ | ⟨field, fields⟩) | fields⟩
  · rfl
  · rfl
  · exact ⟨_, rfl, DeclaredMembers.describes_product _ false⟩
  · exact ⟨_, rfl, DeclaredMembers.describes_product _ false⟩

theorem Declaration.describes_of_descriptor? {d : Declaration} {e : Descriptor}
    (h : d.descriptor? = some e) : d.Describes e := by
  unfold descriptor? at h
  unfold Describes
  cases hbody : d.body with
  | record ms =>
    rw [hbody] at h
    cases ms <;> cases h
    · rfl
    · exact ⟨_, rfl, DeclaredMembers.describes_product _ true⟩
    · exact ⟨_, rfl, DeclaredMembers.describes_product _ true⟩
  | choice variants =>
    rw [hbody] at h
    cases h
    refine ⟨_, rfl, List.forall₂_map_right_iff.2 (List.forall₂_same.2 fun v _ => ?_)⟩
    exact v.describes_descriptor d.name
  | union =>
    rw [hbody] at h
    cases h

end EditableFields
