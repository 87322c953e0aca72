import EditableFields.Proofs.Planning.Making
import EditableFields.Proofs.Schema.Validity
import EditableFields.Proofs.Source.Closure

/-!
# Generated products: combining and splitting undo each other

What is generated for a product of a valid schema combines and splits its values by closures that
undo each other (`generate_inverse`). It rests on the accesses of members, which are their names
made usable as identifiers: names differ in a valid schema, and so do accesses, except where one
member is named by a keyword and another like the raw identifier of that keyword. A schema may have
both and is valid all the same; its code does not give back what was combined
(`exists_product_not_inverse`).
-/

namespace EditableFields

/-! ## Accesses -/

theorem toString_not_mem_keywords (i : Nat) :
    toString i ∉ Name.reservedKeywords ++ Name.rawKeywords := by
  -- A number has digits only, and no keyword does.
  have letters : (Name.reservedKeywords ++ Name.rawKeywords).all
      fun k => k.toList.any fun c => !c.isDigit := by decide +kernel
  intro hmem
  obtain ⟨c, hc, hletter⟩ := List.any_eq_true.1 (List.all_eq_true.1 letters _ hmem)
  rw [Nat.toString_eq_ofList_toDigits, String.toList_ofList] at hc
  rw [Nat.isDigit_of_mem_toDigits (by decide) (by decide) hc] at hletter
  cases hletter

theorem escape_toString (i : Nat) : Name.escape (toString i) = toString i := by
  have h := toString_not_mem_keywords i
  rw [List.mem_append, not_or] at h
  rw [Name.escape, if_neg (by simpa using h.1), if_neg (by simpa using h.2)]

/-- Different names are escaped to different identifiers, if none is reserved and none is the raw
identifier of another. -/
theorem nodup_map_escape {names : List String} (distinct : names.Nodup)
    (reserved : ∀ n ∈ names, n ∉ Name.reservedKeywords)
    (raw : ∀ n ∈ names, n ∈ Name.rawKeywords → "r#" ++ n ∉ names) :
    (names.map Name.escape).Nodup := by
  have escaped : ∀ n ∈ names, Name.escape n = if n ∈ Name.rawKeywords then "r#" ++ n else n := by
    intro n hn
    simp [Name.escape, reserved n hn]
  refine distinct.map_on fun m hm n hn heq => ?_
  rw [escaped m hm, escaped n hn] at heq
  by_cases hmk : m ∈ Name.rawKeywords
  · by_cases hnk : n ∈ Name.rawKeywords
    · rw [if_pos hmk, if_pos hnk] at heq
      exact (String.append_right_inj "r#").1 heq
    · rw [if_pos hmk, if_neg hnk] at heq
      exact absurd (heq ▸ hn) (raw m hm hmk)
  · by_cases hnk : n ∈ Name.rawKeywords
    · rw [if_neg hmk, if_pos hnk] at heq
      exact absurd (heq ▸ hm) (raw n hn hnk)
    · rwa [if_neg hmk, if_neg hnk] at heq

namespace Planning

variable {ds : List Descriptor} {c : Configuration} {requests : List Request}

/-- A planned product has the members of a declared one: each by its name, and all that is derived
from names derived from that. -/
theorem Answered.exists_product {t : Planning} (ht : Answered (.ofList ds) c requests t)
    {p : Plan} (hp : p ∈ t.inOrder) {constructor : String} {style : ConstructorStyle}
    {members : List MemberPlan} {standing : Standing}
    (hbody : p.body = .product constructor style members standing) :
    ∃ standing' content, Placed (.ofList ds) standing' (.product p.key content) ∧
      content.style = style ∧ members.map (·.label) = content.members.map (·.name) ∧
      ∀ m ∈ members, m.access = Name.escape m.label ∧ m.accessor = Name.accessor m.label := by
  obtain ⟨-, -, k, hk, hmade⟩ := ht.made _ p (ht.between.mem_inOrder.1 hp)
  cases hmade with
  | sum hbody' => rw [hbody'] at hbody; cases hbody
  | @product _ resolved plans _ hbody' hmembers _ =>
    rw [hbody', PlanBody.product.injEq] at hbody
    obtain ⟨-, rfl, rfl, -⟩ := hbody
    obtain ⟨standing', d, hd, hname, declared, hshape, mirrors⟩ := ht.mirrored _ _ hk
    obtain ⟨-, name, content, rfl, rfl, rfl⟩ := Survey.descriptor_of_shape_product hshape
    refine ⟨standing', content, hname ▸ hd, rfl, ?_, fun m hm => ?_⟩
    · -- The names of members go unchanged from the declaration to the plan.
      rw [map_eq_of_forall₂ (f := fun m : ResolvedMember Classification => m.name) hmembers]
      · exact map_eq_of_forall₂ mirrors fun m r hr => hr.name_eq
      · rintro m _ ⟨child, -, rfl⟩
        rfl
    · obtain ⟨r, -, child, -, rfl⟩ := exists_left_of_forall₂ hmembers hm
      exact ⟨rfl, rfl⟩

/-- The members of a planned product have different names, and numbers in order where its
constructor takes them by position. -/
theorem Answered.labels {t : Planning} (ht : Answered (.ofList ds) c requests t)
    (valid : checkTypes ds = .ok ()) {p : Plan} (hp : p ∈ t.inOrder) {constructor : String}
    {style : ConstructorStyle} {members : List MemberPlan} {standing : Standing}
    (hbody : p.body = .product constructor style members standing) :
    members.map (·.access) = (members.map (·.label)).map Name.escape ∧
      (members.map (·.label)).Nodup ∧
      (style = .positional →
        members.map (·.label) = (List.range members.length).map toString) := by
  obtain ⟨standing', content, hd, hstyle, hlabels, derived⟩ := ht.exists_product hp hbody
  obtain ⟨hnodup, hnumbered⟩ := members_of_check (hd.check valid)
  refine ⟨?_, hlabels ▸ hnodup, fun hpositional => ?_⟩
  · rw [List.map_map]
    exact List.map_congr_left fun m hm => (derived m hm).1
  · have hlength : content.members.length = members.length := by
      simpa using (congrArg List.length hlabels).symm
    rw [hlabels, hnumbered (hstyle.trans hpositional), hlength]

/-- Generated code for a product hands over two closures that undo each other. The closure that
splits a variant gives the members' default values for a value of another variant. -/
structure Undoes (c : Configuration) (p : Plan) (constructor : String) (style : ConstructorStyle)
    (members : List MemberPlan) (standing : Standing) : Prop where
  emitted : ∃ head, p.implementation c = head ++
    [(MemberPlan.combiner constructor style members).line] ++
    (MemberPlan.splitter constructor style members standing).lines p.value ++
    [.code 2 ")", .code 1 "\x7d", .code 0 "\x7d"]
  inverse : Inverse (MemberPlan.combiner constructor style members)
    (MemberPlan.splitter constructor style members standing) (members.map (·.access))
  foreign : standing = .variant → ∀ {V : Type} (meaning : String → V) (value : Instance V),
    value.constructor ≠ constructor →
      (MemberPlan.splitter constructor style members standing).eval meaning value =
        some (members.map fun m => meaning m.default)

/-- Combining and splitting undo each other in the code that is generated for a valid schema, for
every product and product variant without a member that is named by a reserved keyword, or like the
raw identifier of the keyword that names another member. -/
theorem generate_inverse {s : Schema} (hs : s.catalog = .ofList ds) (valid : s.check = .ok ())
    {text : String} (h : s.catalog.generate c requests = .ok text) :
    ∃ t, planRequests c s.catalog requests .fresh = .ok t ∧ text = t.source c ∧
      ∀ p ∈ t.inOrder, ∀ constructor style members standing,
        p.body = .product constructor style members standing →
        (∀ m ∈ members, m.label ∉ Name.reservedKeywords) →
        (∀ m ∈ members, m.label ∈ Name.rawKeywords →
          ∀ m' ∈ members, m'.label ≠ "r#" ++ m.label) →
        Undoes c p constructor style members standing := by
  have checked := Schema.checkTypes_of_check hs valid
  rw [hs] at h ⊢
  obtain ⟨t, ht, htext, answered⟩ := generate_answered h
  refine ⟨t, ht, htext, ?_⟩
  intro p hp constructor style members standing hbody reserved raw
  obtain ⟨haccess, hnodup, hnumbered⟩ := answered.labels checked hp hbody
  have distinct : (members.map (·.access)).Nodup := by
    rw [haccess]
    refine nodup_map_escape hnodup (List.forall_mem_map.2 reserved) ?_
    rw [List.forall_mem_map]
    intro m hm hk hmem
    obtain ⟨m', hm', hlabel⟩ := List.mem_map.1 hmem
    exact raw m hm hk m' hm' hlabel
  refine ⟨p.implementation_closures c hbody, ?_, ?_⟩
  · refine MemberPlan.inverse_closures constructor standing distinct fun hstyle => ?_
    rw [haccess, hnumbered hstyle, List.map_map, List.length_map, List.length_range]
    exact List.map_congr_left fun i _ => escape_toString i
  · rintro rfl V meaning value hne
    simp [MemberPlan.splitter, Splitter.eval, hne]

/-- Names of the members of a product; a sum has no members. -/
def labels : PlanBody → List String
  | .product _ _ members _ => members.map (·.label)
  | .sum _ => []

/-- The studio as a schema. -/
def studioSchema : Schema :=
  { Schema.empty "studio" with
    tolerant := true, catalog := .ofList studio, requests := studioRequests }

/-- The closures for a scene, for a picture in it and for the image of the picture undo each
other: no member is named by a keyword. -/
theorem generate_inverse_studio :
    studioSchema.check = .ok () ∧
      ∃ t, planRequests tolerantly studioSchema.catalog studioSchema.requests .fresh = .ok t ∧
        t.inOrder.map (·.key) = ["Scene", "Shape", "Shape::Picture", "Image"] ∧
        ∀ p ∈ t.inOrder, ∀ constructor style members standing,
          p.body = .product constructor style members standing →
          Undoes tolerantly p constructor style members standing := by
  have valid : studioSchema.check = .ok () := by decide +kernel
  have keys : (planRequests tolerantly studioSchema.catalog studioSchema.requests
      .fresh).toOption.map (fun t => t.inOrder.map (·.key)) =
        some ["Scene", "Shape", "Shape::Picture", "Image"] := by decide +kernel
  have plain : (planRequests tolerantly studioSchema.catalog studioSchema.requests
      .fresh).toOption.map (fun t => t.inOrder.all fun p => (labels p.body).all fun n =>
        n ∉ Name.reservedKeywords ++ Name.rawKeywords) = some true := by decide +kernel
  obtain ⟨text, h⟩ := exists_generate_studio
  obtain ⟨t, ht, -, undoes⟩ := generate_inverse (s := studioSchema) rfl valid h
  rw [show studioRequests = studioSchema.requests from rfl] at ht
  simp only [ht, Except.toOption, Option.map_some, Option.some_inj] at keys plain
  refine ⟨valid, t, ht, keys, ?_⟩
  intro p hp constructor style members standing hbody
  have hlabels := List.all_eq_true.1 plain p hp
  rw [hbody, labels, List.all_map] at hlabels
  have plain' : ∀ m ∈ members, m.label ∉ Name.reservedKeywords ∧ m.label ∉ Name.rawKeywords := by
    intro m hm
    simpa using List.all_eq_true.1 hlabels m hm
  exact undoes p hp constructor style members standing hbody (fun m hm => (plain' m hm).1)
    fun m hm hk => absurd hk (plain' m hm).2

/-- A product with a member named by a keyword and one named like its raw identifier. -/
def ambiguous : Schema :=
  { Schema.empty "" with
    catalog := .ofList
      [.product "P" ⟨[⟨"type", "i32", false⟩, ⟨"r#type", "i32", false⟩], .named, true, false⟩]
    requests := [.plain .factory "P"] }

/-- The members of the ambiguous product as they are planned. -/
def ambiguousMembers : List MemberPlan :=
  [⟨"type", "r#type", "type_field", .plain "i32", .leaf .int32, "0"⟩,
    ⟨"r#type", "r#type", "r#type_field", .plain "i32", .leaf .int32, "0"⟩]

def ambiguousPlan : Plan :=
  ⟨"P", "PFieldFactory", "P", .product "P" .named ambiguousMembers .topLevel, []⟩

/-- The ambiguous product is valid and generated, and no value of it is split to two different
numbers: both members are read by one access. So its closures do not undo each other. -/
theorem exists_product_not_inverse :
    ambiguous.check = .ok () ∧ ∃ text t,
      ambiguous.catalog.generate .standard ambiguous.requests = .ok text ∧
      planRequests .standard ambiguous.catalog ambiguous.requests .fresh = .ok t ∧
      ∃ p ∈ t.inOrder, ∃ members, p.body = .product "P" .named members .topLevel ∧
        members.map (·.label) = ["type", "r#type"] ∧
        (∀ value : Instance Nat, (MemberPlan.splitter "P" .named members .topLevel).eval
          (fun _ => 0) value ≠ some [0, 1]) ∧
        ¬ Inverse (MemberPlan.combiner "P" .named members)
          (MemberPlan.splitter "P" .named members .topLevel) (members.map (·.access)) := by
  have plans : (planRequests .standard ambiguous.catalog ambiguous.requests
      .fresh).toOption.map Planning.inOrder = some [ambiguousPlan] := by decide +kernel
  cases ht : planRequests .standard ambiguous.catalog ambiguous.requests .fresh with
  | error e => simp [ht, Except.toOption] at plans
  | ok t =>
    simp only [ht, Except.toOption, Option.map_some, Option.some_inj] at plans
    have stuck : ∀ value : Instance Nat,
        (MemberPlan.splitter "P" .named ambiguousMembers .topLevel).eval (fun _ => 0) value ≠
          some [0, 1] := by
      intro value h
      have reads : [value.content.read? "r#type", value.content.read? "r#type"] =
          [some 0, some 1] := mapM_eq_some_iff.1 h
      simp only [List.cons.injEq] at reads
      simp [reads.1] at reads
    refine ⟨by decide +kernel, t.source .standard, t, ?_, rfl, ambiguousPlan, by simp [plans],
      ambiguousMembers, rfl, rfl, stuck, fun hinverse => ?_⟩
    · exact bind_eq_ok.2 ⟨t, ht, rfl⟩
    · obtain ⟨value, -, -, hsplit⟩ :=
        hinverse.split_combine (fun _ : String => (0 : Nat)) [0, 1] rfl
      exact stuck value hsplit

end Planning

end EditableFields
