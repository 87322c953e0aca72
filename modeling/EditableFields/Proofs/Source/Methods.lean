import EditableFields.Proofs.Name.Snake
import EditableFields.Proofs.Source.Inverse

/-!
# Methods of generated factories

A generated factory has the methods that its parts call for: a constructor if it holds something,
and for each member, or for each variant with members, a method that returns its factory
(`declares_methods`). A method is named by the stem of its part's name, which is the name in snake
case. A schema is checked for repeated names as they are declared, and their stems are not compared
again, so two methods have one name exactly if two parts have names of one stem
(`generate_methods_nodup`). A schema with such parts is valid and its code is generated
(`exists_methods_not_nodup`).
-/

namespace EditableFields

/-! ## Stems of names -/

namespace Name

/-- The characters of names that are in snake case already. -/
def plainCharacters : List Char :=
  "abcdefghijklmnopqrstuvwxyz0123456789_".toList

/-- Whether a name is in snake case and does not begin with a digit. -/
def isPlain (name : String) : Bool :=
  name.toList.all plainCharacters.contains && !name.toList.head?.any Char.isDigit

theorem unchanged_of_plain : ∀ c ∈ plainCharacters, Unchanged c := by
  have letters : ∀ c ∈ plainCharacters, c.toNat < 128 ∧ c ∈ image c :=
    Text.forall_mem_of_all (by decide +kernel)
  exact fun c hc => unchanged_of_mem_image (letters c hc).1 (letters c hc).2

/-- A plain name is its own stem. -/
theorem memberStem_of_plain {name : String} (h : isPlain name) : memberStem name = name := by
  rw [isPlain, Bool.and_eq_true, List.all_eq_true] at h
  have unchanged : ∀ c ∈ name.toList, Unchanged c := fun c hc =>
    unchanged_of_plain c (List.contains_iff_mem.1 (h.1 c hc))
  rw [memberStem, if_neg (by simpa using h.2), snake, snakeFrom_of_unchanged unchanged,
    String.ofList_toList]

/-- The stem of a number begins with a letter. -/
theorem memberStem_toString (i : Nat) : memberStem (toString i) = "item_" ++ toString i := by
  rw [memberStem, if_pos]
  have hdigits : (toString i).toList = Nat.toDigits 10 i := by
    rw [Nat.toString_eq_ofList_toDigits, String.toList_ofList]
  cases hcs : Nat.toDigits 10 i with
  | nil => exact absurd hcs (Nat.toDigits_ne_nil)
  | cons c cs =>
    rw [hdigits, hcs]
    exact Nat.isDigit_of_mem_toDigits (by decide) (by decide) (hcs ▸ List.mem_cons_self)

/-- Accessors have one name if their stems are one. -/
theorem accessor_inj {m n : String} : accessor m = accessor n ↔ memberStem m = memberStem n :=
  String.append_left_inj "_field"

/-- No accessor is named like the constructor. -/
theorem accessor_ne_new (member : String) : accessor member ≠ "new" := by
  intro h
  have hlength := congrArg String.length h
  rw [accessor, String.length_append] at hlength
  have hsuffix : "_field".length = 6 := by decide
  have hnew : "new".length = 3 := by decide
  omega

end Name

/-! ## Names of methods -/

/-- A method declares a public function of a name. -/
def Declares (name : String) (method : List Line) : Prop :=
  ∃ rest, Line.code 1 ("pub fn " ++ name ++ "(" ++ rest) ∈ method

/-- Names of the methods that return the factories of members, or of variants with members. -/
def PlanBody.accessors : PlanBody → List String
  | product _ _ members _ => members.map (·.accessor)
  | sum variants => variants.filterMap (·.accessor)

/-- Names of the methods of a factory. -/
def Plan.methodNames (p : Plan) : List String :=
  (if p.held.isEmpty then [] else ["new"]) ++ p.body.accessors

theorem declares_accessorLines (c : Configuration) (name subject : String)
    (child : ChildFactory) : Declares name (accessorLines c name subject child) := by
  refine ⟨"&self) -> " ++ child.type.text c ++ " \x7b", ?_⟩
  have hopen : "(&self) -> " = "(" ++ "&self) -> " := by decide
  simp only [accessorLines, hopen, String.append_assoc, List.mem_cons, true_or, or_true]

theorem declares_constructorMethod (c : Configuration) (p : Plan) :
    Declares "new" (p.constructorMethod c) := by
  refine ⟨String.intercalate ", " (p.held.map fun h => h.name ++ ": " ++ h.type.text c) ++
    ") -> Self \x7b", ?_⟩
  simp [Plan.constructorMethod, Line.code, String.append_assoc]

theorem declares_variants (c : Configuration) (variants : List VariantPlan) :
    List.Forall₂ Declares (variants.filterMap (·.accessor))
      (variants.filterMap (·.accessorMethod? c)) := by
  induction variants with
  | nil => exact .nil
  | cons v vs ih =>
    cases haccessor : v.accessor with
    | none => simpa [VariantPlan.accessorMethod?, haccessor] using ih
    | some name =>
      have hmethod : v.accessorMethod? c =
          some (accessorLines c name ("variant `" ++ v.tag ++ "`") v.factory) := by
        rw [VariantPlan.accessorMethod?, haccessor]
        rfl
      rw [List.filterMap_cons_some haccessor, List.filterMap_cons_some hmethod]
      exact .cons (declares_accessorLines ..) ih

/-- The methods of a factory declare functions of its method names, in order. -/
theorem Plan.declares_methods (c : Configuration) (p : Plan) :
    List.Forall₂ Declares p.methodNames (p.methods c) := by
  have accessors : List.Forall₂ Declares p.body.accessors (p.accessorMethods c) := by
    cases hbody : p.body with
    | product constructor style members standing =>
      simp only [PlanBody.accessors, Plan.accessorMethods, hbody, List.forall₂_map_left_iff,
        List.forall₂_map_right_iff, List.forall₂_same]
      exact fun m _ => declares_accessorLines ..
    | sum variants =>
      simp only [PlanBody.accessors, Plan.accessorMethods, hbody]
      exact declares_variants c variants
  rw [Plan.methodNames, Plan.methods]
  split
  · exact accessors
  · exact .cons (declares_constructorMethod c p) accessors

namespace PlanBody

/-- The names that names of methods are derived from: of members, or of variants with members. -/
def partNames : PlanBody → List String
  | product _ _ members _ => members.map (·.label)
  | sum variants => (variants.filter (·.accessor.isSome)).map (·.tag)

/-- A factory has parts as they were declared, by their names. -/
def DeclaredBy (d : Descriptor) : PlanBody → Prop
  | product _ style members _ =>
    ∃ content, d = .product d.name content ∧ content.style = style ∧
      members.map (·.label) = content.members.map (·.name)
  | sum variants =>
    ∃ declared companion, d = .sum d.name declared companion ∧
      variants.map (·.tag) = declared.map (·.simpleName)

/-- Different members have names of different stems, and so have any two variants with members. -/
def Apart : PlanBody → Prop
  | product _ _ members _ => ∀ m ∈ members, ∀ m' ∈ members,
      Name.memberStem m.label = Name.memberStem m'.label → m.label = m'.label
  | sum variants => (variants.filter (·.accessor.isSome)).Pairwise fun v v' =>
      Name.memberStem v.tag ≠ Name.memberStem v'.tag

instance : DecidablePred Apart
  | product _ _ members _ => inferInstanceAs (Decidable (∀ m ∈ members, ∀ m' ∈ members,
      Name.memberStem m.label = Name.memberStem m'.label → m.label = m'.label))
  | sum variants => inferInstanceAs (Decidable ((variants.filter (·.accessor.isSome)).Pairwise
      fun v v' => Name.memberStem v.tag ≠ Name.memberStem v'.tag))

theorem accessors_sum {variants : List VariantPlan}
    (h : ∀ v ∈ variants, ∀ name ∈ v.accessor, name = Name.accessor v.tag) :
    (sum variants).accessors = (sum variants).partNames.map Name.accessor := by
  simp only [accessors, partNames]
  induction variants with
  | nil => rfl
  | cons v vs ih =>
    obtain ⟨hv, hvs⟩ := List.forall_mem_cons.1 h
    cases haccessor : v.accessor with
    | none => simp [haccessor, ih hvs]
    | some name => simp [haccessor, ih hvs, hv name haccessor]

end PlanBody

/-- The constructor shares its name with no other method. -/
theorem Plan.nodup_methodNames {p : Plan} {names : List String}
    (h : p.body.accessors = names.map Name.accessor) :
    p.methodNames.Nodup ↔ (names.map Name.memberStem).Nodup := by
  have accessors : p.body.accessors.Nodup ↔ (names.map Name.memberStem).Nodup := by
    rw [h]
    simp only [List.Nodup, List.pairwise_map, ne_eq, Name.accessor_inj]
  rw [Plan.methodNames, ← accessors]
  split
  · simp
  · have hnew : "new" ∉ p.body.accessors := by
      rw [h, List.mem_map]
      rintro ⟨n, -, hn⟩
      exact Name.accessor_ne_new n hn
    simp [hnew]

namespace Planning

variable {ds : List Descriptor} {c : Configuration} {requests : List Request}

theorem Answered.declaredBy {t : Planning} (ht : Answered (.ofList ds) c requests t) {p : Plan}
    (hp : p ∈ t.inOrder) :
    (∃ standing d, Placed (.ofList ds) standing d ∧ d.name = p.key ∧ p.body.DeclaredBy d) ∧
      p.body.accessors = p.body.partNames.map Name.accessor := by
  cases hbody : p.body with
  | product constructor style members standing =>
    obtain ⟨standing', content, hd, hstyle, hlabels, derived⟩ := ht.exists_product hp hbody
    refine ⟨⟨standing', _, hd, rfl, content, rfl, hstyle, hlabels⟩, ?_⟩
    rw [PlanBody.accessors, PlanBody.partNames, List.map_map]
    exact List.map_congr_left fun m hm => (derived m hm).2
  | sum variants =>
    obtain ⟨-, -, k, hk, hmade⟩ := ht.made _ p (ht.between.mem_inOrder.1 hp)
    cases hmade with
    | product hbody' => rw [hbody'] at hbody; cases hbody
    | @sum resolved plans hbody' hvariants _ _ =>
      rw [hbody', PlanBody.sum.injEq] at hbody
      subst hbody
      obtain ⟨standing, d, hd, hname, declared, hshape, mirrors⟩ := ht.mirrored _ _ hk
      obtain ⟨-, name, companion, rfl⟩ := Survey.descriptor_of_shape_sum hshape
      refine ⟨⟨standing, _, hd, hname, declared, companion, rfl, ?_⟩, ?_⟩
      · rw [map_eq_of_forall₂ (f := fun v : ResolvedVariant Classification => v.name) hvariants]
        · exact map_eq_of_forall₂ mirrors fun v r hr => hr.1
        · rintro v _ (_ | _ | _) <;> rfl
      · refine PlanBody.accessors_sum fun v hv name hname => ?_
        obtain ⟨r, -, hr⟩ := exists_left_of_forall₂ hvariants hv
        cases hr with
        | valueless | marker => cases hname
        | product => exact (Option.mem_some_iff.1 hname).symm

/-- Members have different names in a valid schema, so only members of different names can clash;
two variants with members may end in the same segment. -/
theorem Answered.nodup_methodNames_iff {t : Planning} (ht : Answered (.ofList ds) c requests t)
    (valid : checkTypes ds = .ok ()) {p : Plan} (hp : p ∈ t.inOrder) :
    p.methodNames.Nodup ↔ p.body.Apart := by
  rw [Plan.nodup_methodNames (ht.declaredBy hp).2]
  cases hbody : p.body with
  | product constructor style members standing =>
    obtain ⟨-, hnodup, -⟩ := ht.labels valid hp hbody
    rw [PlanBody.partNames, List.nodup_map_iff_inj_on hnodup]
    simp only [PlanBody.Apart, List.forall_mem_map]
  | sum variants =>
    simp only [PlanBody.partNames, PlanBody.Apart, List.Nodup, List.pairwise_map]

/-- Members that are numbered or named in snake case are apart, as their names differ. -/
theorem Answered.apart {t : Planning} (ht : Answered (.ofList ds) c requests t)
    (valid : checkTypes ds = .ok ()) {p : Plan} (hp : p ∈ t.inOrder) {constructor : String}
    {style : ConstructorStyle} {members : List MemberPlan} {standing : Standing}
    (hbody : p.body = .product constructor style members standing)
    (plain : style = .positional ∨ ∀ m ∈ members, Name.isPlain m.label) : p.body.Apart := by
  obtain ⟨-, -, hnumbered⟩ := ht.labels valid hp hbody
  rw [hbody]
  intro m hm m' hm' hstem
  rcases plain with hstyle | plain
  · -- Each number is put behind the same word.
    have numbers : ∀ m ∈ members, Name.memberStem m.label = "item_" ++ m.label := by
      intro m hm
      have hlabel := hnumbered hstyle ▸ List.mem_map_of_mem (f := fun m : MemberPlan => m.label) hm
      obtain ⟨i, -, hi⟩ := List.mem_map.1 hlabel
      rw [← hi, Name.memberStem_toString]
    rw [numbers m hm, numbers m' hm'] at hstem
    exact (String.append_right_inj "item_").1 hstem
  · rwa [Name.memberStem_of_plain (plain m hm), Name.memberStem_of_plain (plain m' hm')] at hstem

/-- The methods of every factory that is generated for a valid schema are those that its parts call
for, and have different names exactly if the stems of its parts' names differ. That is so for every
product whose members are numbered or named in snake case. -/
theorem generate_methods_nodup {s : Schema} (hs : s.catalog = .ofList ds)
    (valid : s.check = .ok ()) {text : String} (h : s.catalog.generate c requests = .ok text) :
    ∃ t, planRequests c s.catalog requests .fresh = .ok t ∧ text = t.source c ∧
      ∀ p ∈ t.inOrder, List.Forall₂ Declares p.methodNames (p.methods c) ∧
        (∃ standing d, Placed s.catalog standing d ∧ d.name = p.key ∧ p.body.DeclaredBy d) ∧
        (p.methodNames.Nodup ↔ p.body.Apart) ∧
        ∀ constructor style members standing,
          p.body = .product constructor style members standing →
          style = .positional ∨ (∀ m ∈ members, Name.isPlain m.label) →
          p.methodNames.Nodup := by
  have checked := Schema.checkTypes_of_check hs valid
  rw [hs] at h ⊢
  obtain ⟨t, ht, htext, answered⟩ := generate_answered h
  refine ⟨t, ht, htext, ?_⟩
  intro p hp
  have hiff := answered.nodup_methodNames_iff checked hp
  refine ⟨p.declares_methods c, (answered.declaredBy hp).1, hiff, ?_⟩
  intro constructor style members standing hbody plain
  exact hiff.2 (answered.apart checked hp hbody plain)

/-- All factories of the studio have methods of different names. The factory for a scene holds
another, so it has a constructor beside six methods for members. -/
theorem generate_methods_nodup_studio :
    studioSchema.check = .ok () ∧
      ∃ t, planRequests tolerantly studioSchema.catalog studioSchema.requests .fresh = .ok t ∧
        t.inOrder.map (fun p => p.methodNames.length) = [7, 2, 2, 3] ∧
        ∀ p ∈ t.inOrder, p.methodNames.Nodup := by
  have valid : studioSchema.check = .ok () := by decide +kernel
  have plans : (planRequests tolerantly studioSchema.catalog studioSchema.requests
      .fresh).toOption.map (fun t => t.inOrder.map fun p =>
        (p.methodNames.length, decide p.body.Apart)) =
          some [(7, true), (2, true), (2, true), (3, true)] := by decide +kernel
  obtain ⟨t, ht, hplans⟩ := toOption_map_eq_some plans
  obtain ⟨text, h⟩ := exists_generate_studio
  obtain ⟨t', ht', -, methods⟩ := generate_methods_nodup (s := studioSchema) rfl valid h
  obtain rfl : t = t' := Except.ok.inj (ht.symm.trans ht')
  refine ⟨valid, t, ht, ?_, fun p hp => ?_⟩
  · simpa [Function.comp_def] using congrArg (List.map Prod.fst) hplans
  · obtain ⟨-, -, hiff, -⟩ := methods p hp
    have apart : ∀ b ∈ t.inOrder.map fun p => (p.methodNames.length, decide p.body.Apart),
        b.2 = true := by
      rw [hplans]
      decide
    exact hiff.2 (of_decide_eq_true (apart _ (List.mem_map_of_mem hp)))

/-- A product with two members whose names differ in case alone. -/
def alike : Schema :=
  { Schema.empty "" with
    catalog := .ofList
      [.product "P" ⟨[⟨"fooBar", "i32", false⟩, ⟨"foo_bar", "i32", false⟩], .named, true, false⟩]
    requests := [.plain .factory "P"] }

def alikePlan : Plan :=
  ⟨"P", "PFieldFactory", "P", .product "P" .named
    [⟨"fooBar", "fooBar", "foo_bar_field", .plain "i32", .leaf .int32, "0"⟩,
      ⟨"foo_bar", "foo_bar", "foo_bar_field", .plain "i32", .leaf .int32, "0"⟩] .topLevel, []⟩

/-- The schema with the alike members is valid and generated, and the factory for its product has
two methods of one name. -/
theorem exists_methods_not_nodup :
    alike.check = .ok () ∧ ∃ text t,
      alike.catalog.generate .standard alike.requests = .ok text ∧
      planRequests .standard alike.catalog alike.requests .fresh = .ok t ∧
      text = t.source .standard ∧
      ∃ p ∈ t.inOrder, p.name = "PFieldFactory" ∧
        p.methodNames = ["foo_bar_field", "foo_bar_field"] ∧
        List.Forall₂ Declares p.methodNames (p.methods .standard) ∧ ¬ p.methodNames.Nodup := by
  have plans : (planRequests .standard alike.catalog alike.requests
      .fresh).toOption.map Planning.inOrder = some [alikePlan] := by decide +kernel
  obtain ⟨t, ht, hplans⟩ := toOption_map_eq_some plans
  refine ⟨by decide +kernel, t.source .standard, t, ?_, ht, rfl, alikePlan, by simp [hplans],
    rfl, rfl, alikePlan.declares_methods .standard, by decide⟩
  exact bind_eq_ok.2 ⟨t, ht, rfl⟩

end Planning

end EditableFields
