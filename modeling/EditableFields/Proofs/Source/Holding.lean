import EditableFields.Proofs.Planning.Obligations
import EditableFields.Proofs.Planning.Spelled

/-!
# Source: what a factory holds is in scope

The fields of a generated factory come from its children: each child that needs a factory of its
owner adds one (`hold_spec`), and children that need the same share it. So the names of the fields
differ, each is there for a child, and each child finds what it needs under the name and with the
type that it needs it by (`foldlM_hold_spec`). What the expression for a child reads of its owner
is said by `Composed`: the text is put together from fixed words and given names, and besides these
only reads of fields. `generate_scoped` sums this up for all that is generated, with the fields and
the constructor as they are emitted.
-/

namespace EditableFields

/-! ## Texts of expressions -/

/-- The fixed words of expressions for factories. -/
def expressionWords : List String :=
  ["::", "EnumField", "FixedField", "TransformField", "NullableField", "::new(", "::new(vec![",
    "])", ", ", ", |value: &", "| ", "value.", ".clone()", ", |inner: ", "inner", ": ", " \x7b ",
    " \x7d", " \x7b\x7d", "(", ")", "<", " as ::core::default::Default>::default()", ", || "] ++
  Primitive.all.flatMap fun kind => [kind.leafName, kind.typeName, kind.defaultExpr]

/-- Text that is put together from fixed words, given names, and reads of the fields of a factory,
which are listed in order. -/
inductive Composed (Given : String → Prop) : List String → String → Prop
  | nil : Composed Given [] ""
  | word {w} : w ∈ expressionWords → Composed Given [] w
  | name {n} : Given n → Composed Given [] n
  | own (field) : Composed Given [field] ("self." ++ field ++ ".clone()")
  | append {fs gs t u} : Composed Given fs t → Composed Given gs u →
      Composed Given (fs ++ gs) (t ++ u)

theorem Primitive.words (kind : Primitive) :
    kind.leafName ∈ expressionWords ∧ kind.typeName ∈ expressionWords ∧
      kind.defaultExpr ∈ expressionWords := by
  cases kind <;> decide

namespace Composed

variable {Given : String → Prop} {fields : List String} {t u : String}

theorem after (ht : Composed Given [] t) (hu : Composed Given fields u) :
    Composed Given fields (t ++ u) :=
  ht.append hu

theorem before (ht : Composed Given fields t) (hu : Composed Given [] u) :
    Composed Given fields (t ++ u) := by
  simpa using ht.append hu

theorem join {ts : List String} (h : ∀ t ∈ ts, Composed Given [] t) :
    Composed Given [] (String.join ts) := by
  induction ts with
  | nil => simpa using Composed.nil
  | cons t ts ih =>
    obtain ⟨ht, hts⟩ := List.forall_mem_cons.1 h
    simpa using ht.after (ih hts)

theorem intercalate {separator : String} {ts : List String} (hs : Composed Given [] separator)
    (hts : ∀ t ∈ ts, Composed Given [] t) :
    Composed Given [] (String.intercalate separator ts) := by
  induction ts with
  | nil => simpa using Composed.nil
  | cons t ts ih =>
    obtain ⟨ht, hts⟩ := List.forall_mem_cons.1 hts
    cases ts with
    | nil => simpa using ht
    | cons u us =>
      rw [String.intercalate_cons_cons]
      exact (ht.before hs).before (ih hts)

end Composed

section Texts

variable {c : Configuration} {Given : String → Prop}

theorem composed_item (hc : Given c.runtime) {name : String} (h : name ∈ expressionWords) :
    Composed Given [] (c.item name) :=
  ((Composed.name hc).before (.word (by decide))).before (.word h)

theorem composed_construct {path : String} (hpath : Given path) (style : ConstructorStyle)
    {access value : String} (haccess : Given access) (hvalue : value ∈ expressionWords) :
    Composed Given [] (construct path style [(access, value)]) := by
  cases style with
  | named =>
    have parts : ∀ t ∈ [path, " \x7b ", access, ": ", value, " \x7d"], Composed Given [] t := by
      simp only [List.forall_mem_cons]
      exact ⟨.name hpath, .word (by decide), .name haccess, .word (by decide), .word hvalue,
        .word (by decide), nofun⟩
    simpa [construct, String.append_assoc] using Composed.join parts
  | positional =>
    have parts : ∀ t ∈ [path, "(", value, ")"], Composed Given [] t := by
      simp only [List.forall_mem_cons]
      exact ⟨.name hpath, .word (by decide), .word hvalue, .word (by decide), nofun⟩
    simpa [construct, String.append_assoc] using Composed.join parts

theorem composed_derivedDefault {type : String} (h : Given type) :
    Composed Given [] (derivedDefault type) :=
  ((Composed.word (by decide)).before (.name h)).before (.word (by decide))

end Texts

/-- The expression for a child reads a field of its owner, perhaps for the factory of an optional
value, and the child is of the type that the field's type makes. -/
inductive ChildFactory.Reads (c : Configuration) (field : String) (type : FactoryType)
    (child : ChildFactory) : Prop
  | plain : child.expr c = "self." ++ field ++ ".clone()" → child.type = type →
      Reads c field type child
  | optional {value default} :
      child.expr c = c.item "NullableField" ++ "::new(" ++ ("self." ++ field ++ ".clone()") ++
        ", || " ++ default ++ ")" →
      child.type = .optional type value → Reads c field type child

namespace Planning

variable {ds : List Descriptor} {c : Configuration} {s : Planning} {requests : List Request}
  {catalog : Catalog} {m : ResolvedMember Classification}

/-! ## What expressions are written with -/

/-- The names that expressions are written with: the path of the runtime library, names of the
catalog as they are and escaped, and names of generated factories. -/
inductive Nameable (catalog : Catalog) (c : Configuration) (s : Planning) : String → Prop
  | runtime : Nameable catalog c s c.runtime
  | spelled {n} : catalog.Spells n → Nameable catalog c s n
  | escaped {n} : catalog.Spells n → Nameable catalog c s (Name.escape n)
  | factory {p} : p ∈ s.inOrder → Nameable catalog c s p.name

theorem composed_leaf (catalog : Catalog) (kind : Primitive) :
    Composed (Nameable catalog c s) [] (c.item kind.leafName) :=
  composed_item .runtime kind.words.1

theorem SpelledMember.composed_wrapper (hm : SpelledMember catalog m) {w : ValueWrapper}
    (hw : m.wrapper = some w) :
    Composed (Nameable catalog c s) [] ((ChildFactory.wrapper m.type w).expr c) := by
  have member : Nameable catalog c s (Name.escape w.member) := .escaped (hm.wrapped w hw)
  have read : Composed (Nameable catalog c s) [] (ChildFactory.readWrapped w) := by
    have access : Composed (Nameable catalog c s) [] ("value." ++ Name.escape w.member) :=
      (Composed.word (by decide)).before (.name member)
    unfold ChildFactory.readWrapped
    split
    · exact access.before (.word (by decide))
    · exact access
  have parts : ∀ t ∈ [c.item "TransformField", "::new(", c.item w.primitive.leafName,
      ", |value: &", m.type, "| ", ChildFactory.readWrapped w, ", |inner: ",
      w.primitive.typeName, "| ", construct m.type w.style [(Name.escape w.member, "inner")], ")"],
      Composed (Nameable catalog c s) [] t := by
    simp only [List.forall_mem_cons]
    exact ⟨composed_item .runtime (by decide), .word (by decide), composed_leaf catalog _,
      .word (by decide), .name (.spelled hm.type), .word (by decide), read, .word (by decide),
      .word w.primitive.words.2.1, .word (by decide),
      composed_construct (.spelled hm.type) w.style member (by decide), .word (by decide), nofun⟩
  simpa [ChildFactory.expr, String.append_assoc] using Composed.join parts

theorem composed_choice {type : String} (htype : catalog.Spells type)
    {entries : List String} (hentries : ∀ e ∈ entries, catalog.Spells e) :
    Composed (Nameable catalog c s) [] ((ChildFactory.choice type entries).expr c) := by
  have items : ∀ t ∈ entries.map fun e => type ++ "::" ++ e,
      Composed (Nameable catalog c s) [] t := by
    rw [List.forall_mem_map]
    exact fun e he => ((Composed.name (.spelled htype)).before (.word (by decide))).before
      (.name (.spelled (hentries e he)))
  have parts : ∀ t ∈ [c.item "EnumField", "::new(vec![",
      String.intercalate ", " (entries.map fun e => type ++ "::" ++ e), "])"],
      Composed (Nameable catalog c s) [] t := by
    simp only [List.forall_mem_cons]
    exact ⟨composed_item .runtime (by decide), .word (by decide),
      .intercalate (.word (by decide)) items, .word (by decide), nofun⟩
  simpa [ChildFactory.expr, String.append_assoc] using Composed.join parts

/-- The default value of a member's type. -/
theorem SpelledMember.composed_default (hm : SpelledMember catalog m) :
    Composed (Nameable catalog c s) [] (valueDefault m.type m.wrapper m.classification) := by
  have type : Nameable catalog c s m.type := .spelled hm.type
  unfold valueDefault
  cases hw : m.wrapper with
  | some w =>
    exact composed_construct type w.style (.escaped (hm.wrapped w hw)) w.primitive.words.2.2
  | none =>
    cases hk : m.classification with
    | primitive kind => exact .word kind.words.2.2
    | enumeration entries =>
      cases entries with
      | nil => exact composed_derivedDefault type
      | cons first rest =>
        exact ((Composed.name type).before (.word (by decide))).before
          (.name (.spelled (hm.entry _ hw hk first List.mem_cons_self)))
    | singleton valueless =>
      cases valueless with
      | true => exact .name type
      | false => exact (Composed.name type).before (.word (by decide))
    | product | sum | external | unsupported => exact composed_derivedDefault type

theorem child_eq_held {p : Plan} {field : String} {receiver : Receiver} {f : HeldFactory}
    (h : (p.child field receiver).held? = some f) : p.child field receiver = .held receiver f := by
  unfold Plan.child at h ⊢
  split at h
  · cases h
  · next hheld =>
    cases h
    rw [if_neg hheld]

/-- A factory of a planned type is named, or read from the field that holds it. -/
theorem composed_child {p : Plan} (hp : p ∈ s.inOrder) (field : String) :
    Composed (Nameable catalog c s) (((p.child field .own).held?).toList.map (·.name))
      ((p.child field .own).expr c) := by
  unfold Plan.child
  split
  · exact .name (.factory hp)
  · exact .own _

theorem BaseOf.composed (hb : Between c s) (hm : SpelledMember catalog m) {base : ChildFactory}
    (h : BaseOf c s .own m base) :
    Composed (Nameable catalog c s) (base.held?.toList.map (·.name)) (base.expr c) := by
  cases h with
  | wrapper hw => exact hm.composed_wrapper hw
  | leaf hw hk => exact composed_leaf catalog _
  | choice hw hk => exact composed_choice hm.type (hm.entry _ hw hk)
  | fixed hw hk => exact composed_item .runtime (by decide)
  | external hw hk => exact composed_derivedDefault (.spelled (hm.factory _ hw hk))
  | planned hw hc hq =>
    refine composed_child (hb.mem_inOrder.2 ?_) _
    rwa [(hb.sound.finished _ _ hq).key_eq]
  | obligation hw hk htolerant => exact .own _

/-- The expression for a member reads of its owner what the member needs held, and nothing else. -/
theorem ChildOf.composed (hb : Between c s) (hm : SpelledMember catalog m) {child : ChildFactory}
    (h : ChildOf c s .own m child) :
    Composed (Nameable catalog c s) (child.held?.toList.map (·.name)) (child.expr c) := by
  obtain ⟨base, hbase, rfl⟩ := h
  rw [held_lift]
  have inner := hbase.composed hb hm
  unfold lift
  split
  · have item : Composed (Nameable catalog c s) [] (c.item "NullableField") :=
      composed_item .runtime (by decide)
    exact (((item.before (.word (by decide))).after inner).before (.word (by decide))).before
      hm.composed_default |>.before (.word (by decide))
  · exact inner

/-- What is held for a member is read from a field, and is of the type that the member needs. -/
theorem ChildOf.reads {child : ChildFactory} (h : ChildOf c s .own m child) {f : HeldFactory}
    (hf : child.held? = some f) : child.Reads c f.name f.type := by
  obtain ⟨base, hbase, rfl⟩ := h
  rw [held_lift] at hf
  have hown : base = .held .own f := by
    cases hbase with
    | planned hw hc hq => exact child_eq_held hf
    | obligation hw hk htolerant =>
      cases hf
      rfl
    | wrapper | leaf | choice | fixed | external => cases hf
  subst hown
  unfold lift
  split
  · exact .optional rfl rfl
  · exact .plain rfl rfl

/-! ## What is held -/

/-- Holding what a child needs keeps the names of what is held different and adds at most what the
child needs, which is held then. -/
theorem hold_spec {name : String} {held held' : List HeldFactory} {child : ChildFactory}
    (h : hold c name held child = .ok held') (distinct : (held.map (·.name)).Nodup) :
    (held'.map (·.name)).Nodup ∧ held ⊆ held' ∧
      (∀ f, child.held? = some f → ∃ g ∈ held', g.name = f.name ∧ g.type = f.type) ∧
      ∀ g ∈ held', g ∈ held ∨ child.held? = some g := by
  unfold hold at h
  split at h
  · next hnone =>
    cases h
    exact ⟨distinct, List.Subset.refl _, by simp [hnone], fun g hg => .inl hg⟩
  next f hsome =>
  split at h
  · next hnew =>
    cases h
    have hfresh : f.name ∉ held.map (·.name) := by
      rw [List.mem_map]
      rintro ⟨g, hg, hname⟩
      simpa [hname] using List.find?_eq_none.1 hnew g hg
    refine ⟨?_, List.subset_append_left _ _, ?_, fun g hg => ?_⟩
    · rw [List.map_append, List.nodup_append]
      refine ⟨distinct, List.nodup_singleton _, ?_⟩
      rintro n hn _ hf rfl
      rw [List.map_singleton, List.mem_singleton] at hf
      exact hfresh (hf ▸ hn)
    · intro f' hf'
      cases hsome.symm.trans hf'
      exact ⟨f, by simp, rfl, rfl⟩
    · rcases List.mem_append.1 hg with hg | hg
      · exact .inl hg
      · exact .inr (List.mem_singleton.1 hg ▸ hsome)
  · next first hfirst =>
    split at h
    · next htype =>
      -- What is held already under the name is of the type, and serves the child too.
      cases h
      refine ⟨distinct, List.Subset.refl _, fun f' hf' => ?_, fun g hg => .inl hg⟩
      cases hsome.symm.trans hf'
      exact ⟨first, List.mem_of_find?_eq_some hfirst, by simpa using List.find?_some hfirst, htype⟩
    · cases h

/-- What is held for children one after another. -/
theorem foldlM_hold_spec {name : String} {children : List ChildFactory}
    {held held' : List HeldFactory} (h : children.foldlM (hold c name) held = .ok held')
    (distinct : (held.map (·.name)).Nodup) :
    (held'.map (·.name)).Nodup ∧ held ⊆ held' ∧
      (∀ child ∈ children, ∀ f, child.held? = some f →
        ∃ g ∈ held', g.name = f.name ∧ g.type = f.type) ∧
      ∀ g ∈ held', g ∈ held ∨ ∃ child ∈ children, child.held? = some g := by
  induction children generalizing held with
  | nil =>
    cases h
    exact ⟨distinct, List.Subset.refl _, by simp, fun g hg => .inl hg⟩
  | cons child children ih =>
    rw [List.foldlM_cons] at h
    obtain ⟨held₁, hhold, h⟩ := bind_eq_ok.1 h
    obtain ⟨distinct₁, hsub, hserved, hneeded⟩ := hold_spec hhold distinct
    obtain ⟨distinct', hsub', hserved', hneeded'⟩ := ih h distinct₁
    refine ⟨distinct', List.Subset.trans hsub hsub', ?_, fun g hg => ?_⟩
    · rw [List.forall_mem_cons]
      refine ⟨fun f hf => ?_, hserved'⟩
      obtain ⟨g, hg, heq⟩ := hserved f hf
      exact ⟨g, hsub' hg, heq⟩
    · rcases hneeded' g hg with hg | ⟨child', hchild', hg⟩
      · rcases hneeded g hg with hg | hg
        · exact .inl hg
        · exact .inr ⟨child, by simp, hg⟩
      · exact .inr ⟨child', by simp [hchild'], hg⟩

end Planning

/-! ## What is emitted -/

theorem infix_separated {block : List Line} {blocks : List (List Line)} (h : block ∈ blocks) :
    block <:+: separated blocks := by
  induction blocks with
  | nil => cases h
  | cons first rest ih =>
    cases rest with
    | nil =>
      rw [List.mem_singleton.1 h]
      exact List.infix_rfl
    | cons second rest =>
      rw [separated]
      rcases List.mem_cons.1 h with rfl | h
      · exact (List.prefix_append _ _).isInfix
      · exact ((ih h).trans (List.suffix_cons _ _).isInfix).trans (List.suffix_append _ _).isInfix
      · simp

namespace Plan

variable {c : Configuration} {p : Plan}

/-- Every method of a factory is in its text. -/
theorem infix_lines_of_mem_methods {method : List Line} (h : method ∈ p.methods c) :
    method <:+: p.lines c := by
  have block : method <:+: p.methodBlock c := by
    unfold Plan.methodBlock
    split
    · next hnone => simp [hnone] at h
    · exact (infix_separated h).trans ⟨_, _, rfl⟩
  refine block.trans ⟨p.declaration c, [.blank] ++ p.implementation c, ?_⟩
  simp [Plan.lines]

/-- The fields of a factory are well scoped. Their names differ. A child that needs a factory held
finds one field of the name, of the type that the child needs, and its expression in the method for
it reads this field. No expression reads another field, and every field is needed. The struct
declares the fields in order, and its constructor takes and stores them in order. -/
structure Scoped (Given : String → Prop) (c : Configuration) (p : Plan) : Prop where
  distinct : (p.held.map (·.name)).Nodup
  served : ∀ child ∈ p.body.children, ∀ h, child.held? = some h →
    (p.held.map (·.name)).count h.name = 1 ∧
      (∃ f ∈ p.held, f.name = h.name ∧ f.type = h.type ∧ child.Reads c f.name f.type) ∧
      .code 2 (child.expr c) ∈ p.lines c
  composed : ∀ child ∈ p.body.children,
    Composed Given (child.held?.toList.map (·.name)) (child.expr c)
  needed : ∀ f ∈ p.held, ∃ child ∈ p.body.children, child.held? = some f
  declared : p.held ≠ [] →
    .code 0 ("pub struct " ++ p.name ++ " \x7b") ::
      (p.held.flatMap fun f =>
        [.doc 1 f.doc, .code 1 ("pub " ++ f.name ++ ": " ++ f.type.text c ++ ",")]) ++
      [.code 0 "\x7d"] <:+: p.lines c
  constructed : p.held ≠ [] →
    [.code 1 ("pub fn new(" ++
        String.intercalate ", " (p.held.map fun f => f.name ++ ": " ++ f.type.text c) ++
        ") -> Self \x7b"),
      .code 2 ("Self \x7b " ++ String.intercalate ", " (p.held.map (·.name)) ++ " \x7d"),
      .code 1 "\x7d"] <:+: p.lines c

end Plan

namespace Planning

variable {ds : List Descriptor} {c : Configuration} {s : Planning} {requests : List Request}

/-- A variant that needs something held has a method, and reads there what is held. -/
theorem VariantOf.wellScoped (hb : Between c s) {v : ResolvedVariant Classification}
    {planned : VariantPlan} (h : VariantOf s v planned) (catalog : Catalog) :
    Composed (Nameable catalog c s) (planned.factory.held?.toList.map (·.name))
        (planned.factory.expr c) ∧
      ∀ f, planned.factory.held? = some f →
        planned.factory.Reads c f.name f.type ∧ planned.accessor.isSome := by
  cases h with
  | valueless | marker => exact ⟨composed_item .runtime (by decide), nofun⟩
  | product hq =>
    have hp := hb.mem_inOrder.2 ((hb.sound.finished _ _ hq).key_eq.symm ▸ hq)
    refine ⟨composed_child hp _, fun f hf => ⟨?_, rfl⟩⟩
    rw [child_eq_held hf]
    exact .plain rfl rfl

/-- Every child of a plan reads what it needs held, and nothing else, in a method for it. -/
theorem Answered.children_wellScoped (hs : Answered (.ofList ds) c requests s) {p : Plan}
    (hp : p ∈ s.inOrder) {child : ChildFactory} (hchild : child ∈ p.body.children) :
    Composed (Nameable (.ofList ds) c s) (child.held?.toList.map (·.name)) (child.expr c) ∧
      ∀ f, child.held? = some f →
        child.Reads c f.name f.type ∧ .code 2 (child.expr c) ∈ p.lines c := by
  obtain ⟨-, -, k, hk, hmade⟩ := hs.made _ p (hs.between.mem_inOrder.1 hp)
  cases hmade with
  | @product style members plans standing hbody hmembers hheld =>
    rw [hbody, PlanBody.children, List.mem_map] at hchild
    obtain ⟨planned, hplanned, rfl⟩ := hchild
    obtain ⟨m, hm, child, hof, rfl⟩ := exists_left_of_forall₂ hmembers hplanned
    refine ⟨hof.composed hs.between (hs.spells_members hk m hm).2, fun f hf => ⟨hof.reads hf, ?_⟩⟩
    have method : (MemberPlan.of m child).accessorMethod c ∈ p.methods c := by
      simp only [Plan.methods, Plan.accessorMethods, hbody]
      exact List.mem_append_right _ (List.mem_map_of_mem hplanned)
    refine (Plan.infix_lines_of_mem_methods method).subset ?_
    simp [MemberPlan.accessorMethod, accessorLines, MemberPlan.of]
  | @sum variants plans hbody hvariants hvalue hheld =>
    rw [hbody, PlanBody.children, List.mem_map] at hchild
    obtain ⟨planned, hplanned, rfl⟩ := hchild
    obtain ⟨v, hv, hof⟩ := exists_left_of_forall₂ hvariants hplanned
    obtain ⟨hcomposed, hreads⟩ := hof.wellScoped hs.between (.ofList ds)
    refine ⟨hcomposed, fun f hf => ⟨(hreads f hf).1, ?_⟩⟩
    obtain ⟨name, hname⟩ := Option.isSome_iff_exists.1 (hreads f hf).2
    have method : accessorLines c name ("variant `" ++ planned.tag ++ "`") planned.factory ∈
        p.methods c := by
      simp only [Plan.methods, Plan.accessorMethods, hbody]
      refine List.mem_append_right _ (List.mem_filterMap.2 ⟨planned, hplanned, ?_⟩)
      simp [VariantPlan.accessorMethod?, hname]
    refine (Plan.infix_lines_of_mem_methods method).subset ?_
    simp [accessorLines]

theorem Answered.wellScoped (hs : Answered (.ofList ds) c requests s) {p : Plan}
    (hp : p ∈ s.inOrder) : p.Scoped (Nameable (.ofList ds) c s) c := by
  have hheld : HoldsFor c p := by
    obtain ⟨-, -, k, -, hmade⟩ := hs.made _ p (hs.between.mem_inOrder.1 hp)
    cases hmade with
    | product _ _ hheld => exact hheld
    | sum _ _ _ hheld => exact hheld
  obtain ⟨distinct, -, hserved, hneeded⟩ := foldlM_hold_spec hheld (by simp)
  refine ⟨distinct, fun child hchild h hh => ?served, fun child hchild => ?composed,
    fun f hf => ?needed, fun hne => ?declared, fun hne => ?constructed⟩
  case served =>
    obtain ⟨hreads, hline⟩ := (hs.children_wellScoped hp hchild).2 h hh
    obtain ⟨f, hf, hname, htype⟩ := hserved child hchild h hh
    refine ⟨?_, ⟨f, hf, hname, htype, hname ▸ htype ▸ hreads⟩, hline⟩
    exact List.count_eq_one_of_mem distinct (hname ▸ List.mem_map_of_mem hf)
  case composed => exact (hs.children_wellScoped hp hchild).1
  case needed => exact (hneeded f hf).resolve_left (by simp)
  case declared =>
    refine ⟨[.doc 0 p.doc, .code 0 "#[derive(Debug, Clone)]"],
      p.methodBlock c ++ [.blank] ++ p.implementation c, ?_⟩
    have fieldLines : (fun f : HeldFactory =>
        [.doc 1 f.doc, .code 1 ("pub " ++ f.name ++ ": " ++ f.type.text c ++ ",")]) =
          Plan.heldLines c := rfl
    simp [Plan.lines, Plan.declaration, hne, fieldLines]
  case constructed =>
    have method : p.constructorMethod c ∈ p.methods c := by simp [Plan.methods, hne]
    exact (List.suffix_append [_, _] _).isInfix.trans (Plan.infix_lines_of_mem_methods method)

/-- In the code that is generated for requests, the fields of every factory are well scoped: what
expressions for children are written with besides reads of fields are fixed words without `self` in
them, and names that are given. -/
theorem generate_scoped {text : String}
    (h : (Catalog.ofList ds).generate c requests = .ok text) :
    (∀ w ∈ expressionWords, ¬ "self".toList <:+: w.toList) ∧
      ∃ s, planRequests c (.ofList ds) requests .fresh = .ok s ∧ text = s.source c ∧
        ∀ p ∈ s.inOrder, p.Scoped (Nameable (.ofList ds) c s) c := by
  obtain ⟨s, hs, htext, answered⟩ := generate_answered h
  exact ⟨by decide +kernel, s, hs, htext, fun p hp => answered.wellScoped hp⟩

/-- A pair of images, one of them optional, that cannot be edited without the caller. -/
def diptych : List Descriptor :=
  [.product "Diptych" ⟨[⟨"left", "Image", false⟩, ⟨"right", "Image", true⟩], .named, true, false⟩,
    .product "Image" ⟨[⟨"pixels", "Blob", false⟩, ⟨"width", "i32", false⟩], .named, true, false⟩,
    .sealed "Blob"]

/-- Both members of a diptych read the one factory for images that it holds. -/
theorem generate_scoped_diptych :
    ∃ text s, (Catalog.ofList diptych).generate tolerantly [.plain .factory "Diptych"] = .ok text ∧
      planRequests tolerantly (.ofList diptych) [.plain .factory "Diptych"] .fresh = .ok s ∧
      s.inOrder.map (fun p => p.held.map (·.name)) = [["image"], ["pixels_factory"]] ∧
      ∀ p ∈ s.inOrder, p.Scoped (Nameable (.ofList diptych) tolerantly s) tolerantly := by
  have plans : (planRequests tolerantly (.ofList diptych) [.plain .factory "Diptych"]
      .fresh).toOption.map (fun s => s.inOrder.map fun p => p.held.map (·.name)) =
        some [["image"], ["pixels_factory"]] := by decide +kernel
  obtain ⟨s, hs, hheld⟩ := toOption_map_eq_some plans
  have hok : (Catalog.ofList diptych).generate tolerantly [.plain .factory "Diptych"] =
      .ok (s.source tolerantly) := bind_eq_ok.2 ⟨s, hs, rfl⟩
  obtain ⟨-, s', hs', -, wellScoped⟩ := generate_scoped hok
  obtain rfl : s = s' := Except.ok.inj (hs.symm.trans hs')
  exact ⟨_, s, hok, hs, hheld, wellScoped⟩

end Planning

end EditableFields
