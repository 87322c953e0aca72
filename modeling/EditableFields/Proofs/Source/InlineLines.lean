import EditableFields.Proofs.Inline
import EditableFields.Proofs.Source.Lines

/-!
# Source: lines of texts within a line

Where all texts that a plan holds stay within a line (`InlinePlan`), so do the lines that are
written for it (`InlinePlan.lines`), and the same holds of entry points (`InlineEntry.lines`). Such
a line is clear (`Line.clear_of_inline`): no slash is in it, so it does not read as documentation
unless it is marked as such.
-/

namespace EditableFields

/-- A line whose text has no line feed and no slash in it is clear. -/
theorem Line.clear_of_inline (l : Line) (h : Inline l.text) : l.Clear where
  unbroken hbreak := (h _ hbreak).1 rfl
  isDocLine_text _ := by
    rw [← Bool.not_eq_true, isDocLine, List.isPrefixOf_iff_prefix]
    rintro ⟨rest, hrest⟩
    have hslash : '/' ∈ l.text.toList.dropWhile (· == ' ') := by simp [← hrest]
    exact (h _ ((List.dropWhile_suffix _).subset hslash)).2 rfl

/-- The texts of lines stay within a line. -/
def InlineLines (ls : List Line) : Prop :=
  ∀ l ∈ ls, Inline l.text

theorem inlineLines_nil : InlineLines [] := nofun

theorem inlineLines_cons {l : Line} {ls : List Line} :
    InlineLines (l :: ls) ↔ Inline l.text ∧ InlineLines ls :=
  List.forall_mem_cons

theorem inlineLines_code_cons {indent : Nat} {text : String} {ls : List Line} :
    InlineLines (.code indent text :: ls) ↔ Inline text ∧ InlineLines ls :=
  inlineLines_cons

theorem inlineLines_doc_cons {indent : Nat} {text : String} {ls : List Line} :
    InlineLines (.doc indent text :: ls) ↔ Inline text ∧ InlineLines ls :=
  inlineLines_cons

theorem inlineLines_append {ls ls' : List Line} :
    InlineLines (ls ++ ls') ↔ InlineLines ls ∧ InlineLines ls' :=
  List.forall_mem_append

theorem inlineLines_blank {ls : List Line} (h : InlineLines ls) :
    InlineLines (.blank :: ls) :=
  inlineLines_code_cons.2 ⟨.literal rfl, h⟩

theorem inlineLines_flatMap {α : Type} {f : α → List Line} {xs : List α}
    (h : ∀ x ∈ xs, InlineLines (f x)) : InlineLines (xs.flatMap f) := by
  intro l hl
  obtain ⟨x, hx, hl⟩ := List.mem_flatMap.1 hl
  exact h x hx l hl

theorem inlineLines_separated {blocks : List (List Line)} (h : ∀ b ∈ blocks, InlineLines b) :
    InlineLines (separated blocks) := by
  induction blocks with
  | nil => exact inlineLines_nil
  | cons b bs ih =>
    obtain ⟨hb, hbs⟩ := List.forall_mem_cons.1 h
    cases bs with
    | nil => exact hb
    | cons b' bs => exact inlineLines_append.2 ⟨hb, inlineLines_blank (ih hbs)⟩

/-! ## Texts of plans -/

/-- The texts of a held factory stay within a line. -/
structure InlineHeld (c : Configuration) (h : HeldFactory) : Prop where
  name : Inline h.name
  type : Inline (h.type.text c)
  doc : Inline h.doc

/-- The texts that the factory of a child is written with stay within a line. -/
structure InlineChild (c : Configuration) (child : ChildFactory) : Prop where
  type : Inline (child.type.text c)
  expr : Inline (child.expr c)
  held : ∀ h, child.held? = some h → InlineHeld c h

/-- The texts of a planned member stay within a line. -/
structure InlineMember (c : Configuration) (m : MemberPlan) : Prop where
  label : Inline m.label
  access : Inline m.access
  accessor : Inline m.accessor
  value : Inline m.value.text
  factory : InlineChild c m.factory
  default : Inline m.default

/-- The texts of a planned variant stay within a line. -/
structure InlineVariant (c : Configuration) (v : VariantPlan) : Prop where
  tag : Inline v.tag
  type : Inline v.type
  default : Inline v.default
  factory : InlineChild c v.factory
  accessor : ∀ name, v.accessor = some name → Inline name

/-- The texts of members and variants stay within a line. -/
inductive InlineBody (c : Configuration) : PlanBody → Prop
  | product {constructor style members standing} : Inline constructor →
      (∀ m ∈ members, InlineMember c m) →
      InlineBody c (.product constructor style members standing)
  | sum {variants} : (∀ v ∈ variants, InlineVariant c v) → InlineBody c (.sum variants)

/-- The texts of a plan stay within a line. -/
structure InlinePlan (c : Configuration) (p : Plan) : Prop where
  key : Inline p.key
  name : Inline p.name
  value : Inline p.value
  body : InlineBody c p.body
  held : ∀ h ∈ p.held, InlineHeld c h

/-- The texts of an entry point stay within a line. -/
structure InlineEntry (c : Configuration) (e : Entry) : Prop where
  subject : Inline e.subject
  function : Inline e.name.function
  label : ∀ label, e.name.label = some label → Inline label
  value : Inline e.value.text
  factory : InlineChild c e.factory

section Lines

variable {c : Configuration}

theorem inline_item (hc : Inline c.runtime) {name : String} (h : Inline name) :
    Inline (c.item name) :=
  .append (.append hc (.literal rfl)) h

/-! ## Lines of plans -/

theorem InlineChild.accessorLines {child : ChildFactory} (h : InlineChild c child)
    {name subject : String} (hname : Inline name) (hsubject : Inline subject) :
    InlineLines (accessorLines c name subject child) := by
  simp only [EditableFields.accessorLines, inlineLines_code_cons, inlineLines_doc_cons,
    inline_append]
  exact ⟨⟨⟨.literal rfl, hsubject⟩, .literal rfl⟩, .literal rfl,
    ⟨⟨⟨⟨.literal rfl, hname⟩, .literal rfl⟩, h.type⟩, .literal rfl⟩, h.expr, .literal rfl,
    inlineLines_nil⟩

theorem inline_bindings (ms : List MemberPlan) : ∀ b ∈ MemberPlan.bindings ms, Inline b := by
  rw [MemberPlan.bindings, List.forall_mem_map]
  exact fun i _ => inline_binding i

theorem inline_parts {ms : List MemberPlan} (h : ∀ m ∈ ms, InlineMember c m) :
    ∀ p ∈ MemberPlan.parts ms, Inline p.1 ∧ Inline p.2 := by
  intro p hp
  obtain ⟨haccess, hbinding⟩ := List.of_mem_zip hp
  obtain ⟨m, hm, heq⟩ := List.mem_map.1 haccess
  exact ⟨heq ▸ (h m hm).access, inline_bindings ms _ hbinding⟩

theorem inline_pattern (form : VariantForm) {type : String} (h : Inline type) :
    Inline (form.pattern type) := by
  cases form with
  | path => exact h
  | marker | named | positional => exact .append h (.literal rfl)

theorem InlineVariant.slotLines {v : VariantPlan} (hv : InlineVariant c v) (hc : Inline c.runtime)
    {value : String} (hvalue : Inline value) : InlineLines (v.slotLines c value) := by
  have factory : Inline (v.factoryExpr c) := by
    unfold VariantPlan.factoryExpr
    cases haccessor : v.accessor with
    | some name =>
      exact .append (.append (.literal rfl) (hv.accessor name haccessor)) (.literal rfl)
    | none => exact hv.factory.expr
  simp only [VariantPlan.slotLines, inlineLines_code_cons, inline_append]
  exact ⟨⟨inline_item hc (.literal rfl), .literal rfl⟩, ⟨hv.tag.quoted, .literal rfl⟩,
    ⟨⟨⟨⟨.literal rfl, hvalue⟩, .literal rfl⟩, inline_pattern _ hv.type⟩, .literal rfl⟩,
    ⟨factory, .literal rfl⟩, ⟨hv.default, .literal rfl⟩, .literal rfl, inlineLines_nil⟩

namespace InlinePlan

variable {p : Plan}

theorem doc (h : InlinePlan c p) : Inline p.doc := by
  unfold Plan.doc
  split
  · exact .append (.append (.literal rfl) h.key) (.literal rfl)
  · exact .append (.append (.literal rfl) h.key.simple) (.literal rfl)

theorem declaration (h : InlinePlan c p) : InlineLines (p.declaration c) := by
  have fields : InlineLines (p.held.flatMap (Plan.heldLines c)) := by
    refine inlineLines_flatMap fun f hf => ?_
    simp only [Plan.heldLines, inlineLines_doc_cons, inlineLines_code_cons, inline_append]
    exact ⟨(h.held f hf).doc, ⟨⟨⟨⟨.literal rfl, (h.held f hf).name⟩, .literal rfl⟩,
      (h.held f hf).type⟩, .literal rfl⟩, inlineLines_nil⟩
  unfold Plan.declaration
  refine inlineLines_doc_cons.2 ⟨h.doc, ?_⟩
  split
  · simp only [inlineLines_code_cons, inline_append]
    exact ⟨.literal rfl, ⟨⟨.literal rfl, h.name⟩, .literal rfl⟩, inlineLines_nil⟩
  · simp only [inlineLines_append, inlineLines_code_cons, inline_append]
    exact ⟨⟨⟨.literal rfl, ⟨⟨.literal rfl, h.name⟩, .literal rfl⟩, inlineLines_nil⟩, fields⟩,
      .literal rfl, inlineLines_nil⟩

theorem constructorMethod (h : InlinePlan c p) : InlineLines (p.constructorMethod c) := by
  have params : ∀ t ∈ p.held.map fun f => f.name ++ ": " ++ f.type.text c, Inline t := by
    rw [List.forall_mem_map]
    exact fun f hf => .append (.append (h.held f hf).name (.literal rfl)) (h.held f hf).type
  have names : ∀ t ∈ p.held.map (·.name), Inline t := by
    rw [List.forall_mem_map]
    exact fun f hf => (h.held f hf).name
  simp only [Plan.constructorMethod, inlineLines_doc_cons, inlineLines_code_cons, inline_append]
  exact ⟨.literal rfl, .literal rfl,
    ⟨⟨.literal rfl, .intercalate (.literal rfl) params⟩, .literal rfl⟩,
    ⟨⟨.literal rfl, .intercalate (.literal rfl) names⟩, .literal rfl⟩, .literal rfl,
    inlineLines_nil⟩

theorem accessorMethods (h : InlinePlan c p) :
    ∀ method ∈ p.accessorMethods c, InlineLines method := by
  unfold Plan.accessorMethods
  cases hbody : p.body with
  | product constructor style members standing =>
    obtain ⟨-, hmembers⟩ := hbody ▸ h.body
    rw [List.forall_mem_map]
    intro m hm
    have hm := hmembers m hm
    exact hm.factory.accessorLines hm.accessor
      (.append (.append (.literal rfl) hm.label) (.literal rfl))
  | sum variants =>
    obtain _ | hvariants := hbody ▸ h.body
    intro method hmethod
    obtain ⟨v, hv, hmethod⟩ := List.mem_filterMap.1 hmethod
    obtain ⟨name, hname, rfl⟩ := Option.map_eq_some_iff.1 hmethod
    have hv := hvariants v hv
    exact hv.factory.accessorLines (hv.accessor name hname)
      (.append (.append (.literal rfl) hv.tag) (.literal rfl))

theorem methodBlock (h : InlinePlan c p) : InlineLines (p.methodBlock c) := by
  have methods : ∀ method ∈ p.methods c, InlineLines method := by
    rw [Plan.methods, List.forall_mem_append]
    refine ⟨?_, h.accessorMethods⟩
    split
    · exact nofun
    · exact List.forall_mem_singleton.2 h.constructorMethod
  unfold Plan.methodBlock
  split
  · exact inlineLines_nil
  · simp only [inlineLines_append, inlineLines_code_cons]
    exact ⟨⟨inlineLines_blank (inlineLines_code_cons.2
      ⟨.append (.append (.literal rfl) h.name) (.literal rfl), inlineLines_nil⟩),
      inlineLines_separated methods⟩, .literal rfl, inlineLines_nil⟩

theorem implementationHead (h : InlinePlan c p) (hc : Inline c.runtime) {field : String}
    (hfield : Inline field) : InlineLines (p.implementationHead c field) := by
  simp only [Plan.implementationHead, inlineLines_code_cons, inline_append]
  exact ⟨⟨⟨⟨⟨⟨⟨.literal rfl, inline_item hc (.literal rfl)⟩, .literal rfl⟩, h.value⟩,
    .literal rfl⟩, h.name⟩, .literal rfl⟩, ⟨⟨.literal rfl, hfield⟩, .literal rfl⟩,
    inlineLines_blank inlineLines_nil⟩

theorem createHead (h : InlinePlan c p) : Inline p.createHead.text :=
  .append (.append (.literal rfl) h.value) (.literal rfl)

theorem splitProduct {value : String} {members : List MemberPlan} (hvalue : Inline value)
    (hmembers : ∀ m ∈ members, InlineMember c m) :
    InlineLines (Plan.splitProduct value members) := by
  have clones : ∀ t ∈ members.map fun m => "value." ++ m.access ++ ".clone()", Inline t := by
    rw [List.forall_mem_map]
    exact fun m hm => .append (.append (.literal rfl) (hmembers m hm).access) (.literal rfl)
  simp only [Plan.splitProduct, inlineLines_code_cons, inline_append]
  exact ⟨⟨⟨⟨⟨.literal rfl, hvalue⟩, .literal rfl⟩, inline_tuple clones⟩, .literal rfl⟩,
    inlineLines_nil⟩

theorem splitVariant {value constructor : String} {style : ConstructorStyle}
    {members : List MemberPlan} (hvalue : Inline value) (hconstructor : Inline constructor)
    (hmembers : ∀ m ∈ members, InlineMember c m) :
    InlineLines (Plan.splitVariant value constructor style members) := by
  have clones : ∀ t ∈ (MemberPlan.bindings members).map (· ++ ".clone()"), Inline t := by
    rw [List.forall_mem_map]
    exact fun b hb => .append (inline_bindings members b hb) (.literal rfl)
  have defaults : ∀ t ∈ members.map (·.default), Inline t := by
    rw [List.forall_mem_map]
    exact fun m hm => (hmembers m hm).default
  simp only [Plan.splitVariant, inlineLines_code_cons, inline_append]
  exact ⟨⟨⟨.literal rfl, hvalue⟩, .literal rfl⟩,
    ⟨⟨⟨inline_construct style hconstructor (inline_parts hmembers), .literal rfl⟩,
      inline_tuple clones⟩, .literal rfl⟩,
    ⟨⟨.literal rfl, inline_tuple defaults⟩, .literal rfl⟩, .literal rfl, inlineLines_nil⟩

theorem productImplementation (h : InlinePlan c p) (hc : Inline c.runtime) {constructor : String}
    {style : ConstructorStyle} {members : List MemberPlan} (standing : Standing)
    (hconstructor : Inline constructor) (hmembers : ∀ m ∈ members, InlineMember c m) :
    InlineLines (p.productImplementation c constructor style members standing) := by
  have combined : Inline (c.item ("Combined" ++ toString members.length)) :=
    inline_item hc (.append (.literal rfl) (inline_toString _))
  have types : ∀ t ∈ members.map fun m => m.value.text, Inline t := by
    rw [List.forall_mem_map]
    exact fun m hm => (hmembers m hm).value
  have labels : ∀ t ∈ members.map fun m => Text.quoted m.label, Inline t := by
    rw [List.forall_mem_map]
    exact fun m hm => (hmembers m hm).label.quoted
  have accessors : ∀ t ∈ members.map fun m => "self." ++ m.accessor ++ "()", Inline t := by
    rw [List.forall_mem_map]
    exact fun m hm => .append (.append (.literal rfl) (hmembers m hm).accessor) (.literal rfl)
  have field : Inline (c.item ("Combined" ++ toString members.length) ++ "<" ++ p.value ++ ", " ++
      String.intercalate ", " (members.map fun m => m.value.text) ++ ">") := by
    simp only [inline_append]
    exact ⟨⟨⟨⟨⟨combined, .literal rfl⟩, h.value⟩, .literal rfl⟩,
      .intercalate (.literal rfl) types⟩, .literal rfl⟩
  simp only [Plan.productImplementation, inlineLines_append]
  refine ⟨⟨⟨h.implementationHead hc field, ?create⟩, ?split⟩, ?close⟩
  case create =>
    refine inlineLines_code_cons.2 ⟨?_, inlineLines_cons.2 ⟨h.createHead, ?_⟩⟩
    · cases standing <;> exact .literal rfl
    · simp only [inlineLines_code_cons, inline_append]
      exact ⟨⟨combined, .literal rfl⟩, .literal rfl, .literal rfl,
        ⟨⟨.literal rfl, .intercalate (.literal rfl) labels⟩, .literal rfl⟩,
        ⟨inline_tuple accessors, .literal rfl⟩,
        ⟨⟨⟨⟨.literal rfl, .intercalate (.literal rfl) (inline_bindings members)⟩, .literal rfl⟩,
          inline_construct style hconstructor (inline_parts hmembers)⟩, .literal rfl⟩,
        inlineLines_nil⟩
  case split =>
    cases standing with
    | topLevel => exact splitProduct h.value hmembers
    | variant => exact splitVariant h.value hconstructor hmembers
  case close =>
    simp only [inlineLines_code_cons]
    exact ⟨.literal rfl, .literal rfl, .literal rfl, inlineLines_nil⟩

theorem sumImplementation (h : InlinePlan c p) (hc : Inline c.runtime)
    {variants : List VariantPlan} (hvariants : ∀ v ∈ variants, InlineVariant c v) :
    InlineLines (p.sumImplementation c variants) := by
  have polymorphic : Inline (c.item "Polymorphic") := inline_item hc (.literal rfl)
  have field : Inline (c.item "Polymorphic" ++ "<" ++ p.value ++ ">") :=
    .append (.append (.append polymorphic (.literal rfl)) h.value) (.literal rfl)
  have slots : InlineLines (variants.flatMap (·.slotLines c p.value)) :=
    inlineLines_flatMap fun v hv => (hvariants v hv).slotLines hc h.value
  simp only [Plan.sumImplementation, inlineLines_append]
  refine ⟨⟨⟨h.implementationHead hc field, ?create⟩, slots⟩, ?close⟩
  case create =>
    refine inlineLines_cons.2 ⟨h.createHead, ?_⟩
    simp only [inlineLines_code_cons, inline_append]
    exact ⟨⟨polymorphic, .literal rfl⟩, .literal rfl, .literal rfl, .literal rfl,
      inlineLines_nil⟩
  case close =>
    simp only [inlineLines_code_cons]
    exact ⟨.literal rfl, .literal rfl, .literal rfl, .literal rfl, inlineLines_nil⟩

theorem lines (h : InlinePlan c p) (hc : Inline c.runtime) : InlineLines (p.lines c) := by
  have implementation : InlineLines (p.implementation c) := by
    unfold Plan.implementation
    cases hbody : p.body with
    | product constructor style members standing =>
      obtain ⟨hconstructor, hmembers⟩ := hbody ▸ h.body
      exact h.productImplementation hc standing hconstructor hmembers
    | sum variants =>
      obtain _ | hvariants := hbody ▸ h.body
      exact h.sumImplementation hc hvariants
  simp only [Plan.lines, inlineLines_append]
  exact ⟨⟨⟨h.declaration, h.methodBlock⟩, inlineLines_blank inlineLines_nil⟩, implementation⟩

end InlinePlan

/-! ## Lines of entry points -/

theorem inline_borrowed {expr : String} (h : Inline expr) : Inline (borrowed expr) := by
  have borrow : ∀ {s : String}, Inline s → Inline ("&" ++ s) := .append (.literal rfl)
  unfold borrowed
  split
  · next rest hexpr =>
    have base : Inline (String.ofList rest.reverse) := by
      rw [inline_ofList]
      intro ch hch
      refine h ch (List.mem_reverse.1 ?_)
      simp only [hexpr, List.mem_cons]
      simp [List.mem_reverse.1 hch]
    dsimp only
    split
    · exact base
    · exact borrow base
  · exact borrow h

theorem InlineEntry.lines {e : Entry} (h : InlineEntry c e) (hc : Inline c.runtime) :
    InlineLines (e.lines c) := by
  have path : Inline (e.factoryPath c) := by
    simp only [Entry.factoryPath, inline_append]
    exact ⟨⟨⟨⟨⟨⟨.literal rfl, h.factory.type⟩, .literal rfl⟩, inline_item hc (.literal rfl)⟩,
      .literal rfl⟩, h.value⟩, .literal rfl⟩
  have factory : Inline (e.factoryParameter c) := by
    unfold Entry.factoryParameter
    split
    · next f hf =>
      exact .append (.append (.literal rfl) (h.factory.held f hf).type) (.literal rfl)
    · exact .literal rfl
  have parameter : Inline e.labelParameter := by
    unfold Entry.labelParameter
    split <;> exact .literal rfl
  have argument : Inline e.labelArgument := by
    unfold Entry.labelArgument
    split
    · next label hlabel =>
      exact .append (.append (.literal rfl) (h.label label hlabel).quoted) (.literal rfl)
    · exact .literal rfl
  have function : ∀ indent, InlineLines (e.functionLines c indent) := by
    intro indent
    simp only [Entry.functionLines, inlineLines_doc_cons, inlineLines_code_cons, inline_append]
    exact ⟨⟨⟨.literal rfl, h.subject.simple⟩, .literal rfl⟩, .literal rfl,
      ⟨⟨⟨⟨⟨⟨⟨⟨⟨.literal rfl, h.function⟩, .literal rfl⟩, factory⟩, parameter⟩, .literal rfl⟩,
        h.value⟩, .literal rfl⟩, path⟩, .literal rfl⟩,
      ⟨⟨⟨⟨⟨path, .literal rfl⟩, inline_borrowed h.factory.expr⟩, .literal rfl⟩, argument⟩,
        .literal rfl⟩, .literal rfl, inlineLines_nil⟩
  unfold Entry.lines
  split
  · exact function 0
  · simp only [inlineLines_append, inlineLines_code_cons, inline_append]
    exact ⟨⟨⟨⟨⟨.literal rfl, h.subject⟩, .literal rfl⟩, inlineLines_nil⟩, function 1⟩,
      .literal rfl, inlineLines_nil⟩

/-! ## All lines -/

/-- All that is written for plans and entry points is clear. The first line is a comment, but not
documentation. -/
theorem Planning.clear_lines {s : Planning} (hc : Inline c.runtime)
    (hplans : ∀ p ∈ s.inOrder, InlinePlan c p) (hentries : ∀ e ∈ s.entries, InlineEntry c e) :
    ∀ l ∈ s.lines c, l.Clear := by
  have plans : InlineLines (s.inOrder.flatMap fun p => .blank :: p.lines c) :=
    inlineLines_flatMap fun p hp => inlineLines_blank ((hplans p hp).lines hc)
  have entries : InlineLines (s.entries.flatMap fun e => .blank :: e.lines c) :=
    inlineLines_flatMap fun e he => inlineLines_blank ((hentries e he).lines hc)
  rw [Planning.lines, List.forall_mem_append, List.forall_mem_append, List.forall_mem_singleton]
  refine ⟨⟨⟨?_, fun _ => ?_⟩, fun l hl => l.clear_of_inline (plans l hl)⟩,
    fun l hl => l.clear_of_inline (entries l hl)⟩
  · decide +kernel
  · decide +kernel

end Lines

end EditableFields
