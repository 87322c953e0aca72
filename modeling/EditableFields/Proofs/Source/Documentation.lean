import EditableFields.Proofs.Planning.Comparison
import EditableFields.Proofs.Planning.Reordering
import EditableFields.Proofs.Source.Holding
import EditableFields.Proofs.Source.InlineLines
import EditableFields.Proofs.Survey.Worded

/-!
# Source: documentation apart from code

Without documentation the same is planned, and the lines that are written for it are the same but
for those of documentation. That these can be told from the text alone, by how they begin, needs
that no name breaks a line or begins a comment: then neither does anything that is written with the
names (`Worded.inlinePlan`, `Worded.inlineEntry`), the reasons in the documentation of obligations
included, and every line is clear (`generate_withoutDocs`).
-/

namespace EditableFields

theorem InlineBody.child {c : Configuration} {body : PlanBody} (h : InlineBody c body)
    {child : ChildFactory} (hchild : child ∈ body.children) : InlineChild c child := by
  cases h with
  | product _ hmembers =>
    obtain ⟨m, hm, rfl⟩ := List.mem_map.1 hchild
    exact (hmembers m hm).factory
  | sum hvariants =>
    obtain ⟨v, hv, rfl⟩ := List.mem_map.1 hchild
    exact (hvariants v hv).factory

theorem inline_word {w : String} (h : w ∈ expressionWords) : Inline w := by
  have words : ∀ w ∈ expressionWords, Inline w := by decide +kernel
  exact words w h

/-- Text that is composed of names within a line stays within a line. -/
theorem Composed.inline {Given : String → Prop} {fields : List String} {t : String}
    (h : Composed Given fields t) (hgiven : ∀ n, Given n → Inline n)
    (hfields : ∀ field ∈ fields, Inline field) : Inline t := by
  induction h with
  | nil => exact .literal rfl
  | word hw => exact inline_word hw
  | name hn => exact hgiven _ hn
  | own field =>
    obtain ⟨hfield, -⟩ := List.forall_mem_cons.1 hfields
    exact .append (.append (.literal rfl) hfield) (.literal rfl)
  | append _ _ iht ihu =>
    obtain ⟨hfs, hgs⟩ := List.forall_mem_append.1 hfields
    exact .append (iht hfs) (ihu hgs)

namespace Planning

variable {ds : List Descriptor} {c : Configuration} {rs : List Request} {s t : Planning}

/-! ## What is known when requests were planned -/

/-- Requests were answered, each with its entry point. The plans are named for what they are of,
and all that was found is worded within a line. -/
structure Worded (ds : List Descriptor) (c : Configuration) (rs : List Request) (s : Planning) :
    Prop extends Answered (.ofList ds) c rs s where
  proper : ∀ entry ∈ s.plans, entry.2.Proper (.ofList ds)
  recorded : List.Forall₂ (EntryFor (.ofList ds) c s) rs s.entries
  worded : s.survey.Worded

theorem worded_fresh (ds : List Descriptor) (c : Configuration) : Worded ds c [] fresh where
  toAnswered := answered_fresh _ c
  proper := by simp [fresh]
  recorded := .nil
  worded := Survey.worded_fresh

section Requests

variable (hspells : ∀ n, (Catalog.ofList ds).Spells n → Inline n)

include hspells

theorem worded_startOf {survey : Survey} (hidle : survey.Idle) (h : survey.Worded) (r : Request) :
    (startOf (.ofList ds) r survey).2.Worded := by
  unfold startOf
  split
  · exact h
  · next d hget =>
    split
    · exact h
    · exact hidle.worded_classify hspells h (.of_get? hget)

theorem Worded.request (hs : Worded ds c rs s) {r : Request}
    (h : planRequest c (.ofList ds) r s = .ok t) : Worded ds c (rs ++ [r]) t where
  toAnswered := planRequest_answered hs.toAnswered h
  proper := (planRequest_takes hs.toAnswered hs.proper h).plans
  recorded := hs.toAnswered.recorded_request hs.recorded h
  worded := by
    rw [(planRequest_advance hs.between h).2]
    exact worded_startOf hspells hs.between.idle hs.worded r

theorem planRequests_worded {before : List Request} (hs : Worded ds c before s)
    (h : planRequests c (.ofList ds) rs s = .ok t) : Worded ds c (before ++ rs) t := by
  induction rs generalizing before s with
  | nil =>
    cases h
    rwa [List.append_nil]
  | cons r rs ih =>
    obtain ⟨u, hr, hrs⟩ := bind_eq_ok.1 h
    rw [List.append_cons]
    exact ih (hs.request hspells hr) hrs

/-- The key, the type of values and the name of a plan stay within a line. -/
theorem Worded.inline_plan (hs : Worded ds c rs s) {p : Plan} (hp : p ∈ s.inOrder) :
    Inline p.key ∧ Inline p.value ∧ Inline p.name := by
  obtain ⟨hkey, hvalue⟩ := (hs.spells_plan hp).imp (hspells _) (hspells _)
  obtain ⟨before, after, hplans, -⟩ := List.lookup_eq_some_iff.1 (hs.between.mem_inOrder.1 hp)
  obtain ⟨hname, -⟩ : p.Proper (.ofList ds) := hs.proper (p.key, p) (by simp [hplans])
  refine ⟨hkey, hvalue, ?_⟩
  rw [hname]
  cases p.standing with
  | topLevel => exact hkey.factoryType
  | variant => exact hvalue.variantFactoryType hkey

end Requests

/-! ## Texts of children -/

/-- A child that is edited by a planned factory. -/
theorem inlineChild_child {q : Plan} (hkey : Inline q.key) (hname : Inline q.name) {field : String}
    (hfield : Inline field) (receiver : Receiver) : InlineChild c (q.child field receiver) := by
  unfold Plan.child
  split
  · exact ⟨hname, hname, nofun⟩
  · refine ⟨hname, ?_, ?_⟩
    · cases receiver with
      | own => exact .append (.append (.literal rfl) hfield.escape) (.literal rfl)
      | parameter => exact .literal rfl
    · rintro _ ⟨⟩
      exact ⟨hfield.escape, hname, .append (.append (.literal rfl) hkey.simple) (.literal rfl)⟩

section Children

variable {catalog : Catalog} {m : ResolvedMember Classification} (hc : Inline c.runtime)
  (hspells : ∀ n, catalog.Spells n → Inline n)

include hc hspells

/-- Text that is composed of names of the catalog, with nothing planned yet. -/
theorem inline_of_composed {text : String}
    (h : Composed (Nameable catalog c fresh) [] text) : Inline text := by
  refine h.inline (fun n hn => ?_) nofun
  cases hn with
  | runtime => exact hc
  | spelled hn => exact hspells _ hn
  | escaped hn => exact (hspells _ hn).escape
  | factory hp => cases hp

theorem SpelledMember.inlineChild_wrapper (hm : SpelledMember catalog m) {w : ValueWrapper}
    (hw : m.wrapper = some w) : InlineChild c (.wrapper m.type w) := by
  have transform : Inline (c.item "TransformField") := inline_item hc (.literal rfl)
  have leaf : Inline (c.item w.primitive.leafName) :=
    inline_item hc (inline_word w.primitive.words.1)
  refine ⟨?_, inline_of_composed hc hspells (hm.composed_wrapper hw), nofun⟩
  simp only [ChildFactory.type, FactoryType.text, inline_append]
  exact ⟨⟨⟨⟨⟨⟨⟨transform, .literal rfl⟩, leaf⟩, .literal rfl⟩, hspells _ hm.type⟩, .literal rfl⟩,
    inline_word w.primitive.words.2.1⟩, .literal rfl⟩

theorem SpelledMember.inlineChild_choice (hm : SpelledMember catalog m) {entries : List String}
    (hw : m.wrapper = none) (hk : m.classification = .enumeration entries) :
    InlineChild c (.choice m.type entries) := by
  have choice : Inline (c.item "EnumField") := inline_item hc (.literal rfl)
  refine ⟨?_, inline_of_composed hc hspells (composed_choice hm.type (hm.entry _ hw hk)), nofun⟩
  exact .append (.append (.append choice (.literal rfl)) (hspells _ hm.type)) (.literal rfl)

/-- The factory of a member, not looking at whether it is optional. The member is named where it is
left to the caller. -/
theorem BaseOf.inlineChild {receiver : Receiver} {base : ChildFactory}
    (h : BaseOf c s receiver m base) (hm : SpelledMember catalog m)
    (hplans : ∀ q, s.plans.lookup m.type = some q → Inline q.key ∧ Inline q.name)
    (hrefused : ∀ reason, m.classification = .unsupported reason →
      Inline m.name ∧ Inline reason.message) : InlineChild c base := by
  have type : Inline m.type := hspells _ hm.type
  cases h with
  | wrapper hw => exact hm.inlineChild_wrapper hc hspells hw
  | @leaf kind hw hk =>
    have leaf : Inline (c.item kind.leafName) := inline_item hc (inline_word kind.words.1)
    exact ⟨leaf, leaf, nofun⟩
  | choice hw hk => exact hm.inlineChild_choice hc hspells hw hk
  | fixed hw hk =>
    have fixed : Inline (c.item "FixedField") := inline_item hc (.literal rfl)
    exact ⟨fixed, fixed, nofun⟩
  | external hw hk =>
    have path := hspells _ (hm.factory _ hw hk)
    exact ⟨path, inline_derivedDefault path, nofun⟩
  | planned hw hcomposite hq =>
    obtain ⟨hkey, hname⟩ := hplans _ hq
    exact inlineChild_child hkey hname type.simple.snake receiver
  | obligation hw hk htolerant =>
    obtain ⟨hname, hreason⟩ := hrefused _ hk
    have shared : Inline (c.item "SharedFactory" ++ "<" ++ m.type ++ ">") :=
      .append (.append (.append (inline_item hc (.literal rfl)) (.literal rfl)) type)
        (.literal rfl)
    refine ⟨shared, ?_, ?_⟩
    · exact .append (.append (.literal rfl) hname.obligation) (.literal rfl)
    · rintro _ ⟨⟩
      exact ⟨hname.obligation, shared, .append (.append (.append (.append (.literal rfl) hname)
        (.literal rfl)) hreason) (.literal rfl)⟩

theorem ChildOf.inlineChild {receiver : Receiver} {child : ChildFactory}
    (h : ChildOf c s receiver m child) (hm : SpelledMember catalog m)
    (hplans : ∀ q, s.plans.lookup m.type = some q → Inline q.key ∧ Inline q.name)
    (hrefused : ∀ reason, m.classification = .unsupported reason →
      Inline m.name ∧ Inline reason.message) : InlineChild c child := by
  obtain ⟨base, hbase, rfl⟩ := h
  have inner := hbase.inlineChild hc hspells hm hplans hrefused
  have optional : Inline (c.item "NullableField") := inline_item hc (.literal rfl)
  have default : Inline (valueDefault m.type m.wrapper m.classification) :=
    inline_of_composed hc hspells hm.composed_default
  unfold lift
  split
  · refine ⟨?_, ?_, inner.held⟩
    · exact .append (.append (.append (.append (.append optional (.literal rfl)) inner.type)
        (.literal rfl)) (hspells _ hm.type)) (.literal rfl)
    · exact .append (.append (.append (.append (.append optional (.literal rfl)) inner.expr)
        (.literal rfl)) default) (.literal rfl)
  · exact inner

end Children

theorem inline_value {m : ResolvedMember Classification} (h : Inline m.type) :
    Inline m.value.text := by
  unfold ResolvedMember.value
  split
  · exact .append (.append (.literal rfl) h) (.literal rfl)
  · exact h

/-! ## Texts of plans and entry points -/

section Texts

variable (hspells : ∀ n, (Catalog.ofList ds).Spells n → Inline n)

include hspells

theorem Worded.inline_planned (hs : Worded ds c rs s) {key : String} {q : Plan}
    (hq : s.plans.lookup key = some q) : Inline q.key ∧ Inline q.name := by
  have hp : q ∈ s.inOrder := hs.between.mem_inOrder.2 ((hs.made key q hq).1.symm ▸ hq)
  exact ⟨(hs.inline_plan hspells hp).1, (hs.inline_plan hspells hp).2.2⟩

/-- A member of a product that was found, with its default value and its reason if it is refused. -/
theorem Worded.inline_member (hs : Worded ds c rs s) (hc : Inline c.runtime) {n : String}
    {style : ConstructorStyle} {members : List (ResolvedMember Classification)}
    (hk : s.survey.memoized n = some (.product style members))
    {m : ResolvedMember Classification} (hm : m ∈ members) :
    Inline m.name ∧ Inline (memberDefault m) ∧
      ∀ reason, m.classification = .unsupported reason → Inline reason.message := by
  obtain ⟨hname, hspelled⟩ := hs.spells_members hk m hm
  refine ⟨hspells _ hname, ?_, fun reason hreason => ?_⟩
  · unfold memberDefault
    split
    · exact .literal rfl
    · exact inline_of_composed hc hspells hspelled.composed_default
  · exact hs.worded.memo.of_memoized hk reason (.member hm (hreason ▸ .self _))

/-- The default values of a plan's members, which a variant's default value is built from. -/
theorem Worded.inline_memberDefaults (hs : Worded ds c rs s) (hc : Inline c.runtime)
    {key : String} {q : Plan} (hq : s.plans.lookup key = some q) :
    ∀ d ∈ q.body.memberDefaults, Inline d.1 ∧ Inline d.2 := by
  obtain ⟨-, -, k, hk, hmade⟩ := hs.made key q hq
  cases hmade with
  | product hbody hmembers _ =>
    rw [hbody, PlanBody.memberDefaults, List.forall_mem_map]
    intro planned hplanned
    obtain ⟨m, hm, child, -, rfl⟩ := exists_left_of_forall₂ hmembers hplanned
    obtain ⟨hname, hdefault, -⟩ := hs.inline_member hspells hc hk hm
    exact ⟨hname.escape, hdefault⟩
  | sum hbody =>
    rw [hbody]
    exact nofun

theorem VariantOf.inlineVariant (hs : Worded ds c rs s) (hc : Inline c.runtime)
    {v : ResolvedVariant Classification} {planned : VariantPlan} (h : VariantOf s v planned)
    (htype : Inline v.type) (hname : Inline v.name) : InlineVariant c planned := by
  have constant : InlineChild c .fixed :=
    have fixed : Inline (c.item "FixedField") := inline_item hc (.literal rfl)
    ⟨fixed, fixed, nofun⟩
  cases h with
  | valueless => exact ⟨hname, htype, htype, constant, nofun⟩
  | marker => exact ⟨hname, htype, .append htype (.literal rfl), constant, nofun⟩
  | product hq =>
    obtain ⟨hkey, hfactory⟩ := hs.inline_planned hspells hq
    refine ⟨hname, htype, ?_, inlineChild_child hkey hfactory hname.snake .own, ?_⟩
    · exact inline_construct _ htype (hs.inline_memberDefaults hspells hc hq)
    · rintro _ ⟨⟩
      exact hname.accessor

/-- What is planned stays within a line. -/
theorem Worded.inlinePlan (hs : Worded ds c rs s) (hc : Inline c.runtime) {p : Plan}
    (hp : p ∈ s.inOrder) : InlinePlan c p := by
  obtain ⟨hkey, hvalue, hname⟩ := hs.inline_plan hspells hp
  obtain ⟨-, -, k, hk, hmade⟩ := hs.made _ p (hs.between.mem_inOrder.1 hp)
  have parts : InlineBody c p.body ∧ HoldsFor c p := by
    cases hmade with
    | product hbody hmembers hheld =>
      refine ⟨hbody ▸ .product hkey fun planned hplanned => ?_, hheld⟩
      obtain ⟨m, hm, child, hchild, rfl⟩ := exists_left_of_forall₂ hmembers hplanned
      obtain ⟨hmname, hdefault, hreason⟩ := hs.inline_member hspells hc hk hm
      have hspelled := (hs.spells_members hk m hm).2
      have factory := hchild.inlineChild hc hspells hspelled
        (fun q hq => hs.inline_planned hspells hq) fun reason h => ⟨hmname, hreason reason h⟩
      exact ⟨hmname, hmname.escape, hmname.accessor, inline_value (hspells _ hspelled.type),
        factory, hdefault⟩
    | sum hbody hvariants _ hheld =>
      refine ⟨hbody ▸ .sum fun planned hplanned => ?_, hheld⟩
      obtain ⟨v, hv, hvariant⟩ := exists_left_of_forall₂ hvariants hplanned
      obtain ⟨htype, hvname⟩ := hs.spells_variants hk v hv
      have type := hspells _ htype
      exact hvariant.inlineVariant hspells hs hc type (hvname ▸ type.simple)
  obtain ⟨body, hheld⟩ := parts
  refine ⟨hkey, hname, hvalue, body, fun f hf => ?_⟩
  obtain ⟨-, -, -, hneeded⟩ := foldlM_hold_spec hheld (by simp)
  obtain ⟨child, hchild, hf⟩ := (hneeded f hf).resolve_left (by simp)
  exact (body.child hchild).held f hf

/-- Entry points stay within a line, where the functions that requests name do. -/
theorem Worded.inlineEntry (hs : Worded ds c rs s) (hc : Inline c.runtime)
    (hfunctions : ∀ r ∈ rs, ∀ name, r.function = some name → Inline name) {e : Entry}
    (he : e ∈ s.entries) : InlineEntry c e := by
  obtain ⟨r, -, hsubject, m, hm, hvalue, hchild⟩ := exists_left_of_forall₂ hs.entries he
  have spelled := hm.spelled hs.toAnswered
  have type : Inline m.type := hspells _ spelled.type
  have name : Inline e.name.function ∧ ∀ label, e.name.label = some label → Inline label := by
    obtain ⟨r, hr, hentry⟩ := exists_left_of_forall₂ hs.recorded he
    cases hentry with
    | factory _ hget | field _ hget =>
      exact (hspells _ (Catalog.spells_of_get? hget)).entryName (hfunctions r hr) _ _
  refine ⟨hsubject ▸ hm.type_eq ▸ type, name.1, name.2, hvalue ▸ inline_value type, ?_⟩
  refine hchild.inlineChild hc hspells spelled (fun q hq => hs.inline_planned hspells hq) ?_
  -- A subject that is refused has no entry point.
  intro reason hreason
  have hsupported := hm.supported
  rw [hreason] at hsupported
  cases hsupported

end Texts

/-! ## With and without documentation -/

/-- Whether there is documentation makes no difference to what is planned. -/
theorem comparison_docs (c : Configuration) (docs docs' : Bool) :
    Comparison { c with docs } { c with docs := docs' } Eq where
  runtime_eq := rfl
  nameCase_eq := rfl
  refl _ := rfl
  bind h hfg := by rw [h, funext hfg]
  obligation _ _ _ _ := rfl

/-- Where no name, no path of a factory and no path of the runtime library has a line feed or a
slash in it, to leave out documentation removes the lines that begin with three slashes after
spaces, and nothing else; a request that fails does so with the same error. -/
theorem generate_withoutDocs (hspells : ∀ n, (Catalog.ofList ds).Spells n → Inline n)
    (c : Configuration) (hc : Inline c.runtime) {requests : List Request}
    (hfunctions : ∀ r ∈ requests, ∀ name, r.function = some name → Inline name) :
    (Catalog.ofList ds).generate { c with docs := false } requests =
      ((Catalog.ofList ds).generate { c with docs := true } requests).map withoutDocs := by
  have planned := (comparison_docs c true false).planRequests (.ofList ds) requests .fresh
  unfold Catalog.generate
  rw [← planned]
  cases hrun : planRequests { c with docs := true } (.ofList ds) requests .fresh with
  | error e => rfl
  | ok s =>
    have hs := planRequests_worded hspells (worded_fresh ds _) hrun
    have clear : ∀ l ∈ s.lines { c with docs := true }, l.Clear :=
      clear_lines hc (fun p hp => hs.inlinePlan hspells hc hp)
        fun e he => hs.inlineEntry hspells hc hfunctions he
    have runtime : { c with docs := false }.runtime = { c with docs := true }.runtime := rfl
    have same : s.lines { c with docs := false } = s.lines { c with docs := true } :=
      lines_congr runtime s
    have texts : s.source { c with docs := false } =
        withoutDocs (s.source { c with docs := true }) := by
      rw [source, source, same, withoutDocs_renderLines clear]
    exact congrArg Except.ok texts

/-- Of the factories for a scene, one is left to the caller for a reason that its documentation
gives; without documentation the rest is the same. -/
theorem generate_withoutDocs_studio :
    (∀ n, (Catalog.ofList studio).Spells n → Inline n) ∧ Inline tolerantly.runtime ∧
      (∀ r ∈ studioRequests, ∀ name, r.function = some name → Inline name) ∧
      ∃ text, (Catalog.ofList studio).generate tolerantly studioRequests = .ok text ∧
        (Catalog.ofList studio).generate { tolerantly with docs := false } studioRequests =
          .ok (withoutDocs text) := by
  have spelled : ∀ place ∈ placesOf .topLevel (Catalog.ofList studio).types,
      ∀ n ∈ place.2.spelling, Inline n := by decide +kernel
  have hspells : ∀ n, (Catalog.ofList studio).Spells n → Inline n := by
    rintro n ⟨standing, d, hd, hn⟩
    exact spelled (standing, d) hd.mem_placesOf n hn
  have hc : Inline tolerantly.runtime := .literal rfl
  have hfunctions : ∀ r ∈ studioRequests, ∀ name, r.function = some name → Inline name := by
    simp [studioRequests, Request.plain]
  obtain ⟨text, h⟩ := exists_generate_studio
  refine ⟨hspells, hc, hfunctions, text, h, ?_⟩
  rw [generate_withoutDocs hspells tolerantly hc hfunctions]
  exact congrArg (Except.map withoutDocs) h

end Planning

end EditableFields
