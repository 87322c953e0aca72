import EditableFields.Proofs.Survey.Plain
import Mathlib.Data.List.Chain

/-!
# Surveys: circles that are reported are there

A type is refused as circular with a path of names. The path is cut from the stack of types in
progress, and on the stack each type refers to the one above it (`Linked`), so the path leads from
a type back to it by references (`circle_closeLoop`). It is kept for each type on it until that
type is left, and then is the reason of its refusal; nothing else is refused with such a reason
(`local_expand`). Both the loops recorded and the refusals remembered stay true to the
catalog throughout (`Truthful`), and so a type that is refused as circular is its own descendant
(`reported_circle`).
-/

namespace EditableFields

/-! ## Reasons that report a circle -/

namespace Refusal

/-- The reason says that a type is circular, and then a text. -/
def Reports (reason : Refusal) (text : String) : Prop :=
  reason.message = "circular type reference: " ++ text

theorem reports_circular {path : List String} {text : String}
    (h : (circular path).Reports text) : text = String.intercalate " -> " path :=
  ((String.append_right_inj _).1 h).symm

/-- The reason lies in the shape of a type or in its variants. -/
def Local : Refusal → Prop
  | noCompanion kind _ => kind = "product" ∨ kind = "sum"
  | circular _ => False
  | _ => True

/-- Only a circular type is said to be one. -/
theorem Local.not_reports {reason : Refusal} (h : reason.Local) (text : String) :
    ¬ reason.Reports text := by
  intro hr
  have first : reason.message.toList.head? = some 'c' := by
    rw [hr, String.toList_append]
    simp
  unfold message at first
  cases reason with
  | circular path => exact h
  | noCompanion kind name => rcases h with rfl | rfl <;> simp at first
  | unknownType | noEntries | noVariants | memberCount | sealed | variantRefused | variantKind
  | tooDeep => simp at first

end Refusal

theorem Refusal.OfExpansion.local {reason : Refusal} (h : reason.OfExpansion) : reason.Local := by
  cases reason with
  | noCompanion => exact h
  | unknownType | circular | tooDeep => cases h
  | noEntries | noVariants | memberCount | sealed | variantRefused | variantKind => trivial

namespace Survey

variable {catalog : Catalog} {f : Classifier}

/-- No type is expanded to a refusal as circular: what is refused so has a loop recorded. -/
theorem local_expand {standing : Standing} {d : Descriptor} {s : Survey} {reason : Refusal}
    (h : (expand catalog f d.name (d.shape standing) s).1 = .unsupported reason) :
    reason.Local :=
  (ofExpansion_of_expand h).local

end Survey

/-! ## Circles -/

/-- The type of one name refers to the type of another: to the type of a member that is no value
wrapper, or to a variant. A type that is named like a primitive refers to nothing. -/
def NameRefers (catalog : Catalog) (a b : String) : Prop :=
  Primitive.ofTypeName? a = none ∧ ∃ standing d e,
    Placed catalog standing d ∧ d.name = a ∧ Refers catalog d e ∧ e.name = b

/-- The names lead over one reference or more from a type back to it. -/
structure Circle (catalog : Catalog) (names : List String) : Prop where
  refers : names.IsChain (NameRefers catalog)
  closed : names.head? = names.getLast?
  long : 2 ≤ names.length

theorem pairwise_transGen {α : Type} {R : α → α → Prop} {l : List α} (h : l.IsChain R) :
    l.Pairwise (Relation.TransGen R) :=
  (h.imp fun _ _ => .single).pairwise

/-- Every type on a circle leads back to itself. -/
theorem Circle.transGen {catalog : Catalog} {names : List String} (h : Circle catalog names)
    {x : String} (hx : x ∈ names) : Relation.TransGen (NameRefers catalog) x x := by
  obtain ⟨hchain, hclosed, hlong⟩ := h
  have pairwise := pairwise_transGen hchain
  obtain _ | ⟨first, rest⟩ := names
  · cases hx
  -- The last name is the first once more.
  have hne : rest ≠ [] := by
    rintro rfl
    simp at hlong
  have hlast : rest.getLast hne = first := by
    simpa [List.getLast?_cons, List.getLast?_eq_some_getLast hne] using hclosed.symm
  rw [← List.dropLast_append_getLast hne, hlast] at pairwise hx
  obtain ⟨hfirst, hrest⟩ := List.pairwise_cons.1 pairwise
  have loop : Relation.TransGen (NameRefers catalog) first first := hfirst first (by simp)
  simp only [List.mem_cons, List.mem_append, List.not_mem_nil, or_false] at hx
  rcases hx with rfl | hx | rfl
  · exact loop
  · have back := (List.pairwise_append.1 hrest).2.2 x hx first (by simp)
    exact back.trans (hfirst x (by simp [hx]))
  · exact loop

/-- Where names differ, a way of names is a way of types. -/
theorem transGen_refers {ds : List Descriptor} (distinct : (variantNames ds).Nodup)
    {a b : String} (h : Relation.TransGen (NameRefers (.ofList ds)) a b) :
    ∃ standing d e, Placed (.ofList ds) standing d ∧ d.name = a ∧ e.name = b ∧
      Primitive.ofTypeName? a = none ∧ (∃ standing, Placed (.ofList ds) standing e) ∧
      Relation.TransGen (Refers (.ofList ds)) d e := by
  induction h with
  | single hab =>
    obtain ⟨hprim, st, d, e, hd, hda, hde, heb⟩ := hab
    exact ⟨st, d, e, hd, hda, heb, hprim, hd.refers hde, .single hde⟩
  | tail _ hbc ih =>
    obtain ⟨st, d, e, hd, hda, heb, hprim, ⟨st', he⟩, hde⟩ := ih
    obtain ⟨hprim', st'', e', c, he', heb', hec, hc⟩ := hbc
    obtain ⟨-, rfl⟩ := he.unique distinct he' (heb.trans heb'.symm) (heb ▸ hprim')
    exact ⟨st, d, c, hd, hda, hc, hprim, he.refers hec, hde.tail hec⟩

/-- Where names differ, a type that leads back to itself by names is its own descendant. -/
theorem descendant_of_transGen {ds : List Descriptor} (distinct : (variantNames ds).Nodup)
    {x : String} (h : Relation.TransGen (NameRefers (.ofList ds)) x x) :
    ∃ standing d, Placed (.ofList ds) standing d ∧ d.name = x ∧
      Relation.TransGen (Refers (.ofList ds)) d d := by
  obtain ⟨st, d, e, hd, hdx, hex, hprim, ⟨st', he⟩, hde⟩ := transGen_refers distinct h
  obtain ⟨-, rfl⟩ := hd.unique distinct he (hdx.trans hex.symm) (hdx ▸ hprim)
  exact ⟨st, d, hd, hdx, hde⟩

namespace Survey

variable {catalog : Catalog}

/-! ## The stack -/

/-- Each type in progress refers to the one above it, and the innermost one to the type that is
asked for. -/
def Linked (catalog : Catalog) (q : Inquiry) : Prop :=
  (q.descriptor.name :: q.survey.inProgress).IsChain fun inner outer =>
    NameRefers catalog outer inner

theorem Linked.of_nested {f : Classifier} {q p : Inquiry} (h : Linked catalog q)
    (hq : Placed catalog q.standing q.descriptor) (hp : p ∈ q.nested catalog f)
    (hext : Extends (q.survey.enter q.descriptor.name) p.survey) : Linked catalog p := by
  have hstack : p.survey.inProgress = q.descriptor.name :: q.survey.inProgress := hext.inProgress
  rw [Linked, hstack]
  have href : NameRefers catalog q.descriptor.name p.descriptor.name :=
    ⟨not_primitive_of_mem_inquiries hp, _, _, _, hq, rfl, refers_of_mem_inquiries hp, rfl⟩
  exact .cons_cons href h

theorem exists_eq_takeWhile_append {l : List String} {name : String} (h : name ∈ l) :
    ∃ rest, l = l.takeWhile (· != name) ++ name :: rest := by
  induction l with
  | nil => cases h
  | cons n l ih =>
    by_cases hn : n = name
    · exact ⟨l, by simp [hn]⟩
    · obtain ⟨rest, hrest⟩ := ih ((List.mem_cons.1 h).resolve_left (Ne.symm hn))
      exact ⟨rest, by simpa [hn] using hrest⟩

/-- The path of a loop that is closed is a circle. -/
theorem circle_closeLoop {q : Inquiry} (h : Linked catalog q)
    (hs : q.descriptor.name ∈ q.survey.inProgress) :
    Circle catalog (q.survey.loopOf q.descriptor.name ++ [q.descriptor.name]) := by
  obtain ⟨rest, hstack⟩ := exists_eq_takeWhile_append hs
  -- The stack down to the type that is met, which was asked for by what is above it.
  have hchain : (q.descriptor.name ::
      (q.survey.inProgress.takeWhile (· != q.descriptor.name) ++ [q.descriptor.name])).IsChain
        fun inner outer => NameRefers catalog outer inner := by
    refine List.IsChain.prefix h ⟨rest, ?_⟩
    conv_rhs => rw [hstack]
    simp
  refine ⟨?_, ?_, ?_⟩
  · rw [← List.isChain_reverse] at hchain
    simpa [loopOf] using hchain
  · rw [loopOf, List.getLast?_concat]
    rfl
  · simp [loopOf]

/-! ## Surveys that are true to a catalog -/

/-- Every loop that is recorded is a circle through the type it is recorded for, and so is every
one that a finished type is refused for. -/
structure Truthful (catalog : Catalog) (s : Survey) : Prop where
  loops : ∀ n path, s.loops.lookup n = some path → Circle catalog path ∧ n ∈ path
  memo : ∀ n reason text, s.memoized n = some (.unsupported reason) → reason.Reports text →
    ∃ names, text = String.intercalate " -> " names ∧ Circle catalog names ∧ n ∈ names

theorem truthful_fresh : Truthful catalog fresh :=
  ⟨by simp [fresh], by simp [fresh, memoized]⟩

theorem Truthful.closeLoop {q : Inquiry} (h : Truthful catalog q.survey) (hq : Linked catalog q)
    (hs : q.descriptor.name ∈ q.survey.inProgress) :
    Truthful catalog (q.survey.closeLoop q.descriptor.name).2 where
  loops n path hp := by
    rw [lookup_closeLoop, Option.or_eq_some_iff] at hp
    rcases hp with hp | ⟨-, hp⟩
    · exact h.loops n path hp
    · split at hp
      · rename_i hn
        cases hp
        exact ⟨circle_closeLoop hq hs, List.mem_append_left _ hn⟩
      · cases hp
  memo := h.memo

theorem Truthful.leave {t : Survey} (h : Truthful catalog t) {found : Classification}
    (hfound : ∀ reason, found = .unsupported reason → reason.Local) (name : String) :
    Truthful catalog (t.leave name found).2 where
  loops n path hp := by
    rw [lookup_loops_leave] at hp
    split at hp
    · cases hp
    · exact h.loops n path hp
  memo n reason text hn hr := by
    rw [memoized_leave] at hn
    split at hn
    · rename_i hname
      rw [Option.some_inj] at hn
      simp only [Survey.leave] at hn
      cases hl : t.loops.lookup name with
      | none =>
        simp only [hl] at hn
        exact absurd hr ((hfound reason hn).not_reports text)
      | some path =>
        simp only [hl] at hn
        cases hn
        rw [hname]
        exact ⟨path, Refusal.reports_circular hr, h.loops name path hl⟩
    · exact h.memo n reason text hn hr

/-- What can be relied on when a type is asked for. -/
structure CircleBefore (catalog : Catalog) (q : Inquiry) : Prop where
  placed : Placed catalog q.standing q.descriptor
  linked : Linked catalog q
  truthful : Truthful catalog q.survey

/-- One inquiry leaves a survey true to the catalog. -/
theorem CircleBefore.after {depth : Nat} {q : Inquiry} (h : CircleBefore catalog q)
    (hready : q.Ready catalog depth) :
    Truthful catalog (q.after (classifyWithin catalog depth)) := by
  refine classifyWithin_induction (P := fun _ => CircleBefore catalog)
    (Q := fun _ _ t => Truthful catalog t) ?finished ?closed ?expanded depth q hready h
  case finished => exact fun _ _ _ h _ _ => h.truthful
  case closed => exact fun _ _ h _ hs => h.truthful.closeLoop h.linked hs
  case expanded =>
    intro depth q h hready hfresh hsub
    have hnested := (nested_of_ready hready hfresh).2
    have entered : Truthful catalog (q.survey.enter q.descriptor.name) :=
      ⟨h.truthful.loops, h.truthful.memo⟩
    have trail := q.trail catalog (classifyWithin catalog depth)
    have ended := (trail.keeps entered fun p hp htrue => hsub p hp
      ⟨placed_of_mem_inquiries h.placed hp, h.linked.of_nested h.placed hp (hnested p hp).2.1,
        htrue⟩).1
    simp only [Inquiry.after, classifyWithin_of_fresh _ _ hfresh]
    exact ended.leave (fun _ => local_expand) _

theorem truthful_history {calls : List Call} (hcalls : ∀ c ∈ calls, c.OfCatalog catalog) :
    Truthful catalog (history catalog calls) := by
  refine history_keeps truthful_fresh fun before c after q heq hq htrue => ?_
  have hsurvey : q.survey = history catalog before := Call.inquiry?_survey hq
  have hidle : q.survey.Idle := hsurvey ▸ history_idle before
  have hplaced : Placed catalog q.standing q.descriptor :=
    Call.OfCatalog.placed (hcalls c (by simp [heq])) hq
  refine CircleBefore.after ⟨hplaced, ?_, hsurvey ▸ htrue⟩ hidle.ready
  rw [Linked, hidle.inProgress]
  exact .singleton _

/-- Where the names of a catalog differ at every depth, a type that is found to be circular is its
own descendant, and the reason names a circle through it. -/
theorem reported_circle {ds : List Descriptor} (distinct : (variantNames ds).Nodup)
    {calls : List Call} (hcalls : ∀ c ∈ calls, c.OfCatalog (.ofList ds)) {x : String}
    {reason : Refusal} (hx : (history (.ofList ds) calls).memoized x = some (.unsupported reason))
    {text : String} (hreason : reason.message = "circular type reference: " ++ text) :
    (∃ names, text = String.intercalate " -> " names ∧ Circle (.ofList ds) names ∧ x ∈ names) ∧
      ∃ standing d, Placed (.ofList ds) standing d ∧ d.name = x ∧
        Relation.TransGen (Refers (.ofList ds)) d d := by
  obtain ⟨names, htext, hcircle, hmem⟩ := (truthful_history hcalls).memo x reason text hx hreason
  exact ⟨⟨names, htext, hcircle, hmem⟩, descendant_of_transGen distinct (hcircle.transGen hmem)⟩

/-- A tree is a leaf or a fork, and a fork holds a pair of trees. -/
def tree : List Descriptor :=
  [.sum "Tree" [.singleton "Tree::Leaf" true,
      .product "Tree::Fork" ⟨[⟨"pair", "Pair", false⟩], .named, false, false⟩] true,
    .product "Pair" ⟨[⟨"left", "Tree", false⟩, ⟨"right", "Tree", true⟩], .named, true, false⟩]

/-- The fork of a tree is on the circle that is met from the pair. -/
theorem reported_circle_tree :
    (history (.ofList tree) [.name "Pair"]).memoized "Tree::Fork" =
        some (.unsupported (.circular ["Pair", "Tree", "Tree::Fork", "Pair"])) ∧
      (∃ names, "Pair -> Tree -> Tree::Fork -> Pair" = String.intercalate " -> " names ∧
        Circle (.ofList tree) names ∧ "Tree::Fork" ∈ names) ∧
      ∃ standing d, Placed (.ofList tree) standing d ∧ d.name = "Tree::Fork" ∧
        Relation.TransGen (Refers (.ofList tree)) d d :=
  have found : (history (.ofList tree) [.name "Pair"]).memoized "Tree::Fork" =
      some (.unsupported (.circular ["Pair", "Tree", "Tree::Fork", "Pair"])) := by rfl
  ⟨found, reported_circle (by decide) (by simp [Call.OfCatalog]) found (by rfl)⟩

end Survey

end EditableFields
