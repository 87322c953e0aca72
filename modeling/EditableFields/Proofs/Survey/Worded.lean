import EditableFields.Proofs.Inline
import EditableFields.Proofs.Survey.WellFormed

/-!
# Surveys: reasons are worded within a line

Where every name in a catalog stays within a line, so does every reason that a type is refused for
(`Classification.Worded`). A reason is worded with the names of the types that it is about, and one
that reports a circle with the names on it, which were in progress when the circle was met. So the
names in progress and on recorded loops go along with what is remembered (`Survey.Worded`), one
inquiry keeps all three (`WordedBefore.settled`), and so does every classification of a type of the
catalog (`Idle.worded_classify`).
-/

namespace EditableFields

/-- Every reason in a classification is worded within a line. -/
def Classification.Worded (k : Classification) : Prop :=
  ∀ reason, Node k (unsupported reason) → Inline reason.message

namespace Refusal

/-! ## The wording of reasons -/

variable {name : String}

theorem inline_unknownType (h : Inline name) : Inline (unknownType name).message :=
  .append (.append (.literal rfl) h) (.literal rfl)

theorem inline_circular {path : List String} (h : ∀ n ∈ path, Inline n) :
    Inline (circular path).message :=
  .append (.literal rfl) (.intercalate (.literal rfl) h)

end Refusal

theorem Classification.inline_kindName (k : Classification) : Inline k.kindName := by
  cases k <;> exact .literal rfl

/-- A reason that lies in the shape of a type is worded with the type's name. -/
theorem Descriptor.inline_of_shape {standing : Standing} {d : Descriptor} {reason : Refusal}
    (h : d.shape standing = .unsupported reason) (hname : Inline d.name) :
    Inline reason.message := by
  unfold shape at h
  split at h
  · cases h
  · cases d with
    | product name content =>
      simp only [productShape] at h
      split_ifs at h <;> cases h
      · exact .append (.append (.append (.literal rfl) (.literal rfl)) hname) (.literal rfl)
      · exact .append (.append (.append (.append (.append (.literal rfl) hname) (.literal rfl))
          (inline_toString _)) (.literal rfl)) (inline_toString _)
    | sum name variants companion =>
      simp only [sumShape] at h
      split_ifs at h <;> cases h
      · exact .append (.append (.append (.literal rfl) (.literal rfl)) hname) (.literal rfl)
      · exact .append (.append (.literal rfl) hname) (.literal rfl)
    | enumeration name entries =>
      simp only at h
      split_ifs at h
      cases h
      exact .append (.append (.literal rfl) hname) (.literal rfl)
    | sealed name =>
      cases h
      exact .append (.append (.literal rfl) hname) (.literal rfl)
    | primitive | singleton | external => cases h

namespace Survey

open Classification

variable {catalog : Catalog} {f : Classifier}

/-- A reason that lies in a variant is worded with the names of the variant and of its sum, and as
the variant's own is. -/
theorem inline_of_variantRefusal? {owner variant : String} {k : Classification} {reason : Refusal}
    (h : variantRefusal? owner variant k = some reason) (howner : Inline owner)
    (hvariant : Inline variant) (hk : k.Worded) : Inline reason.message := by
  have of : Inline ("variant " ++ variant ++ " of " ++ owner) :=
    .append (.append (.append (.literal rfl) hvariant) (.literal rfl)) howner
  cases k with
  | product | singleton => cases h
  | unsupported inner =>
    cases h
    exact .append (.append of (.literal rfl)) (hk inner (.self _))
  | primitive | enumeration | sum | external =>
    cases h
    exact .append (.append (.append of (.literal rfl)) (inline_kindName _)) (.literal rfl)

/-! ## One expansion -/

theorem worded_unsupported {reason : Refusal} (h : Inline reason.message) :
    (unsupported reason).Worded := by
  intro r hr
  cases hr
  exact h

/-- What holds nothing else and is no refusal has no reason in it. -/
theorem worded_of_leaf {k : Classification} (hm : ∀ style members, k ≠ product style members)
    (hv : ∀ variants, k ≠ sum variants) (hk : ∀ reason, k ≠ unsupported reason) : k.Worded := by
  intro reason hnode
  exact absurd ((node_iff_of_leaf hm hv).1 hnode).symm (hk reason)

/-- What is settled without asking is refused for the name of the member's type at most. -/
theorem worded_settledMember {m : Member} (hm : Inline m.type) :
    (settledMember catalog m).classification.Worded := by
  unfold settledMember
  split
  · exact worded_of_leaf nofun nofun nofun
  · exact worded_unsupported (Refusal.inline_unknownType hm)

/-- What is expanded is worded within a line if all the answers on the way are. -/
theorem worded_expand {q : Inquiry} (hq : Placed catalog q.standing q.descriptor)
    (hspells : ∀ n, catalog.Spells n → Inline n)
    (answers : ∀ p ∈ q.nested catalog f, (p.answer f).Worded) :
    (q.expanded catalog f).1.Worded := by
  unfold Inquiry.nested at answers
  unfold Inquiry.expanded
  cases hshape : q.descriptor.shape q.standing with
  | product style members =>
    rw [hshape] at answers
    obtain ⟨-, name, content, hd, rfl, -⟩ := descriptor_of_shape_product hshape
    have answered : List.Forall₂ (MemberAnswered catalog f _) content.members _ :=
      resolveMembers_answered content.members (q.survey.enter q.descriptor.name)
    have resolved : ∀ r ∈ (resolveMembers catalog f content.members
        (q.survey.enter q.descriptor.name)).1, r.classification.Worded := by
      intro r hr
      obtain ⟨m, hm, ⟨-, rfl⟩ | ⟨p, hp, -, -, rfl⟩⟩ := exists_left_of_forall₂ answered hr
      · exact worded_settledMember (hspells _ ((hd ▸ hq).spells_member hm).2)
      · exact answers p hp
    rintro reason (_ | ⟨hr, hnode⟩)
    exact resolved _ hr reason hnode
  | sum variants =>
    rw [hshape] at answers
    rcases hrun : resolveVariants f q.descriptor.name variants
      (q.survey.enter q.descriptor.name) with ⟨reason | rs, t⟩
    · simp only [expand, hrun]
      obtain ⟨p, hp, hreason⟩ := resolveVariants_refused variants _ (congrArg Prod.fst hrun)
      have hplaced : Placed catalog p.standing p.descriptor :=
        placed_of_mem_inquiries hq (by rw [hshape]; exact hp)
      exact worded_unsupported (inline_of_variantRefusal? hreason (hspells _ hq.spells_name)
        (hspells _ hplaced.spells_name).simple (answers p hp))
    · simp only [expand, hrun]
      have answered := resolveVariants_answered _ _ _ (congrArg Prod.fst hrun)
      rintro reason (_ | _ | ⟨hr, hnode⟩)
      obtain ⟨v, -, p, hp, -, -, -, rfl⟩ := exists_left_of_forall₂ answered hr
      exact answers p hp reason hnode
  | unsupported reason =>
    exact worded_unsupported (q.descriptor.inline_of_shape hshape (hspells _ hq.spells_name))
  | primitive | enumeration | singleton | external =>
    exact worded_of_leaf (by simp [expand]) (by simp [expand]) (by simp [expand])

/-! ## Surveys -/

/-- All that a survey can word a reason with stays within a line. -/
structure Worded (s : Survey) : Prop where
  memo : s.Remembers Classification.Worded
  inProgress : ∀ n ∈ s.inProgress, Inline n
  loops : ∀ n path, s.loops.lookup n = some path → ∀ m ∈ path, Inline m

theorem worded_fresh : fresh.Worded :=
  ⟨remembers_fresh _, by simp [fresh], by simp [fresh]⟩

variable {s t : Survey} {name : String}

theorem Worded.enter (h : s.Worded) (hname : Inline name) : (s.enter name).Worded :=
  ⟨h.memo, List.forall_mem_cons.2 ⟨hname, h.inProgress⟩, h.loops⟩

/-- A circle that is met leads through types in progress. -/
theorem Worded.closeLoop (h : s.Worded) (hname : Inline name) :
    (s.closeLoop name).1.Worded ∧ (s.closeLoop name).2.Worded := by
  have path : ∀ n ∈ s.loopOf name ++ [name], Inline n := by
    intro n hn
    rcases List.mem_append.1 hn with hn | hn
    · rcases mem_loopOf.1 hn with rfl | hn
      · exact hname
      · exact h.inProgress n ((List.takeWhile_prefix _).subset hn)
    · exact List.mem_singleton.1 hn ▸ hname
  refine ⟨worded_unsupported (Refusal.inline_circular path), h.memo, h.inProgress,
    fun n p hp => ?_⟩
  rw [lookup_closeLoop, Option.or_eq_some_iff] at hp
  rcases hp with hp | ⟨-, hp⟩
  · exact h.loops n p hp
  · split at hp <;> cases hp
    exact path

/-- A type that is left is refused for the loop that is recorded for it, or is what it was found
to be. -/
theorem Worded.leave (h : t.Worded) {found : Classification} (hfound : found.Worded)
    (name : String) : (t.leave name found).1.Worded ∧ (t.leave name found).2.Worded := by
  have left : (t.leave name found).1.Worded := by
    simp only [Survey.leave]
    split
    · next path hpath => exact worded_unsupported (Refusal.inline_circular (h.loops _ _ hpath))
    · exact hfound
  refine ⟨left, List.forall_mem_cons.2 ⟨left, h.memo⟩,
    fun n hn => h.inProgress n (List.mem_of_mem_tail hn), fun n path hp => ?_⟩
  rw [lookup_loops_leave] at hp
  split at hp
  · cases hp
  · exact h.loops n path hp

/-- What can be relied on when a type is asked for. -/
structure WordedBefore (catalog : Catalog) (q : Inquiry) : Prop where
  placed : Placed catalog q.standing q.descriptor
  survey : q.survey.Worded

/-- One inquiry is answered within a line, and leaves a survey that words reasons within a line. -/
theorem WordedBefore.settled (hspells : ∀ n, catalog.Spells n → Inline n) {depth : Nat}
    {q : Inquiry} (h : WordedBefore catalog q) (hready : q.Ready catalog depth) :
    (q.answer (classifyWithin catalog depth)).Worded ∧
      (q.after (classifyWithin catalog depth)).Worded := by
  refine classifyWithin_induction (P := fun _ => WordedBefore catalog)
    (Q := fun _ k t => k.Worded ∧ t.Worded) ?finished ?closed ?expanded depth q hready h
  case finished => exact fun _ _ _ h _ hk => ⟨h.survey.memo.of_memoized hk, h.survey⟩
  case closed => exact fun _ q h _ _ => h.survey.closeLoop (hspells _ h.placed.spells_name)
  case expanded =>
    intro depth q h hready hfresh hsub
    have entered := h.survey.enter (hspells _ h.placed.spells_name)
    have before : ∀ p ∈ q.nested catalog (classifyWithin catalog depth), p.survey.Worded →
        WordedBefore catalog p :=
      fun p hp hs => ⟨placed_of_mem_inquiries h.placed hp, hs⟩
    have run := (q.trail catalog (classifyWithin catalog depth)).keeps entered
      fun p hp hs => (hsub p hp (before p hp hs)).2
    simp only [Inquiry.answer, Inquiry.after, classifyWithin_of_fresh _ _ hfresh]
    refine run.1.leave (worded_expand h.placed hspells fun p hp => ?_) _
    exact (hsub p hp (before p hp (run.2 p hp))).1

theorem Idle.worded_classify (hspells : ∀ n, catalog.Spells n → Inline n) (hs : s.Idle)
    (h : s.Worded) {d : Descriptor} (hd : Placed catalog .topLevel d) :
    (s.classify catalog d).2.Worded :=
  (WordedBefore.settled hspells (q := ⟨.topLevel, d, s⟩) ⟨hd, h⟩ hs.ready).2

end Survey

end EditableFields
