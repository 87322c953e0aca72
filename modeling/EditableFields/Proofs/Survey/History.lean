import EditableFields.Proofs.Survey.Coherence
import Mathlib.Data.List.Induction

/-!
# Surveys: histories of calls

A survey lives through calls from outside, one after another (`history`). Between calls nothing is
in progress (`history_idle`), so every call can be answered, and what holds of the first survey and
is kept by every call holds after every history (`history_keeps`).

`Asked` says which inquiries are made in the course of a history, those nested in others included.
What an inquiry finds stays found to the end of the history (`Asked.memoized_history`), and what is
finished at the end was once asked for when nothing was known of it (`exists_asked_of_memoized`).
-/

namespace EditableFields

namespace Survey

variable {catalog : Catalog}

/-! ## Calls -/

/-- A call from outside, between which nothing is in progress. -/
inductive Call where
  /-- Classifies what a name means. -/
  | name (name : String)
  /-- Classifies a type that stands by itself. -/
  | type (d : Descriptor)
  /-- Classifies a type that stands as a variant. -/
  | variant (d : Descriptor)

/-- What a call asks for, if its name means anything. -/
def Call.inquiry? (catalog : Catalog) (s : Survey) : Call → Option Inquiry
  | name n => (catalog.get? n).map (⟨.topLevel, ·, s⟩)
  | type d => some ⟨.topLevel, d, s⟩
  | variant d => some ⟨.variant, d, s⟩

/-- The survey after a call. -/
def Call.after (catalog : Catalog) (s : Survey) : Call → Survey
  | name n => (classifyName catalog n s).2
  | type d => (classify catalog d s).2
  | variant d => (classifyVariant catalog d s).2

/-- The answer to a call. -/
def Call.answer (catalog : Catalog) (s : Survey) : Call → Classification
  | name n => (classifyName catalog n s).1
  | type d => (classify catalog d s).1
  | variant d => (classifyVariant catalog d s).1

/-- The survey after calls one after another. -/
def history (catalog : Catalog) (calls : List Call) : Survey :=
  calls.foldl (Call.after catalog) fresh

/-- Nothing is in progress. -/
structure Idle (s : Survey) : Prop where
  coherent : s.Coherent
  inProgress : s.inProgress = []

/-- A call that asks for nothing leaves the survey as it is. -/
theorem Call.after_of_none {c : Call} {s : Survey} (h : c.inquiry? catalog s = none) :
    c.after catalog s = s := by
  cases c with
  | name n =>
    have hget : catalog.get? n = none := by simpa [inquiry?] using h
    simp [Call.after, classifyName, classifyNameWith, hget]
  | type d | variant d => simp [inquiry?] at h

theorem Call.after_of_some {c : Call} {s : Survey} {q : Inquiry}
    (h : c.inquiry? catalog s = some q) :
    c.after catalog s = q.after (classifyWithin catalog (depthBound catalog q.descriptor)) := by
  cases c with
  | name n =>
    obtain ⟨d, hget, rfl⟩ := Option.map_eq_some_iff.1 h
    simp [Call.after, classifyName, classifyNameWith, hget, Inquiry.after, classifyAs]
  | type d | variant d =>
    cases h
    rfl

/-- A call that asks for nothing is answered by a refusal. -/
theorem Call.answer_of_none {c : Call} {s : Survey} (h : c.inquiry? catalog s = none) :
    ∃ n, c.answer catalog s = .unsupported (.unknownType n) := by
  cases c with
  | name n =>
    have hget : catalog.get? n = none := by simpa [inquiry?] using h
    exact ⟨n, by simp [Call.answer, classifyName, classifyNameWith, hget]⟩
  | type d | variant d => simp [inquiry?] at h

theorem Call.answer_of_some {c : Call} {s : Survey} {q : Inquiry}
    (h : c.inquiry? catalog s = some q) :
    c.answer catalog s = q.answer (classifyWithin catalog (depthBound catalog q.descriptor)) := by
  cases c with
  | name n =>
    obtain ⟨d, hget, rfl⟩ := Option.map_eq_some_iff.1 h
    simp [Call.answer, classifyName, classifyNameWith, hget, Inquiry.answer, classifyAs]
  | type d | variant d =>
    cases h
    rfl

theorem Call.inquiry?_survey {c : Call} {s : Survey} {q : Inquiry}
    (h : c.inquiry? catalog s = some q) : q.survey = s := by
  cases c with
  | name n =>
    obtain ⟨d, -, rfl⟩ := Option.map_eq_some_iff.1 h
    rfl
  | type d | variant d =>
    cases h
    rfl

/-- A call about a type of the catalog: by its name, or by the type itself. -/
def Call.OfCatalog (catalog : Catalog) : Call → Prop
  | name _ => True
  | type d => d ∈ catalog.types
  | variant _ => False

theorem Call.OfCatalog.placed {c : Call} {s : Survey} {q : Inquiry} (hc : c.OfCatalog catalog)
    (hq : c.inquiry? catalog s = some q) : Placed catalog q.standing q.descriptor := by
  cases c with
  | name n =>
    obtain ⟨d, hd, rfl⟩ := Option.map_eq_some_iff.1 hq
    exact .of_get? hd
  | type d =>
    cases hq
    exact .type hc
  | variant d => cases hc

/-- With nothing in progress, any type can be asked for. -/
theorem Idle.ready {q : Inquiry} (h : q.survey.Idle) :
    Inquiry.Ready catalog (depthBound catalog q.descriptor) q := by
  refine ⟨h.coherent, variantNames catalog.types ++ q.descriptor.names,
    List.subset_append_left _ _, List.subset_append_right _ _, ?_, ?_⟩
  · simp [h.inProgress]
  · simp [depthBound, h.inProgress]

theorem Idle.settled {q : Inquiry} (h : q.survey.Idle) :
    q.Settled (classifyWithin catalog (depthBound catalog q.descriptor)) :=
  classifyWithin_settled _ _ h.ready

/-- With nothing in progress, the answer to an inquiry is remembered. -/
theorem Idle.answer_memoized {q : Inquiry} (h : q.survey.Idle) :
    (q.after (classifyWithin catalog (depthBound catalog q.descriptor))).memoized
        q.descriptor.name =
      some (q.answer (classifyWithin catalog (depthBound catalog q.descriptor))) :=
  h.settled.answer_memoized.resolve_left fun hd => by simp [h.inProgress] at hd

theorem Idle.call {s : Survey} (h : s.Idle) (c : Call) : (c.after catalog s).Idle := by
  cases hq : c.inquiry? catalog s with
  | none => rwa [Call.after_of_none hq]
  | some q =>
    rw [Call.after_of_some hq]
    obtain rfl := Call.inquiry?_survey hq
    exact ⟨h.settled.coherent, h.settled.extends_survey.inProgress.trans h.inProgress⟩

/-- A type that is classified with nothing in progress is finished. -/
theorem Idle.classify {s : Survey} (h : s.Idle) (d : Descriptor) :
    (s.classify catalog d).2.Idle ∧ Extends s (s.classify catalog d).2 ∧
      (s.classify catalog d).2.memoized d.name = some (s.classify catalog d).1 := by
  have settled : Inquiry.Settled (classifyWithin catalog (depthBound catalog d))
      ⟨.topLevel, d, s⟩ := Idle.settled (q := ⟨.topLevel, d, s⟩) h
  exact ⟨h.call (.type d), settled.extends_survey, h.answer_memoized (q := ⟨.topLevel, d, s⟩)⟩

theorem history_append (before : List Call) (c : Call) :
    history catalog (before ++ [c]) = c.after catalog (history catalog before) := by
  simp [history]

/-- Between calls nothing is in progress. -/
theorem history_idle (calls : List Call) : (history catalog calls).Idle := by
  induction calls using List.reverseRecOn with
  | nil => exact ⟨coherent_fresh, rfl⟩
  | append_singleton before c ih =>
    rw [history_append]
    exact ih.call c

/-- What every call keeps holds after every history. -/
theorem history_keeps {P : Survey → Prop} {calls : List Call} (hfresh : P fresh)
    (step : ∀ before c after q, calls = before ++ c :: after →
      c.inquiry? catalog (history catalog before) = some q → P (history catalog before) →
      P (q.after (classifyWithin catalog (depthBound catalog q.descriptor)))) :
    P (history catalog calls) := by
  suffices h : ∀ before after, calls = before ++ after → P (history catalog before) from
    h calls [] (by simp)
  -- On how many calls have been made; each case is about the last of them.
  intro before
  induction before using List.reverseRecOn with
  | nil => exact fun _ _ => hfresh
  | append_singleton before c ih =>
    intro after heq
    have heq' : calls = before ++ c :: after := by simpa using heq
    rw [history_append]
    cases hq : c.inquiry? catalog (history catalog before) with
    | none =>
      rw [Call.after_of_none hq]
      exact ih _ heq'
    | some q =>
      rw [Call.after_of_some hq]
      exact step before c after q heq' hq (ih _ heq')

/-- What is found stays found. -/
theorem memoized_history_append (calls later : List Call) {n : String} {k : Classification}
    (h : (history catalog calls).memoized n = some k) :
    (history catalog (calls ++ later)).memoized n = some k := by
  induction later using List.reverseRecOn with
  | nil => rwa [List.append_nil]
  | append_singleton later c ih =>
    rw [← List.append_assoc, history_append]
    cases hq : c.inquiry? catalog (history catalog (calls ++ later)) with
    | none => rwa [Call.after_of_none hq]
    | some q =>
      rw [Call.after_of_some hq]
      have hs := Call.inquiry?_survey hq
      have idle : q.survey.Idle := hs ▸ history_idle _
      exact idle.settled.extends_survey.memoized (hs ▸ ih)

/-- What a call finds stays found. -/
theorem memoized_history_of_call {before after : List Call} {c : Call} {n : String}
    {k : Classification} (h : (c.after catalog (history catalog before)).memoized n = some k) :
    (history catalog (before ++ c :: after)).memoized n = some k := by
  rw [List.append_cons]
  exact memoized_history_append _ after (by rwa [history_append])

/-! ## Inquiries in the course of a history -/

/-- The inquiries made in the course of calls, each with the depth left for it: those that the
calls make, and those nested in one whose type is expanded. -/
inductive Asked (catalog : Catalog) (calls : List Call) : Nat → Inquiry → Prop
  | call {before c after q} : calls = before ++ c :: after →
      c.inquiry? catalog (history catalog before) = some q →
      Asked catalog calls (depthBound catalog q.descriptor) q
  | nested {depth q p} : Asked catalog calls (depth + 1) q → q.Fresh →
      p ∈ q.nested catalog (classifyWithin catalog depth) → Asked catalog calls depth p

variable {calls : List Call}

theorem Asked.ready {depth : Nat} {q : Inquiry} (h : Asked catalog calls depth q) :
    q.Ready catalog depth := by
  induction h with
  | @call before c after q _ hq =>
    have idle : q.survey.Idle := Call.inquiry?_survey hq ▸ history_idle before
    exact idle.ready
  | nested _ hfresh hp ih => exact ((nested_of_ready ih hfresh).2 _ hp).1

/-- What is finished after an inquiry is finished at the end. -/
theorem Asked.memoized_history {depth : Nat} {q : Inquiry} (h : Asked catalog calls depth q)
    {n : String} {k : Classification}
    (hk : (q.after (classifyWithin catalog depth)).memoized n = some k) :
    (history catalog calls).memoized n = some k := by
  induction h with
  | call hcalls hq =>
    rw [hcalls]
    refine memoized_history_of_call ?_
    rwa [Call.after_of_some hq]
  | @nested depth q p hasked hfresh hp ih =>
    obtain ⟨⟨hco, hext⟩, hnested⟩ := nested_of_ready hasked.ready hfresh
    have hk' := (hnested p hp).2.2.memoized hk
    refine ih ?_
    -- The type around it is still in progress, so it is another name that was finished.
    have hne : n ≠ q.descriptor.name := by
      rintro rfl
      rw [hco.stack_open _ (by rw [hext.inProgress]; exact List.mem_cons_self)] at hk'
      cases hk'
    simp only [Inquiry.after, classifyWithin_of_fresh _ _ hfresh]
    rwa [memoized_leave, if_neg hne]

/-- A type whose classification starts in the course of a history is remembered with the answer. -/
theorem Asked.answer_memoized {depth : Nat} {q : Inquiry} (h : Asked catalog calls depth q)
    (hq : q.Fresh) :
    (history catalog calls).memoized q.descriptor.name =
      some (q.answer (classifyWithin catalog depth)) :=
  h.memoized_history
    ((classifyWithin_settled depth q h.ready).answer_memoized.resolve_left fun h => hq.2 h.1)

/-- What an inquiry finishes was asked for when nothing was known of it. -/
theorem Asked.exists_of_memoized {depth : Nat} {q : Inquiry} (h : Asked catalog calls depth q) :
    ∀ n, ((q.after (classifyWithin catalog depth)).memoized n).isSome →
      (q.survey.memoized n).isSome ∨
        ∃ depth p, Asked catalog calls depth p ∧ p.Fresh ∧ p.descriptor.name = n := by
  refine classifyWithin_induction (P := Asked catalog calls)
    (Q := fun q _ t => ∀ n, (t.memoized n).isSome → (q.survey.memoized n).isSome ∨
      ∃ depth p, Asked catalog calls depth p ∧ p.Fresh ∧ p.descriptor.name = n)
    ?finished ?closed ?expanded depth q h.ready h
  case finished => exact fun _ _ _ _ _ _ _ => .inl
  case closed => exact fun _ _ _ _ _ _ => .inl
  case expanded =>
    intro depth q hasked hready hfresh hsub n hn
    simp only [Inquiry.after, classifyWithin_of_fresh _ _ hfresh] at hn
    rw [memoized_leave] at hn
    split at hn
    · rename_i hname
      exact .inr ⟨_, q, hasked, hfresh, hname.symm⟩
    · have trail := q.trail catalog (classifyWithin catalog depth)
      refine trail.keeps (P := fun u => (u.memoized n).isSome → (q.survey.memoized n).isSome ∨
        ∃ depth p, Asked catalog calls depth p ∧ p.Fresh ∧ p.descriptor.name = n) .inl ?_ |>.1 hn
      intro p hp ih hn
      exact (hsub p hp (.nested hasked hfresh hp) n hn).elim ih .inr

/-- What is finished at the end was once asked for when nothing was known of it. -/
theorem exists_asked_of_memoized {n : String} (h : ((history catalog calls).memoized n).isSome) :
    ∃ depth q, Asked catalog calls depth q ∧ q.Fresh ∧ q.descriptor.name = n := by
  revert h
  refine history_keeps (P := fun s => (s.memoized n).isSome → ∃ depth q,
    Asked catalog calls depth q ∧ q.Fresh ∧ q.descriptor.name = n) (by simp [fresh, memoized]) ?_
  intro before c after q hcalls hq ih hn
  have hs := Call.inquiry?_survey hq
  exact ((Asked.call hcalls hq).exists_of_memoized n hn).elim (fun h => ih (hs ▸ h)) id

end Survey

end EditableFields
