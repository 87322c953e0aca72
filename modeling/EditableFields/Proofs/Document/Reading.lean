import EditableFields.Proofs.Document.Node

/-!
# Documents: what a reader yields

What one character can do to a reader is said once (`Reader.step_move`). From it follow, for a
whole text, that every end tag which is yielded ends the innermost open element, up to a fault
(`Reader.nest_yields`), and that every tag which is yielded stands in the text, between its angle
brackets (`Reader.standsIn_yields`). A text is read on from where a part of it was read to
(`Reader.run_append`).
-/

namespace EditableFields.Markup

/-! ## Nesting -/

/-- The names of the open elements after an event, the innermost first. There are none after a
fault, and after an end tag that is not the innermost element's. -/
def Event.nest (names : List String) : Event → Option (List String)
  | .start tag => some (tag.name :: names)
  | .empty _ | .filler _ => some names
  | .close name => if names.head? = some name then some names.tail else none
  | .fault _ => none

/-- The names of the elements that events leave open, the innermost first, if their end tags match
and there is no fault. -/
def leftOpen (es : List Event) : Option (List String) :=
  es.foldlM Event.nest []

/-! ## Where tags stand -/

/-- A tag that begins an element is written in a text between angle brackets; what it names is
what stands there. -/
def Event.StandsIn (text : List Char) : Event → Prop
  | .start tag => ∃ content, tag = Tag.ofContent content ∧ '<' :: (content ++ ['>']) <:+: text
  | .empty tag => ∃ content, tag = Tag.ofContent content ∧ '<' :: (content ++ ['/', '>']) <:+: text
  | .close _ | .filler _ | .fault _ => True

theorem Event.StandsIn.mono {e : Event} {text text' : List Char} (h : e.StandsIn text)
    (htext : text <:+: text') : e.StandsIn text' := by
  cases e with
  | start tag =>
    obtain ⟨content, htag, hin⟩ := h
    exact ⟨content, htag, hin.trans htext⟩
  | empty tag =>
    obtain ⟨content, htag, hin⟩ := h
    exact ⟨content, htag, hin.trans htext⟩
  | close name => trivial
  | filler sort => trivial
  | fault f => trivial

namespace ReaderState

/-- The text after the `<` of a tag that a reader is in, reversed. -/
def tagText? : ReaderState → Option (List Char)
  | .opened => some []
  | .tag text _ => some text
  | _ => none

/-- A reader is in no tag, and was not stopped. -/
def Calm : ReaderState → Prop
  | .opened | .tag _ _ | .stopped => False
  | _ => True

namespace Calm

variable {state : ReaderState} (h : state.Calm)
include h

theorem tagText?_eq_none : state.tagText? = none := by
  cases state with
  | opened => exact h.elim
  | tag text quote => exact h.elim
  | _ => rfl

theorem ne_stopped : state ≠ .stopped := by
  rintro rfl
  exact h

end Calm

end ReaderState

namespace Reader

/-! ## Steps -/

/-- Nothing is yielded but filler. -/
def Idle (e : Option Event) : Prop :=
  ∀ x ∈ e, ∃ sort, x = .filler sort

theorem idle_none : Idle none :=
  nofun

theorem idle_filler (sort : Filler) : Idle (some (.filler sort)) := by
  intro x hx
  cases hx
  exact ⟨sort, rfl⟩

/-- What a character can do to a reader. -/
inductive Move (r : Reader) (c : Char) : Option Event × Reader → Prop
  | pass {e state} : Idle e → state.Calm → Move r c (e, { r with state })
  | enter {e} : Idle e → c = '<' → Move r c (e, { r with state := .opened })
  | collect {text quote} : r.state.tagText? = some text →
    Move r c (none, { r with state := .tag (c :: text) quote })
  | tag {text} : r.state.tagText? = some text → c = '>' → Move r c (r.yieldTag text)
  | close {expected names} : r.openNames = expected :: names →
    Move r c (some (.close expected), ⟨names, .content false⟩)
  | fail (f : Fault) : Move r c (r.fail f)
  | halt : r.state = .stopped → Move r c (none, r)

section Moves

variable (r : Reader) (c : Char)

theorem move_goto {state : ReaderState} (h : state.Calm) : Move r c (r.goto state) :=
  .pass idle_none h

theorem move_fill (sort : Filler) : Move r c (r.fill sort) :=
  .pass (idle_filler sort) trivial

theorem move_yieldClose (text : List Char) : Move r c (r.yieldClose text) := by
  unfold yieldClose
  dsimp only
  generalize String.ofList (List.reverse _) = found
  split
  · exact .fail _
  · rename_i expected names hnames
    split
    · rename_i hfound
      rw [← hfound]
      exact .close hnames
    · exact .fail _

theorem move_stepDoctype (state : DoctypeState) : Move r c (r.stepDoctype state c) := by
  have go (state : DoctypeState) : Move r c (r.goto (.doctype state)) :=
    move_goto r c trivial
  cases state <;> simp only [stepDoctype] <;> (repeat' split) <;>
    first
      | exact go _
      | exact move_fill r c _
      | exact .fail _

theorem move_stepContent (text : Bool) : Move r c (r.stepContent text c) := by
  have hidle : Idle (if text then some (Event.filler .text) else none) := by
    split
    · exact idle_filler _
    · exact idle_none
  unfold stepContent
  dsimp only
  split
  · rename_i hc
    exact .enter hidle hc
  · split
    · exact .pass hidle trivial
    · exact move_goto r c trivial

theorem step_move : Move r c (r.step c) := by
  obtain ⟨names, state⟩ := r
  have go {state' : ReaderState} (h : state'.Calm) :
      Move ⟨names, state⟩ c (none, ⟨names, state'⟩) :=
    .pass idle_none h
  have fill (sort : Filler) :
      Move ⟨names, state⟩ c (some (.filler sort), ⟨names, .content false⟩) :=
    .pass (idle_filler sort) trivial
  cases state with
  | content text => exact move_stepContent _ c text
  | doctype state => exact move_stepDoctype _ c state
  | opened =>
    simp only [step]
    split
    · exact go trivial
    · split
      · exact go trivial
      · split
        · exact go trivial
        · split
          · rename_i hc
            exact .tag rfl hc
          · exact .collect rfl
  | tag text quote =>
    simp only [step]
    split
    · rename_i hc
      exact .tag rfl (by simpa using (Bool.and_eq_true_iff.1 hc).2)
    · exact .collect rfl
  | closing text quote =>
    simp only [step]
    split
    · exact move_yieldClose _ c text
    · exact go trivial
  | stopped => exact .halt rfl
  | _ =>
    simp only [step]
    repeat' split
    all_goals
      first
        | exact go trivial
        | exact fill _
        | exact .fail _

end Moves

namespace Move

variable {r : Reader} {c : Char} {p : Option Event × Reader}

/-- An event that is yielded fits the open elements, unless it is a fault. -/
theorem nest (h : Move r c p) (hfault : ∀ f, p.1 ≠ some (.fault f)) :
    p.1.toList.foldlM Event.nest r.openNames = some p.2.openNames := by
  have idle {e : Option Event} (he : Idle e) :
      e.toList.foldlM Event.nest r.openNames = some r.openNames := by
    cases e with
    | none => rfl
    | some e =>
      obtain ⟨sort, rfl⟩ := he e rfl
      rfl
  cases h with
  | pass he _ => exact idle he
  | enter he _ => exact idle he
  | collect _ => rfl
  | tag _ _ =>
    unfold yieldTag
    split <;> rfl
  | close hnames => simp [hnames, Event.nest]
  | fail f => exact absurd rfl (hfault f)
  | halt _ => rfl

theorem not_stopped (h : Move r c p) (hfault : ∀ f, p.1 ≠ some (.fault f))
    (hr : r.state ≠ .stopped) : p.2.state ≠ .stopped := by
  cases h with
  | pass _ hstate => exact hstate.ne_stopped
  | enter _ _ => nofun
  | collect _ => nofun
  | tag _ _ =>
    unfold yieldTag
    split <;> nofun
  | close _ => nofun
  | fail f => exact absurd rfl (hfault f)
  | halt hstopped => exact absurd hstopped hr

end Move

/-- The tag that a reader is in is the end of what it has read. -/
def Keeps (r : Reader) (read : List Char) : Prop :=
  ∀ text, r.state.tagText? = some text → '<' :: text.reverse <:+ read

/-- A reader keeps the tag that it is in, and a tag that it yields ends with the character that it
takes. -/
theorem Keeps.move {r : Reader} {c : Char} {p : Option Event × Reader} {read : List Char}
    (hr : r.Keeps read) (h : Move r c p) :
    p.2.Keeps (read ++ [c]) ∧ ∀ e ∈ p.1, e.StandsIn (read ++ [c]) := by
  have idle {e : Option Event} (he : Idle e) : ∀ x ∈ e, x.StandsIn (read ++ [c]) := by
    intro x hx
    obtain ⟨sort, rfl⟩ := he x hx
    trivial
  cases h with
  | pass he hstate =>
    refine ⟨fun text htext => ?_, idle he⟩
    rw [hstate.tagText?_eq_none] at htext
    cases htext
  | enter he hc =>
    refine ⟨fun text htext => ?_, idle he⟩
    cases htext
    rw [hc]
    exact List.suffix_append read ['<']
  | @collect text quote htext =>
    refine ⟨fun text' htext' => ?_, nofun⟩
    cases htext'
    obtain ⟨front, hfront⟩ := hr text htext
    exact ⟨front, by rw [← hfront]; simp⟩
  | @tag text htext hc =>
    obtain ⟨front, hfront⟩ := hr text htext
    have hread : read ++ [c] = front ++ '<' :: (text.reverse ++ ['>']) := by
      rw [← hfront, hc]
      simp
    unfold yieldTag
    split
    · refine ⟨nofun, fun e he => ?_⟩
      cases he
      rename_i text
      refine ⟨text.reverse, rfl, front, [], ?_⟩
      rw [hread]
      simp
    · refine ⟨nofun, fun e he => ?_⟩
      cases he
      refine ⟨text.reverse, rfl, front, [], ?_⟩
      rw [hread, List.append_nil]
  | close _ =>
    refine ⟨nofun, fun e he => ?_⟩
    cases he
    trivial
  | fail f =>
    refine ⟨nofun, fun e he => ?_⟩
    cases he
    trivial
  | halt hstopped =>
    refine ⟨fun text htext => ?_, nofun⟩
    rw [hstopped] at htext
    cases htext

/-! ## Runs -/

/-- The reader after a text. -/
def after (r : Reader) (cs : List Char) : Reader :=
  cs.foldl (fun r c => (r.step c).2) r

/-- What a reader yields for a text that may go on. -/
def yields (r : Reader) : List Char → List Event
  | [] => []
  | c :: cs => (r.step c).1.toList ++ (r.step c).2.yields cs

theorem run_append (r : Reader) (cs ds : List Char) :
    r.run (cs ++ ds) = r.yields cs ++ (r.after cs).run ds := by
  induction cs generalizing r with
  | nil => rfl
  | cons c cs ih =>
    rw [List.cons_append, run, yields, List.append_assoc]
    exact congrArg _ (ih _)

theorem run_eq (r : Reader) (cs : List Char) :
    r.run cs = r.yields cs ++ (r.after cs).finish.toList := by
  have h := run_append r cs []
  rw [List.append_nil] at h
  exact h

theorem nest_yields {r : Reader} {cs : List Char} (hfault : ∀ f, .fault f ∉ r.yields cs) :
    (r.yields cs).foldlM Event.nest r.openNames = some (r.after cs).openNames := by
  induction cs generalizing r with
  | nil => rfl
  | cons c cs ih =>
    rw [yields, List.foldlM_append, (step_move r c).nest]
    · refine ih fun f hf => hfault f ?_
      exact List.mem_append_right _ hf
    · intro f hf
      refine hfault f (List.mem_append_left _ ?_)
      rw [hf]
      exact List.mem_cons_self

theorem fresh_ne_stopped : fresh.state ≠ .stopped :=
  nofun

theorem not_stopped_after {r : Reader} {cs : List Char} (hfault : ∀ f, .fault f ∉ r.yields cs)
    (hr : r.state ≠ .stopped) : (r.after cs).state ≠ .stopped := by
  induction cs generalizing r with
  | nil => exact hr
  | cons c cs ih =>
    refine ih (fun f hf => hfault f (List.mem_append_right _ hf)) ?_
    refine (step_move r c).not_stopped (fun f hf => hfault f (List.mem_append_left _ ?_)) hr
    rw [hf]
    exact List.mem_cons_self

theorem standsIn_yields {r : Reader} {read : List Char} (hr : r.Keeps read) (cs : List Char) :
    ∀ e ∈ r.yields cs, e.StandsIn (read ++ cs) := by
  induction cs generalizing r read with
  | nil => nofun
  | cons c cs ih =>
    obtain ⟨hnext, hevent⟩ := hr.move (step_move r c)
    have hread : read ++ c :: cs = read ++ [c] ++ cs := by simp
    intro e he
    rw [yields, List.mem_append] at he
    rw [hread]
    rcases he with he | he
    · exact (hevent e (Option.mem_toList.1 he)).mono (List.prefix_append _ _).isInfix
    · exact ih hnext e he

theorem standsIn_finish (r : Reader) (text : List Char) :
    ∀ e ∈ r.finish, e.StandsIn text := by
  intro e he
  unfold finish at he
  repeat' split at he
  all_goals cases he
  all_goals trivial

/-- Where a text ends without a fault, it ends between tags. -/
theorem content_of_finish {r : Reader} (hr : r.state ≠ .stopped)
    (hfault : ∀ f, .fault f ∉ r.finish.toList) : ∃ text, r.state = .content text := by
  obtain ⟨names, state⟩ := r
  cases state with
  | content text => exact ⟨text, rfl⟩
  | stopped => exact absurd rfl hr
  | closing text quote => cases quote <;> exact absurd List.mem_cons_self (hfault _)
  | tag text quote => cases quote <;> exact absurd List.mem_cons_self (hfault _)
  | _ => exact absurd List.mem_cons_self (hfault _)

/-! ## End tags -/

/-- End tags, one after the other. -/
def endTags (names : List String) : List Char :=
  names.flatMap fun name => '<' :: '/' :: (name.toList ++ ['>'])

theorem eq_of_head?_endTags {names : List String} {c : Char} (h : (endTags names).head? = some c) :
    c = '<' := by
  cases names with
  | nil => cases h
  | cons name names =>
    have hlt : some '<' = some c := h
    exact (Option.some_inj.1 hlt).symm

/-- End tags of the open elements are read as such, whatever stands before them. -/
theorem run_endTags {names : List String} (hnames : ∀ name ∈ names, PlainName name)
    {r : Reader} {text : Bool} (hr : r = ⟨names, .content text⟩) :
    r.run (endTags names) = r.finish.toList ++ names.map .close := by
  have closed : ∀ {names : List String}, (∀ name ∈ names, PlainName name) →
      run ⟨names, .content false⟩ (endTags names) = names.map .close := by
    intro names hnames
    induction names with
    | nil => rfl
    | cons name names ih =>
      obtain ⟨hname, hnames⟩ := List.forall_mem_cons.1 hnames
      have htext : endTags (name :: names) =
          '<' :: '/' :: (name.toList ++ '>' :: endTags names) := by
        simp [endTags]
      rw [htext, run_close hname, ih hnames, List.map_cons]
  rw [hr]
  cases text with
  | false => exact closed hnames
  | true =>
    cases names with
    | nil => rfl
    | cons name names =>
      -- Text before an end tag is yielded with its `<`.
      have hflush (cs : List Char) : run ⟨name :: names, .content true⟩ ('<' :: cs) =
          .filler .text :: run ⟨name :: names, .content false⟩ ('<' :: cs) := rfl
      have htext : endTags (name :: names) =
          '<' :: ('/' :: (name.toList ++ ['>']) ++ endTags names) := rfl
      rw [htext, hflush, ← htext, closed hnames]
      rfl

end Reader

/-! ## Documents -/

theorem dropMark_append {ds : List Char} (hds : ds.head? ≠ some '\uFEFF') (cs : List Char) :
    dropMark (cs ++ ds) = dropMark cs ++ ds := by
  cases cs with
  | nil =>
    cases ds with
    | nil => rfl
    | cons d ds => exact dropMark_cons (fun h => hds (congrArg some h)) ds
  | cons c cs =>
    by_cases hc : c = '\uFEFF'
    · rw [hc]
      rfl
    · rw [List.cons_append, dropMark_cons hc, dropMark_cons hc, List.cons_append]

theorem dropMark_suffix (cs : List Char) : dropMark cs <:+ cs := by
  unfold dropMark
  split
  · exact List.suffix_cons _ _
  · exact List.suffix_refl _

section Events

variable {document : String}

/-- Every tag stands in the document. -/
theorem standsIn_events {e : Event} (he : e ∈ events document) : e.StandsIn document.toList := by
  have hfresh : Reader.fresh.Keeps [] := nofun
  rw [events, Reader.run_eq, List.mem_append] at he
  rcases he with he | he
  · exact (Reader.standsIn_yields hfresh _ e he).mono (dropMark_suffix _).isInfix
  · exact Reader.standsIn_finish _ _ e (Option.mem_toList.1 he)

variable (hfault : ∀ f, .fault f ∉ events document)
include hfault

theorem exists_leftOpen : ∃ names, leftOpen (events document) = some names ∧
    ((∀ name ∈ names, PlainName name) →
      events (document ++ String.ofList (Reader.endTags names)) =
        events document ++ names.map .close) := by
  rw [events, Reader.run_eq] at hfault
  have hyields : ∀ f, .fault f ∉ Reader.fresh.yields (dropMark document.toList) :=
    fun f hf => hfault f (List.mem_append_left _ hf)
  have hnest : (Reader.fresh.yields (dropMark document.toList)).foldlM Event.nest [] = _ :=
    Reader.nest_yields hyields
  have hstate := Reader.not_stopped_after hyields Reader.fresh_ne_stopped
  obtain ⟨text, htext⟩ := Reader.content_of_finish hstate
    fun f hf => hfault f (List.mem_append_right _ hf)
  rw [events, Reader.run_eq]
  generalize hr : Reader.fresh.after (dropMark document.toList) = r at *
  obtain ⟨names, state⟩ := r
  cases htext
  refine ⟨names, ?_, fun hplain => ?_⟩
  · rw [leftOpen, List.foldlM_append, hnest]
    cases text <;> rfl
  · have hhead : (Reader.endTags names).head? ≠ some '\uFEFF' :=
      fun h => absurd (Reader.eq_of_head?_endTags h) (by decide)
    rw [events, String.toList_append, String.toList_ofList, dropMark_append hhead,
      Reader.run_append, hr, Reader.run_endTags hplain rfl, List.append_assoc]

end Events

end EditableFields.Markup
