import EditableFields.Proofs.Document.Nesting
import Mathlib.Logic.Relation

/-!
# Documents: elements written out

An element that ends where it starts can be written out as a start and an end, and filler can be
put in anywhere or left out. Streams of events differ in nothing else exactly if they are the same
once all elements are written out and no filler is left (`respelled_iff`). A reader reads a stream
and its written-out form alike: it gives the same, and what it leaves of the one is, written out,
what it leaves of the other (`ReadAlike`). So both make the same schema, or are refused with the
same error, if the first tag is that of a root (`Schema.ofEvents_of_respelled`).
-/

namespace EditableFields

namespace Markup

/-- The first tag of an element. -/
def Event.tag? : Event → Option Tag
  | .start tag | .empty tag => some tag
  | .close _ | .filler _ | .fault _ => none

/-- One change in how events are spelled. -/
inductive Respells : List Event → List Event → Prop
  | writeOut (before : List Event) (tag : Tag) (after : List Event) :
    Respells (before ++ .empty tag :: after)
      (before ++ .start tag :: .close tag.name :: after)
  | insert (before : List Event) (sort : Filler) (after : List Event) :
    Respells (before ++ after) (before ++ .filler sort :: after)

/-- Any number of changes in how events are spelled, each made or taken back. -/
abbrev Respelled : List Event → List Event → Prop :=
  Relation.EqvGen Respells

/-- An event with an element that ends where it starts written out, and without filler. -/
def Event.writtenOut : Event → List Event
  | .empty tag => [.start tag, .close tag.name]
  | .filler _ => []
  | e => [e]

def writtenOut (es : List Event) : List Event :=
  es.flatMap Event.writtenOut

theorem writtenOut_append (es es' : List Event) :
    writtenOut (es ++ es') = writtenOut es ++ writtenOut es' :=
  List.flatMap_append

theorem Respells.writtenOut_eq {es es' : List Event} (h : Respells es es') :
    writtenOut es = writtenOut es' := by
  cases h with
  | writeOut before tag after => rw [writtenOut_append, writtenOut_append]; rfl
  | insert before sort after => rw [writtenOut_append, writtenOut_append]; rfl

theorem Respelled.cons {es es' : List Event} (e : Event) (h : Respelled es es') :
    Respelled (e :: es) (e :: es') := by
  induction h with
  | rel es es' h =>
    refine .rel _ _ ?_
    cases h with
    | writeOut before tag after => exact .writeOut (e :: before) tag after
    | insert before sort after => exact .insert (e :: before) sort after
  | refl es => exact .refl _
  | symm es es' _ ih => exact ih.symm
  | trans es es' es'' _ _ ih ih' => exact ih.trans _ _ _ ih'

theorem respelled_writtenOut (es : List Event) : Respelled es (writtenOut es) := by
  induction es with
  | nil => exact .refl _
  | cons e es ih =>
    cases e with
    | empty tag =>
      have rest := Respelled.cons (.start tag) (Respelled.cons (.close tag.name) ih)
      exact .trans _ _ _ (.rel _ _ (.writeOut [] tag es)) rest
    | filler sort => exact .trans _ _ _ (.symm _ _ (.rel _ _ (.insert [] sort es))) ih
    | start tag => exact Respelled.cons _ ih
    | close name => exact Respelled.cons _ ih
    | fault f => exact Respelled.cons _ ih

/-- Written out, events show all but how they are spelled. -/
theorem respelled_iff {es es' : List Event} :
    Respelled es es' ↔ writtenOut es = writtenOut es' := by
  constructor
  · intro h
    induction h with
    | rel es es' h => exact h.writtenOut_eq
    | refl es => rfl
    | symm es es' _ ih => exact ih.symm
    | trans es es' es'' _ _ ih ih' => exact ih.trans ih'
  · intro h
    have back : Respelled (writtenOut es) es' := h ▸ .symm _ _ (respelled_writtenOut es')
    exact .trans _ _ _ (respelled_writtenOut es) back

theorem findSome?_tag?_writtenOut (es : List Event) :
    (writtenOut es).findSome? Event.tag? = es.findSome? Event.tag? := by
  induction es with
  | nil => rfl
  | cons e es ih => cases e <;> first | rfl | exact ih

/-- What follows on the first tag of an element that is written out. -/
def Tag.followed (tag : Tag) (isEmpty : Bool) (es : List Event) : List Event :=
  if isEmpty then .close tag.name :: writtenOut es else writtenOut es

theorem writtenOut_opening (tag : Tag) (isEmpty : Bool) (es : List Event) :
    writtenOut (tag.opening isEmpty :: es) = tag.opening false :: tag.followed isEmpty es := by
  cases isEmpty <;> rfl

theorem Tag.length_writtenOut_le_followed (tag : Tag) (isEmpty : Bool) (es : List Event) :
    (writtenOut es).length ≤ (tag.followed isEmpty es).length := by
  cases isEmpty with
  | true => exact Nat.le_succ _
  | false => exact Nat.le_refl _

end Markup

namespace Document

open Markup (Event Tag writtenOut writtenOut_opening)

/-- Of `es` and of `es'`, readers leave `rest` and its written-out form. -/
structure LeftAlike (es es' rest rest' : List Event) : Prop where
  eq : rest' = writtenOut rest
  length : rest.length ≤ es.length
  length' : rest'.length ≤ es'.length

namespace LeftAlike

variable {es es' mid mid' rest rest' : List Event}

theorem refl (es : List Event) : LeftAlike es (writtenOut es) es (writtenOut es) :=
  ⟨rfl, Nat.le_refl _, Nat.le_refl _⟩

theorem trans (h : LeftAlike es es' mid mid') (h' : LeftAlike mid mid' rest rest') :
    LeftAlike es es' rest rest' :=
  ⟨h'.eq, h'.length.trans h.length, h'.length'.trans h.length'⟩

theorem cons (h : LeftAlike es es' rest rest') (e e' : Event) :
    LeftAlike (e :: es) (e' :: es') rest rest' :=
  ⟨h.eq, Nat.le_succ_of_le h.length, Nat.le_succ_of_le h.length'⟩

/-- Filler stands in one of the two only. -/
theorem skip (h : LeftAlike es es' rest rest') (e : Event) : LeftAlike (e :: es) es' rest rest' :=
  ⟨h.eq, Nat.le_succ_of_le h.length, h.length'⟩

/-- The end of an element that is written out stands in the other one only. -/
theorem skip' (h : LeftAlike es es' rest rest') (e : Event) : LeftAlike es (e :: es') rest rest' :=
  ⟨h.eq, h.length, Nat.le_succ_of_le h.length'⟩

end LeftAlike

/-- A reader gives the same for two streams, and leaves the same but for how it is spelled. -/
abbrev ReadAlike {α : Type} (es es' : List Event) :
    Except DocumentError (α × List Event) → Except DocumentError (α × List Event) → Prop :=
  Alike (· = ·) fun p q => p.1 = q.1 ∧ LeftAlike es es' p.2 q.2

theorem ReadAlike.shift {α : Type} {es es' mid mid' : List Event}
    {x y : Except DocumentError (α × List Event)} (h : ReadAlike mid mid' x y)
    (hmid : LeftAlike es es' mid mid') : ReadAlike es es' x y :=
  Alike.mono h fun _ _ hpq => ⟨hpq.1, hmid.trans hpq.2⟩

/-! ## Readers -/

theorem skip_writtenOut (depth : Nat) (es : List Event) :
    Alike (· = ·) (LeftAlike es (writtenOut es)) (skip depth es) (skip depth (writtenOut es)) := by
  induction es generalizing depth with
  | nil =>
    have hnil : skip depth [] = .ok [] := by cases depth <;> rfl
    exact hnil ▸ .ok (.refl [])
  | cons e es ih =>
    cases e with
    | start tag => exact (ih (depth + 1)).mono fun _ _ h => h.cons _ _
    | empty tag => exact (ih depth).mono fun _ _ h => (h.cons _ _).skip' _
    | close name =>
      cases depth with
      | zero => exact .ok ((LeftAlike.refl es).cons _ _)
      | succ depth => exact (ih depth).mono fun _ _ h => h.cons _ _
    | filler sort => exact (ih depth).mono fun _ _ h => h.skip _
    | fault f => cases depth <;> exact .error rfl

theorem skipAfter_writtenOut (tag : Tag) (isEmpty : Bool) (es : List Event) :
    Alike (· = ·) (LeftAlike es (tag.followed isEmpty es)) (skipAfter isEmpty es)
      (skipAfter false (tag.followed isEmpty es)) := by
  cases isEmpty with
  | true => exact .ok ((LeftAlike.refl es).skip' _)
  | false => exact skip_writtenOut 0 es

section Parts

variable {α : Type} (part : Nat → Tag → Except DocumentError α)

theorem partsWithin_writtenOut {rounds rounds' : Nat} (index : Nat) {es : List Event}
    (hrounds : es.length ≤ rounds) (hrounds' : (writtenOut es).length ≤ rounds') :
    ReadAlike es (writtenOut es) (partsWithin part rounds index es)
      (partsWithin part rounds' index (writtenOut es)) := by
  induction rounds generalizing rounds' index es with
  | zero =>
    obtain rfl := List.eq_nil_of_length_eq_zero (Nat.le_zero.1 hrounds)
    cases rounds' <;> exact .ok ⟨rfl, .refl []⟩
  | succ rounds ih =>
    cases es with
    | nil => cases rounds' <;> exact .ok ⟨rfl, .refl []⟩
    | cons e es =>
      have hes : es.length ≤ rounds := Nat.le_of_succ_le_succ hrounds
      have taken (tag : Tag) (isEmpty : Bool)
          (hrounds' : (writtenOut (tag.opening isEmpty :: es)).length ≤ rounds') :
          ReadAlike (tag.opening isEmpty :: es) (writtenOut (tag.opening isEmpty :: es))
            (partsWithin part (rounds + 1) index (tag.opening isEmpty :: es))
            (partsWithin part rounds' index (writtenOut (tag.opening isEmpty :: es))) := by
        rw [writtenOut_opening] at hrounds' ⊢
        obtain ⟨rounds', rfl⟩ := Nat.exists_eq_succ_of_ne_zero (Nat.ne_zero_of_lt hrounds')
        rw [partsWithin_opening, partsWithin_opening]
        refine .after fun p => (skipAfter_writtenOut tag isEmpty es).bind fun mid mid' hmid => ?_
        obtain rfl := hmid.eq
        have hrest := ih (index + 1) (hmid.length.trans hes)
          (hmid.length'.trans (Nat.le_of_succ_le_succ hrounds'))
        exact (hrest.shift (hmid.cons _ _)).map_fst (p :: ·)
      cases e with
      | start tag => exact taken tag false hrounds'
      | empty tag => exact taken tag true hrounds'
      | close name =>
        obtain ⟨rounds', rfl⟩ := Nat.exists_eq_succ_of_ne_zero (Nat.ne_zero_of_lt hrounds')
        exact .ok ⟨rfl, (LeftAlike.refl es).cons _ _⟩
      | filler sort => exact (ih index hes hrounds').shift ((LeftAlike.refl es).skip _)
      | fault f =>
        obtain ⟨rounds', rfl⟩ := Nat.exists_eq_succ_of_ne_zero (Nat.ne_zero_of_lt hrounds')
        exact .error rfl

/-- The end of an element that is written out is read as the element's end. -/
theorem parts_writtenOut (tag : Tag) (isEmpty : Bool) (es : List Event) :
    ReadAlike es (tag.followed isEmpty es) (parts part isEmpty es)
      (parts part false (tag.followed isEmpty es)) := by
  cases isEmpty with
  | true => exact .ok ⟨rfl, (LeftAlike.refl es).skip' _⟩
  | false => exact partsWithin_writtenOut part 0 (Nat.le_refl _) (Nat.le_refl _)

end Parts

/-- A type is read alike, if the variants of a sum are: those of a sum that ends where it starts
are read up to the end that is written out. -/
theorem typeWith_writtenOut
    {read read' : String → List Event → Except DocumentError (List Descriptor × List Event)}
    {isEmpty : Bool} {es : List Event}
    (hread : ∀ name, ReadAlike es (writtenOut es) (read name es) (read' name (writtenOut es)))
    (hend : isEmpty = true → ∀ name close,
      read' name (.close close :: writtenOut es) = .ok ([], writtenOut es))
    (owner : Option String) (tag : Tag) :
    ReadAlike es (tag.followed isEmpty es) (typeWith read owner tag isEmpty es)
      (typeWith read' owner tag false (tag.followed isEmpty es)) := by
  unfold typeWith
  split
  · exact .after fun name =>
      (parts_writtenOut (fun _ => Element.entry name) tag isEmpty es).map_fst _
  · exact .after fun (name, content) =>
      (parts_writtenOut (Element.member name content.style) tag isEmpty es).map_fst
        fun members => Descriptor.product name { content with members }
  · refine .after fun (name, companion) => ?_
    cases isEmpty with
    | true =>
      have hvariants : ReadAlike es (tag.followed true es) (.ok ([], es))
          (read' name (tag.followed true es)) := by
        rw [Tag.followed, if_pos rfl, hend rfl]
        exact .ok ⟨rfl, (LeftAlike.refl es).skip' _⟩
      exact hvariants.map_fst fun vs => Descriptor.sum name vs companion
    | false => exact (hread name).map_fst fun vs => Descriptor.sum name vs companion
  · exact .after fun d => (skipAfter_writtenOut tag isEmpty es).bind fun _ _ h => .ok ⟨rfl, h⟩
  · exact .after fun d => (skipAfter_writtenOut tag isEmpty es).bind fun _ _ h => .ok ⟨rfl, h⟩
  · exact .after fun d => (skipAfter_writtenOut tag isEmpty es).bind fun _ _ h => .ok ⟨rfl, h⟩
  · exact .error rfl

theorem variantsWithin_close {rounds : Nat} (seen : List String) (owner close : String)
    {es : List Event} (hrounds : (Event.close close :: es).length ≤ rounds) :
    variantsWithin rounds seen owner (.close close :: es) = .ok ([], es) := by
  cases rounds with
  | zero => cases hrounds
  | succ rounds => rfl

theorem variantsWithin_writtenOut {rounds rounds' : Nat} (seen : List String) (owner : String)
    {es : List Event} (hrounds : es.length ≤ rounds)
    (hrounds' : (writtenOut es).length ≤ rounds') :
    ReadAlike es (writtenOut es) (variantsWithin rounds seen owner es)
      (variantsWithin rounds' seen owner (writtenOut es)) := by
  induction rounds generalizing rounds' seen owner es with
  | zero =>
    obtain rfl := List.eq_nil_of_length_eq_zero (Nat.le_zero.1 hrounds)
    cases rounds' <;> exact .ok ⟨rfl, .refl []⟩
  | succ rounds ih =>
    cases es with
    | nil => cases rounds' <;> exact .ok ⟨rfl, .refl []⟩
    | cons e es =>
      have hes : es.length ≤ rounds := Nat.le_of_succ_le_succ hrounds
      have taken (tag : Tag) (isEmpty : Bool)
          (hrounds' : (writtenOut (tag.opening isEmpty :: es)).length ≤ rounds') :
          ReadAlike (tag.opening isEmpty :: es) (writtenOut (tag.opening isEmpty :: es))
            (variantsWithin (rounds + 1) seen owner (tag.opening isEmpty :: es))
            (variantsWithin rounds' seen owner (writtenOut (tag.opening isEmpty :: es))) := by
        rw [writtenOut_opening] at hrounds' ⊢
        obtain ⟨rounds', rfl⟩ := Nat.exists_eq_succ_of_ne_zero (Nat.ne_zero_of_lt hrounds')
        have hfollowed : (tag.followed isEmpty es).length ≤ rounds' :=
          Nat.le_of_succ_le_succ hrounds'
        have hes' : (writtenOut es).length ≤ rounds' :=
          (tag.length_writtenOut_le_followed isEmpty es).trans hfollowed
        have hend : isEmpty = true → ∀ name close,
            variantsWithin rounds' [] name (.close close :: writtenOut es) =
              .ok ([], writtenOut es) := by
          rintro rfl name close
          exact variantsWithin_close [] name close hfollowed
        have hvariant :=
          typeWith_writtenOut (fun name => ih [] name hes hes') hend (some owner) tag
        rw [variantsWithin_opening, variantsWithin_opening]
        refine hvariant.bind fun ⟨v, mid⟩ ⟨v', mid'⟩ ⟨hvv, hmid⟩ => ?_
        obtain rfl : v = v' := hvv
        obtain rfl := hmid.eq
        split
        · exact .error rfl
        · have hrest := ih (v.name :: seen) owner (hmid.length.trans hes)
            (hmid.length'.trans hfollowed)
          exact (hrest.shift (hmid.cons _ _)).map_fst (v :: ·)
      cases e with
      | start tag => exact taken tag false hrounds'
      | empty tag => exact taken tag true hrounds'
      | close name =>
        obtain ⟨rounds', rfl⟩ := Nat.exists_eq_succ_of_ne_zero (Nat.ne_zero_of_lt hrounds')
        exact .ok ⟨rfl, (LeftAlike.refl es).cons _ _⟩
      | filler sort => exact (ih seen owner hes hrounds').shift ((LeftAlike.refl es).skip _)
      | fault f =>
        obtain ⟨rounds', rfl⟩ := Nat.exists_eq_succ_of_ne_zero (Nat.ne_zero_of_lt hrounds')
        exact .error rfl

theorem type_writtenOut (owner : Option String) (tag : Tag) (isEmpty : Bool) (es : List Event) :
    ReadAlike es (tag.followed isEmpty es) (type owner tag isEmpty es)
      (type owner tag false (tag.followed isEmpty es)) := by
  have hread (name : String) :
      ReadAlike es (writtenOut es) (variants name es) (variants name (writtenOut es)) :=
    variantsWithin_writtenOut [] name (Nat.le_refl _) (Nat.le_refl _)
  exact typeWith_writtenOut hread (fun _ _ _ => rfl) owner tag

theorem typesWithin_writtenOut {rounds rounds' : Nat} (s : Schema) {es : List Event}
    (hrounds : es.length ≤ rounds) (hrounds' : (writtenOut es).length ≤ rounds') :
    ReadAlike es (writtenOut es) (typesWithin rounds s es)
      (typesWithin rounds' s (writtenOut es)) := by
  induction rounds generalizing rounds' s es with
  | zero =>
    obtain rfl := List.eq_nil_of_length_eq_zero (Nat.le_zero.1 hrounds)
    cases rounds' <;> exact .ok ⟨rfl, .refl []⟩
  | succ rounds ih =>
    cases es with
    | nil => cases rounds' <;> exact .ok ⟨rfl, .refl []⟩
    | cons e es =>
      have hes : es.length ≤ rounds := Nat.le_of_succ_le_succ hrounds
      have taken (tag : Tag) (isEmpty : Bool)
          (hrounds' : (writtenOut (tag.opening isEmpty :: es)).length ≤ rounds') :
          ReadAlike (tag.opening isEmpty :: es) (writtenOut (tag.opening isEmpty :: es))
            (typesWithin (rounds + 1) s (tag.opening isEmpty :: es))
            (typesWithin rounds' s (writtenOut (tag.opening isEmpty :: es))) := by
        rw [writtenOut_opening] at hrounds' ⊢
        obtain ⟨rounds', rfl⟩ := Nat.exists_eq_succ_of_ne_zero (Nat.ne_zero_of_lt hrounds')
        have hfollowed : (tag.followed isEmpty es).length ≤ rounds' :=
          Nat.le_of_succ_le_succ hrounds'
        rw [typesWithin_opening, typesWithin_opening]
        refine (type_writtenOut none tag isEmpty es).bind
          fun ⟨d, mid⟩ ⟨d', mid'⟩ ⟨hdd, hmid⟩ => ?_
        obtain rfl : d = d' := hdd
        obtain rfl := hmid.eq
        refine .after fun s => ?_
        have hrest := ih s (hmid.length.trans hes) (hmid.length'.trans hfollowed)
        exact hrest.shift (hmid.cons _ _)
      cases e with
      | start tag => exact taken tag false hrounds'
      | empty tag => exact taken tag true hrounds'
      | close name =>
        obtain ⟨rounds', rfl⟩ := Nat.exists_eq_succ_of_ne_zero (Nat.ne_zero_of_lt hrounds')
        exact .ok ⟨rfl, (LeftAlike.refl es).cons _ _⟩
      | filler sort => exact (ih s hes hrounds').shift ((LeftAlike.refl es).skip _)
      | fault f =>
        obtain ⟨rounds', rfl⟩ := Nat.exists_eq_succ_of_ne_zero (Nat.ne_zero_of_lt hrounds')
        exact .error rfl

/-! ## Outside all sections -/

/-- A root has started, or the first tag starts one. -/
def Rooted (schema : Option Schema) (es : List Event) : Prop :=
  schema.isSome = true ∨ (es.findSome? Event.tag?).map (·.name) = some "fieldSchema"

theorem takeTag_section {tag : Tag} (htag : tag.name = "types") (s : Schema) (isEmpty : Bool)
    (es : List Event) :
    takeTag (some s) tag isEmpty es =
      if isEmpty then .ok (some s, es)
      else types s es >>= fun p => .ok (some p.1, p.2) := by
  cases isEmpty with
  | true => simp [takeTag, htag, directive?]
  | false =>
    simp only [takeTag, htag, started]
    rfl

theorem takeTag_directive {tag : Tag} {d : Directive} (htag : directive? tag.name = some d)
    (s : Schema) (isEmpty : Bool) (es : List Event) :
    takeTag (some s) tag isEmpty es =
      Element.request d tag >>= fun r => skipAfter isEmpty es >>= fun es =>
        .ok (some (s.addRequest r), es) := by
  have hroot : tag.name ≠ "fieldSchema" := by intro h; rw [h] at htag; cases htag
  have htypes : tag.name ≠ "types" := by intro h; rw [h] at htag; cases htag
  simp [takeTag, hroot, htypes, htag, started]
  rfl

theorem takeTag_other {tag : Tag} (hroot : tag.name ≠ "fieldSchema") (htypes : tag.name ≠ "types")
    (htag : directive? tag.name = none) (schema : Option Schema) (isEmpty : Bool)
    (es : List Event) : takeTag schema tag isEmpty es = .ok (schema, es) := by
  simp [takeTag, hroot, htypes, htag]

/-- Once a root has started, a tag outside all sections is taken alike, or nothing but the tag is
taken of either. -/
theorem takeTag_writtenOut {schema : Option Schema} {tag : Tag}
    (hroot : schema.isSome = true ∨ tag.name = "fieldSchema") (isEmpty : Bool)
    (es : List Event) :
    Alike (· = ·)
      (fun p q => p.1 = q.1 ∧ p.1.isSome = true ∧
        (LeftAlike es (tag.followed isEmpty es) p.2 q.2 ∨
          p.2 = es ∧ q.2 = tag.followed isEmpty es))
      (takeTag schema tag isEmpty es) (takeTag schema tag false (tag.followed isEmpty es)) := by
  by_cases hname : tag.name = "fieldSchema"
  · rw [takeTag_root hname, takeTag_root hname]
    exact .after fun s => .ok ⟨rfl, rfl, .inr ⟨rfl, rfl⟩⟩
  obtain ⟨s, rfl⟩ := Option.isSome_iff_exists.1 (hroot.resolve_right hname)
  by_cases htypes : tag.name = "types"
  · rw [takeTag_section htypes, takeTag_section htypes, if_neg Bool.false_ne_true]
    cases isEmpty with
    | true =>
      -- A section that ends where it starts is not even read; written out, it is read to its end.
      exact .ok ⟨rfl, rfl, .inl ((LeftAlike.refl es).skip' _)⟩
    | false =>
      have hread : ReadAlike es (writtenOut es) (types s es) (types s (writtenOut es)) :=
        typesWithin_writtenOut s (Nat.le_refl _) (Nat.le_refl _)
      exact hread.bind fun _ _ h => .ok ⟨congrArg some h.1, rfl, .inl h.2⟩
  cases hd : directive? tag.name with
  | some d =>
    rw [takeTag_directive hd, takeTag_directive hd]
    exact .after fun r => (skipAfter_writtenOut tag isEmpty es).bind
      fun _ _ h => .ok ⟨rfl, rfl, .inl h⟩
  | none =>
    rw [takeTag_other hname htypes hd, takeTag_other hname htypes hd]
    exact .ok ⟨rfl, rfl, .inr ⟨rfl, rfl⟩⟩

/-- An end tag says nothing outside all sections. -/
theorem sectionsWithin_followed {rounds : Nat} (schema : Option Schema) (tag : Tag)
    {isEmpty : Bool} {es : List Event} (hrounds : (tag.followed isEmpty es).length ≤ rounds) :
    ∃ rounds', (writtenOut es).length ≤ rounds' ∧
      sectionsWithin rounds schema (tag.followed isEmpty es) =
        sectionsWithin rounds' schema (writtenOut es) := by
  cases isEmpty with
  | false => exact ⟨rounds, hrounds, rfl⟩
  | true =>
    obtain ⟨rounds, rfl⟩ := Nat.exists_eq_succ_of_ne_zero (Nat.ne_zero_of_lt hrounds)
    exact ⟨rounds, Nat.le_of_succ_le_succ hrounds, rfl⟩

theorem sectionsWithin_writtenOut {rounds rounds' : Nat} {schema : Option Schema}
    {es : List Event} (hroot : Rooted schema es) (hrounds : es.length ≤ rounds)
    (hrounds' : (writtenOut es).length ≤ rounds') :
    sectionsWithin rounds schema es = sectionsWithin rounds' schema (writtenOut es) := by
  induction rounds generalizing rounds' schema es with
  | zero =>
    obtain rfl := List.eq_nil_of_length_eq_zero (Nat.le_zero.1 hrounds)
    cases rounds' <;> rfl
  | succ rounds ih =>
    cases es with
    | nil => cases rounds' <;> rfl
    | cons e es =>
      have hes : es.length ≤ rounds := Nat.le_of_succ_le_succ hrounds
      have taken (tag : Tag) (isEmpty : Bool)
          (hroot : schema.isSome = true ∨ tag.name = "fieldSchema")
          (hrounds' : (writtenOut (tag.opening isEmpty :: es)).length ≤ rounds') :
          sectionsWithin (rounds + 1) schema (tag.opening isEmpty :: es) =
            sectionsWithin rounds' schema (writtenOut (tag.opening isEmpty :: es)) := by
        rw [writtenOut_opening] at hrounds' ⊢
        obtain ⟨rounds', rfl⟩ := Nat.exists_eq_succ_of_ne_zero (Nat.ne_zero_of_lt hrounds')
        have hfollowed : (tag.followed isEmpty es).length ≤ rounds' :=
          Nat.le_of_succ_le_succ hrounds'
        rw [sectionsWithin_opening, sectionsWithin_opening]
        have htake := takeTag_writtenOut hroot isEmpty es
        generalize takeTag schema tag isEmpty es = x at htake
        generalize takeTag schema tag false (tag.followed isEmpty es) = y at htake
        cases htake with
        | error he => rw [he]; rfl
        | @ok p q h =>
          obtain ⟨next, mid⟩ := p
          obtain ⟨next', mid'⟩ := q
          obtain ⟨rfl : next = next', hsome, hmid | ⟨rfl : mid = es, rfl⟩⟩ := h
          · obtain rfl := hmid.eq
            exact ih (.inl hsome) (hmid.length.trans hes) (hmid.length'.trans hfollowed)
          · obtain ⟨rounds'', hrounds'', hsections⟩ := sectionsWithin_followed next tag hfollowed
            exact (ih (.inl hsome) hes hrounds'').trans hsections.symm
      cases e with
      | start tag => exact taken tag false (hroot.imp_right Option.some_inj.1) hrounds'
      | empty tag => exact taken tag true (hroot.imp_right Option.some_inj.1) hrounds'
      | close name =>
        obtain ⟨rounds', rfl⟩ := Nat.exists_eq_succ_of_ne_zero (Nat.ne_zero_of_lt hrounds')
        exact ih hroot hes (Nat.le_of_succ_le_succ hrounds')
      | filler sort => exact ih hroot hes hrounds'
      | fault f =>
        obtain ⟨rounds', rfl⟩ := Nat.exists_eq_succ_of_ne_zero (Nat.ne_zero_of_lt hrounds')
        rfl

end Document

open Markup (Event Respelled respelled_iff writtenOut)

/-- Written out, events whose first tag is a root's make the same schema, or are refused with the
same error. -/
theorem Schema.ofEvents_writtenOut {es : List Event}
    (hroot : (es.findSome? Event.tag?).map (·.name) = some "fieldSchema") :
    ofEvents (writtenOut es) = ofEvents es := by
  rw [ofEvents, ofEvents,
    Document.sectionsWithin_writtenOut (.inr hroot) (Nat.le_refl _) (Nat.le_refl _)]

/-- Where the first tag is a root's, the outcome of reading events, schema or error, does not
depend on how they are spelled: on which elements are written out, and on what filler there is. -/
theorem Schema.ofEvents_respelled {es es' : List Event}
    (hroot : (es.findSome? Event.tag?).map (·.name) = some "fieldSchema")
    (h : Respelled es es') : ofEvents es' = ofEvents es := by
  have hwritten : writtenOut es = writtenOut es' := respelled_iff.1 h
  have hroot' : (es'.findSome? Event.tag?).map (·.name) = some "fieldSchema" := by
    rw [← Markup.findSome?_tag?_writtenOut, ← hwritten, Markup.findSome?_tag?_writtenOut, hroot]
  rw [← ofEvents_writtenOut hroot, ← ofEvents_writtenOut hroot', hwritten]

/-- Events in which every element ends where it starts, if it can. -/
def terse : List Event :=
  [.start ⟨"fieldSchema", [⟨"package", "p"⟩]⟩, .start ⟨"types", []⟩,
    .start ⟨"sum", [⟨"name", "S"⟩]⟩,
    .empty ⟨"singleton", [⟨"name", "A"⟩]⟩, .start ⟨"product", [⟨"name", "B"⟩]⟩,
    .empty ⟨"member", [⟨"name", "x"⟩, ⟨"type", "i32"⟩]⟩, .close "product", .close "sum",
    .close "types", .empty ⟨"generate", [⟨"type", "S"⟩]⟩, .close "fieldSchema"]

/-- The same events with every element written out, and with filler. -/
def airy : List Event :=
  [.filler .instruction, .start ⟨"fieldSchema", [⟨"package", "p"⟩]⟩, .filler .comment,
    .start ⟨"types", []⟩, .start ⟨"sum", [⟨"name", "S"⟩]⟩, .start ⟨"singleton", [⟨"name", "A"⟩]⟩,
    .filler .text, .close "singleton", .start ⟨"product", [⟨"name", "B"⟩]⟩,
    .start ⟨"member", [⟨"name", "x"⟩, ⟨"type", "i32"⟩]⟩, .filler .reference, .close "member",
    .close "product", .close "sum", .filler .cdata, .close "types",
    .start ⟨"generate", [⟨"type", "S"⟩]⟩, .close "generate", .close "fieldSchema"]

theorem Schema.ofEvents_respelled_airy :
    (terse.findSome? Event.tag?).map (·.name) = some "fieldSchema" ∧ Respelled terse airy ∧
      (ofEvents terse).toOption.isSome = true ∧ ofEvents airy = ofEvents terse := by
  have hspelled : Respelled terse airy := respelled_iff.2 (by decide)
  exact ⟨rfl, hspelled, by decide +kernel, ofEvents_respelled rfl hspelled⟩

end EditableFields
