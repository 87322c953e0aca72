import EditableFields.Proofs.Document.Node
import EditableFields.Proofs.Result
import EditableFields.Schema.Document
import Mathlib.Data.List.Forall2

/-!
# Documents: which element is in which

The elements of a stream of events are read off the stream alone, whatever is in it (`levels`). A
reader that takes the events of an element up to its end leaves the levels outside of the element
behind it (`Ends`). So do the readers that pass over an element (`skipAfter_inside`) and those that
read its children from their tags (`parts_inside`).
-/

namespace EditableFields

namespace Markup

def Node.children : Node → List Node
  | element _ children => children

/-- The event of an element's first tag. -/
def Tag.opening (tag : Tag) (isEmpty : Bool) : Event :=
  if isEmpty then .empty tag else .start tag

theorem Node.opening_eq (l : Layout) (n : Node) : n.opening l = n.tag.opening (n.isEmpty l) := rfl

/-! ## Levels -/

/-- The elements of a stream: first those before the end of the innermost open element, then those
before the end of the element around it, and so on. What is still open at the end of the stream
ends there. -/
def levels : List Event → List (List Node)
  | [] => []
  | .start tag :: es =>
    (.element tag ((levels es).headD []) :: (levels es).tail.headD []) :: (levels es).tail.tail
  | .empty tag :: es => (.element tag [] :: (levels es).headD []) :: (levels es).tail
  | .close _ :: es => [] :: levels es
  | .filler _ :: es => levels es
  | .fault _ :: _ => []

theorem flatten_eq_headD_append (ls : List (List α)) :
    ls.flatten = ls.headD [] ++ ls.tail.flatten := by
  cases ls <;> rfl

/-- The events behind the end of the innermost open element, `depth` elements inside of it being
open. There are none if the element does not end. -/
def behind : Nat → List Event → List Event
  | _, [] => []
  | depth, .start _ :: es => behind (depth + 1) es
  | 0, .close _ :: es => es
  | depth + 1, .close _ :: es => behind depth es
  | depth, .empty _ :: es => behind depth es
  | depth, .filler _ :: es => behind depth es
  | depth, .fault _ :: es => behind depth es

/-- Behind the end of several elements is what is behind the end of some of them and then of the
others. -/
theorem behind_behind (inner outer : Nat) (es : List Event) :
    behind outer (behind inner es) = behind (inner + outer + 1) es := by
  induction es generalizing inner with
  | nil => cases outer <;> rfl
  | cons e es ih =>
    cases e with
    | start tag =>
      have h := ih (inner + 1)
      rwa [Nat.add_right_comm inner 1 outer] at h
    | close name =>
      cases inner with
      | zero => rw [Nat.zero_add]; rfl
      | succ inner =>
        rw [Nat.add_right_comm inner 1 outer]
        exact ih inner
    | empty | filler | fault => cases inner <;> exact ih _

theorem length_behind_le (depth : Nat) (es : List Event) :
    (behind depth es).length ≤ es.length := by
  induction es generalizing depth with
  | nil => cases depth <;> exact Nat.le_refl _
  | cons e es ih =>
    cases e with
    | start tag => exact Nat.le_succ_of_le (ih (depth + 1))
    | close name =>
      cases depth with
      | zero => exact Nat.le_succ _
      | succ depth => exact Nat.le_succ_of_le (ih depth)
    | empty | filler | fault => cases depth <;> exact Nat.le_succ_of_le (ih _)

/-- Up to the end of the innermost open element, a stream holds the elements `children` and
leaves `rest`. -/
structure Ends (es : List Event) (children : List Node) (rest : List Event) : Prop where
  head : (levels es).headD [] = children
  tail : (levels es).tail = levels rest
  rest_eq : rest = behind 0 es

namespace Ends

variable {es mid rest : List Event} {inner children : List Node} {tag : Tag}

theorem length (h : Ends es children rest) : rest.length ≤ es.length :=
  h.rest_eq ▸ length_behind_le 0 es

theorem nil : Ends [] [] [] :=
  ⟨rfl, rfl, rfl⟩

theorem close (name : String) (es : List Event) : Ends (.close name :: es) [] es :=
  ⟨rfl, rfl, rfl⟩

theorem filler (h : Ends es children rest) (sort : Filler) :
    Ends (.filler sort :: es) children rest :=
  ⟨h.head, h.tail, h.rest_eq⟩

theorem empty (h : Ends es children rest) :
    Ends (.empty tag :: es) (.element tag [] :: children) rest :=
  ⟨congrArg (Node.element tag [] :: ·) h.head, h.tail, h.rest_eq⟩

theorem start (hin : Ends es inner mid) (h : Ends mid children rest) :
    Ends (.start tag :: es) (.element tag inner :: children) rest where
  head := by rw [levels, List.headD_cons, hin.head, hin.tail, h.head]
  tail := by rw [levels, List.tail_cons, hin.tail, h.tail]
  rest_eq := by rw [h.rest_eq, hin.rest_eq, behind_behind]; rfl

end Ends

/-- Inside of an element, whose first tag was taken, a stream holds `children`, and behind it
`rest`. An element that ends where it starts holds nothing. -/
inductive Inside : Bool → List Event → List Node → List Event → Prop
  | empty (es : List Event) : Inside true es [] es
  | start {es children rest} : Ends es children rest → Inside false es children rest

namespace Inside

variable {isEmpty : Bool} {es mid rest : List Event} {inner children : List Node}

theorem length (h : Inside isEmpty es children rest) : rest.length ≤ es.length := by
  cases h with
  | empty => exact Nat.le_refl _
  | start h => exact h.length

theorem ends (hin : Inside isEmpty es inner mid) (h : Ends mid children rest) (tag : Tag) :
    Ends (tag.opening isEmpty :: es) (.element tag inner :: children) rest := by
  cases hin with
  | empty => exact h.empty
  | start hin => exact hin.start h

/-- The elements that follow are an element with what is inside of it and those behind it. -/
theorem flatten_levels (h : Inside isEmpty es children rest) (tag : Tag) :
    (levels (tag.opening isEmpty :: es)).flatten =
      .element tag children :: (levels rest).flatten := by
  rw [flatten_eq_headD_append (levels rest)]
  cases h with
  | empty => rfl
  | start h => rw [← h.head, ← h.tail]; rfl

end Inside

/-- Taking no more than the first tag of an element leaves what is inside of it to those behind
it. -/
theorem flatten_levels_opening (tag : Tag) (isEmpty : Bool) (es : List Event) :
    ∃ inner outer, (levels (tag.opening isEmpty :: es)).flatten = .element tag inner :: outer ∧
      (levels es).flatten = inner ++ outer := by
  cases isEmpty with
  | true => exact ⟨[], (levels es).flatten, (Inside.empty es).flatten_levels tag, rfl⟩
  | false =>
    refine ⟨_, _, rfl, ?_⟩
    rw [flatten_eq_headD_append (levels es), flatten_eq_headD_append (levels es).tail]
    rfl

end Markup

namespace Document

open Markup (Ends Event Inside Node Tag behind levels)

/-! ## First tags -/

theorem partsWithin_opening {α : Type} (part : Nat → Tag → Except DocumentError α) (tag : Tag)
    (isEmpty : Bool) (rounds index : Nat) (es : List Event) :
    partsWithin part (rounds + 1) index (tag.opening isEmpty :: es) =
      part index tag >>= fun p => skipAfter isEmpty es >>= fun es =>
        partsWithin part rounds (index + 1) es >>= fun q => .ok (p :: q.1, q.2) := by
  cases isEmpty <;> rfl

theorem variantsWithin_opening (tag : Tag) (isEmpty : Bool) (rounds : Nat) (seen : List String)
    (owner : String) (es : List Event) :
    variantsWithin (rounds + 1) seen owner (tag.opening isEmpty :: es) =
      typeWith (variantsWithin rounds []) (some owner) tag isEmpty es >>= fun p =>
        if seen.contains p.1.name then .error (.duplicateVariant p.1.name)
        else variantsWithin rounds (p.1.name :: seen) owner p.2 >>= fun q =>
          .ok (p.1 :: q.1, q.2) := by
  cases isEmpty <;> rfl

theorem typesWithin_opening (tag : Tag) (isEmpty : Bool) (rounds : Nat) (s : Schema)
    (es : List Event) :
    typesWithin (rounds + 1) s (tag.opening isEmpty :: es) =
      type none tag isEmpty es >>= fun p =>
        declare s p.1 >>= fun s => typesWithin rounds s p.2 := by
  cases isEmpty <;> rfl

theorem sectionsWithin_opening (tag : Tag) (isEmpty : Bool) (rounds : Nat)
    (schema : Option Schema) (es : List Event) :
    sectionsWithin (rounds + 1) schema (tag.opening isEmpty :: es) =
      takeTag schema tag isEmpty es >>= fun p => sectionsWithin rounds p.1 p.2 := by
  cases isEmpty <;> rfl

theorem takeTag_root {tag : Tag} (htag : tag.name = "fieldSchema") (schema : Option Schema)
    (isEmpty : Bool) (es : List Event) :
    takeTag schema tag isEmpty es = Element.root tag >>= fun s => .ok (some s, es) := by
  rw [takeTag, if_pos htag]
  rfl

/-! ## Readers -/

/-- Passing over what is left of an element leaves what is behind it, and the levels outside of it,
`depth` elements inside of it being open. -/
theorem skip_levels {depth : Nat} {es rest : List Event} (h : skip depth es = .ok rest) :
    (levels es).drop (depth + 1) = levels rest ∧ rest = behind depth es := by
  induction es generalizing depth with
  | nil =>
    cases h
    exact ⟨List.drop_nil, by cases depth <;> rfl⟩
  | cons e es ih =>
    cases e with
    | start tag =>
      obtain ⟨hlevels, hrest⟩ := ih h
      refine ⟨?_, hrest⟩
      -- What is inside of the new element is one level, which is folded into the one around it.
      rw [levels, List.drop_succ_cons, ← hlevels, List.drop_tail, List.drop_tail]
    | empty tag =>
      obtain ⟨hlevels, hrest⟩ := ih h
      refine ⟨?_, hrest⟩
      rw [levels, List.drop_succ_cons, ← hlevels, List.drop_tail]
    | close name =>
      cases depth with
      | zero =>
        cases h
        exact ⟨rfl, rfl⟩
      | succ depth => exact ih h
    | filler sort => exact ih h
    | fault f => cases depth <;> cases h

theorem skipAfter_inside {isEmpty : Bool} {es rest : List Event}
    (h : skipAfter isEmpty es = .ok rest) : ∃ children, Inside isEmpty es children rest := by
  cases isEmpty with
  | true =>
    cases h
    exact ⟨[], .empty es⟩
  | false =>
    obtain ⟨hlevels, hrest⟩ := skip_levels h
    exact ⟨_, .start ⟨rfl, List.drop_one ▸ hlevels, hrest⟩⟩

section Parts

variable {α : Type} {part : Nat → Tag → Except DocumentError α} {es rest : List Event}
  {ps : List α}

/-- The children of an element are read from their tags, each with its position. -/
theorem partsWithin_ends {rounds index : Nat} (hrounds : es.length ≤ rounds)
    (h : partsWithin part rounds index es = .ok (ps, rest)) :
    ∃ children, Ends es children rest ∧
      List.Forall₂ (fun p (c : Node × Nat) => part c.2 c.1.tag = .ok p) ps
        (children.zipIdx index) := by
  induction rounds generalizing index es ps with
  | zero =>
    obtain rfl := List.eq_nil_of_length_eq_zero (Nat.le_zero.1 hrounds)
    cases h
    exact ⟨[], .nil, .nil⟩
  | succ rounds ih =>
    cases es with
    | nil =>
      cases h
      exact ⟨[], .nil, .nil⟩
    | cons e es =>
      have hes : es.length ≤ rounds := Nat.le_of_succ_le_succ hrounds
      have taken (tag : Tag) (isEmpty : Bool)
          (h : partsWithin part (rounds + 1) index (tag.opening isEmpty :: es) = .ok (ps, rest)) :
          ∃ children, Ends (tag.opening isEmpty :: es) children rest ∧
            List.Forall₂ (fun p (c : Node × Nat) => part c.2 c.1.tag = .ok p) ps
              (children.zipIdx index) := by
        rw [partsWithin_opening] at h
        obtain ⟨p, hp, h⟩ := bind_eq_ok.1 h
        obtain ⟨mid, hskip, h⟩ := bind_eq_ok.1 h
        obtain ⟨⟨ps, rest⟩, hparts, h⟩ := bind_eq_ok.1 h
        cases h
        obtain ⟨inner, hinside⟩ := skipAfter_inside hskip
        obtain ⟨children, hends, hps⟩ := ih (hinside.length.trans hes) hparts
        exact ⟨_, hinside.ends hends tag, .cons hp hps⟩
      cases e with
      | start tag => exact taken tag false h
      | empty tag => exact taken tag true h
      | close name =>
        cases h
        exact ⟨[], .close name _, .nil⟩
      | filler sort =>
        obtain ⟨children, hends, hps⟩ := ih hes h
        exact ⟨children, hends.filler sort, hps⟩
      | fault f => cases h

theorem parts_inside {isEmpty : Bool} (h : parts part isEmpty es = .ok (ps, rest)) :
    ∃ children, Inside isEmpty es children rest ∧
      List.Forall₂ (fun p (c : Node × Nat) => part c.2 c.1.tag = .ok p) ps children.zipIdx := by
  cases isEmpty with
  | true =>
    cases h
    exact ⟨[], .empty es, .nil⟩
  | false =>
    obtain ⟨children, hends, hps⟩ := partsWithin_ends (Nat.le_refl _) h
    exact ⟨children, .start hends, hps⟩

end Parts

end Document

end EditableFields
