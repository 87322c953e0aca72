import EditableFields.Proofs.Document.Declared

/-!
# Documents: how far a reader goes

The end of an element is told by counting alone: it is the first place where no more elements were
started than ended, the element itself among them (`Markup.EndsAt`), and the event before it is an
end tag (`Markup.EndsAt.exists_close`). What passes over an element leaves the events behind its
end, and none if the element does not end. So does what reads a type from an element, whatever is
inside of it (`Document.leaves_of_read`).
-/

namespace EditableFields

namespace Markup

/-- How many more elements are open behind an event than before it. -/
def Event.change : Event → Int
  | start _ => 1
  | close _ => -1
  | empty _ | filler _ | fault _ => 0

/-- How many elements are open behind some events, if `depth` are before them. -/
def depthAfter (depth : Int) (es : List Event) : Int :=
  es.foldl (fun depth e => depth + e.change) depth

/-- Of `depth` elements that are open, all have ended behind the first `n` events, and not
before. -/
structure EndsAt (depth : Int) (es : List Event) (n : Nat) : Prop where
  ended : depthAfter depth (es.take n) = 0
  notBefore : ∀ m < n, depthAfter depth (es.take m) ≠ 0

namespace EndsAt

variable {depth : Int} {e : Event} {es : List Event} {n : Nat}

theorem zero_iff : EndsAt depth es 0 ↔ depth = 0 :=
  ⟨fun h => h.ended, fun h => ⟨h, nofun⟩⟩

/-- All elements have ended behind `e` and `n` more events, and not before, exactly if some are
open before `e` and those open behind it have ended behind the `n` more. -/
theorem cons_iff : EndsAt depth (e :: es) (n + 1) ↔ depth ≠ 0 ∧ EndsAt (depth + e.change) es n := by
  constructor
  · intro h
    refine ⟨h.notBefore 0 n.succ_pos, h.ended, fun m hm => ?_⟩
    exact h.notBefore (m + 1) (Nat.succ_lt_succ hm)
  · rintro ⟨hdepth, h⟩
    refine ⟨h.ended, fun m hm => ?_⟩
    cases m with
    | zero => exact hdepth
    | succ m => exact h.notBefore m (Nat.lt_of_succ_lt_succ hm)

theorem eq_zero (h : EndsAt 0 es n) : n = 0 :=
  Nat.eq_zero_of_not_pos fun hn => h.notBefore 0 hn rfl

/-- The last of the events up to the end is an end tag. -/
theorem exists_close {depth : Nat} (h : EndsAt (depth + 1) es n) :
    ∃ inner name, es.take n = inner ++ [.close name] := by
  induction es generalizing depth n with
  | nil =>
    have hended : (depth : Int) + 1 = 0 := by simpa [depthAfter] using h.ended
    omega
  | cons e es ih =>
    cases n with
    | zero =>
      have := zero_iff.1 h
      omega
    | succ n =>
      have hrest := (cons_iff.1 h).2
      have later {depth : Nat} (hes : EndsAt (depth + 1) es n) :
          ∃ inner name, (e :: es).take (n + 1) = inner ++ [.close name] := by
        obtain ⟨inner, name, htake⟩ := ih hes
        exact ⟨e :: inner, name, congrArg (e :: ·) htake⟩
      cases e with
      | start tag => exact later hrest
      | close name =>
        rw [Event.change, Int.add_neg_cancel_right] at hrest
        cases depth with
        | zero =>
          obtain rfl := hrest.eq_zero
          exact ⟨[], name, rfl⟩
        | succ depth => exact later hrest
      | empty | filler | fault =>
        rw [Event.change, Int.add_zero] at hrest
        exact later hrest

end EndsAt

/-- With `depth` elements open before the events, a reader leaves those behind the end of all these
elements, and none if some of them do not end. -/
structure Leaves (depth : Int) (es rest : List Event) : Prop where
  closed : ∀ n, EndsAt depth es n → rest = es.drop n
  unclosed : (∀ n, ¬ EndsAt depth es n) → rest = []

namespace Leaves

/-- With no elements open, all is left. -/
theorem zero (es : List Event) : Leaves 0 es es := by
  constructor
  · intro n hn
    obtain rfl := hn.eq_zero
    rfl
  · intro h
    exact absurd (EndsAt.zero_iff.2 rfl) (h 0)

theorem nil {depth : Int} : Leaves depth [] [] :=
  ⟨fun _ _ => List.drop_nil.symm, fun _ => rfl⟩

/-- One event is read. -/
theorem cons {depth depth' : Int} {e : Event} {es rest : List Event} (hdepth : depth ≠ 0)
    (hchange : depth + e.change = depth') (h : Leaves depth' es rest) :
    Leaves depth (e :: es) rest := by
  subst hchange
  constructor
  · intro n hn
    cases n with
    | zero => exact absurd (EndsAt.zero_iff.1 hn) hdepth
    | succ n => exact h.closed n (EndsAt.cons_iff.1 hn).2
  · intro hnot
    exact h.unclosed fun n hn => hnot (n + 1) (EndsAt.cons_iff.2 ⟨hdepth, hn⟩)

end Leaves

/-- What is behind the end of an element is found by counting, `depth` elements inside of it being
open. -/
theorem leaves_behind (depth : Nat) (es : List Event) :
    Leaves (depth + 1) es (behind depth es) := by
  induction es generalizing depth with
  | nil => cases depth <;> exact .nil
  | cons e es ih =>
    have hdepth : (depth : Int) + 1 ≠ 0 := by omega
    cases e with
    | start tag => exact (ih (depth + 1)).cons hdepth rfl
    | close name =>
      cases depth with
      | zero =>
        -- It is the end of the element itself, so nothing is open behind it.
        exact (Leaves.zero es).cons hdepth rfl
      | succ depth => exact (ih depth).cons hdepth (Int.add_neg_cancel_right _ _)
    | empty | filler | fault =>
      cases depth <;> exact (ih _).cons hdepth (Int.add_zero _)

theorem Ends.leaves {es rest : List Event} {children : List Node} (h : Ends es children rest) :
    Leaves 1 es rest :=
  h.rest_eq ▸ leaves_behind 0 es

end Markup

namespace Document

open Markup (EndsAt Event Leaves Tag depthAfter)

/-- What passes over an element leaves the events behind its end, whatever is inside of it. So does
what reads a type from an element, and where the element ends with its first tag, it leaves all. -/
theorem leaves_of_read (es rest : List Event) :
    (skip 0 es = .ok rest → Leaves 1 es rest) ∧
    ∀ (owner : Option String) (tag : Tag) (d : Descriptor),
      (type owner tag false es = .ok (d, rest) → Leaves 1 es rest) ∧
      (type owner tag true es = .ok (d, rest) → rest = es) := by
  refine ⟨fun h => (skip_levels h).2 ▸ Markup.leaves_behind 0 es, fun owner tag d => ⟨?_, ?_⟩⟩
  · intro h
    obtain ⟨children, hinside, -⟩ := type_declaredBy h
    cases hinside with
    | start hends => exact hends.leaves
  · intro h
    obtain ⟨children, hinside, -⟩ := type_declaredBy h
    cases hinside with
    | empty => rfl

/-- The tag of a sum. -/
def shapeTag : Tag := ⟨"sum", [⟨"name", "Shape"⟩]⟩

/-- What is inside of a sum with two variants, its end tag, and one more end tag. -/
def shapeEvents : List Event :=
  [.filler .text, .start ⟨"product", [⟨"name", "Circle"⟩]⟩,
    .empty ⟨"member", [⟨"name", "radius"⟩, ⟨"type", "f64"⟩]⟩, .filler .comment, .close "product",
    .empty ⟨"singleton", [⟨"name", "Point"⟩]⟩, .close "sum", .close "types"]

/-- A sum is passed over, and read with its end tag, without it, and as an empty element. -/
theorem leaves_of_read_shape :
    EndsAt 1 shapeEvents 7 ∧ (∀ n, ¬ EndsAt 1 (shapeEvents.take 6) n) ∧
    (∃ rest, skip 0 shapeEvents = .ok rest ∧ rest = shapeEvents.drop 7) ∧
    (∃ d rest, type none shapeTag false shapeEvents = .ok (d, rest) ∧
      rest = shapeEvents.drop 7) ∧
    (∃ d rest, type none shapeTag false (shapeEvents.take 6) = .ok (d, rest) ∧ rest = []) ∧
    ∃ d rest, type none shapeTag true shapeEvents = .ok (d, rest) ∧ rest = shapeEvents := by
  have hends : EndsAt 1 shapeEvents 7 := ⟨by decide, by decide⟩
  have hopen (n : Nat) : ¬ EndsAt 1 (shapeEvents.take 6) n := by
    intro h
    rcases Nat.lt_or_ge n 6 with hn | hn
    · exact (by decide : ∀ n < 6, depthAfter 1 ((shapeEvents.take 6).take n) ≠ 0) n hn h.ended
    · have hended := h.ended
      rw [List.take_of_length_le hn] at hended
      cases hended
  refine ⟨hends, hopen, ⟨_, rfl, ?_⟩, ⟨_, _, rfl, ?_⟩, ⟨_, _, rfl, ?_⟩, _, _, rfl, ?_⟩
  · exact ((leaves_of_read shapeEvents _).1 rfl).closed 7 hends
  · exact (((leaves_of_read shapeEvents _).2 none shapeTag _).1 rfl).closed 7 hends
  · exact (((leaves_of_read (shapeEvents.take 6) _).2 none shapeTag _).1 rfl).unclosed hopen
  · exact ((leaves_of_read shapeEvents _).2 none shapeTag _).2 rfl

end Document

end EditableFields
