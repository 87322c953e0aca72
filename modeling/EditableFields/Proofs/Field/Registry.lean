import EditableFields.Field.Observers
import Mathlib.Data.List.Nodup

/-!
# Observers: who is called

Observers are subscribed, unsubscribed and notified in any order. Their history tells who observes:
all that were subscribed, in that order, less those that were removed again (`standing`). `Recorded`
says that the observers are as their history tells. Each act keeps it (`Recorded.run`), so it is so
after all acts (`recorded_runAll`), and what the acts answer follows from it (`delivers_runAll`).
-/

namespace EditableFields

namespace Observers

/-- What is done with observers. -/
inductive Act (ω ν : Type) where
  | subscribe (observer : ω)
  | unsubscribe (id : Nat)
  | notify (value : ν)

/-- What has changed who observes. -/
inductive Event (ω : Type) where
  | subscribed (id : Nat) (observer : ω)
  /-- An observer was found by its id and removed. -/
  | removed (id : Nat)

variable {ω ν : Type}

/-- An act, with what is to be told of it later. -/
def Act.run (o : Observers ω) : Act ω ν → Observers ω × List (Event ω)
  | subscribe observer =>
    let (o, id) := o.subscribe observer
    (o, [.subscribed id observer])
  | unsubscribe id =>
    let (o, found) := o.unsubscribe id
    (o, if found then [.removed id] else [])
  | notify _ => (o, [])

/-- One act after another, with the history of them all. -/
def runAll (o : Observers ω) : List (Act ω ν) → Observers ω × List (Event ω)
  | [] => (o, [])
  | act :: acts =>
    let (o, events) := act.run o
    let (o, more) := o.runAll acts
    (o, events ++ more)

/-! ## Histories -/

def Event.subscription? : Event ω → Option (Nat × ω)
  | subscribed id observer => some (id, observer)
  | removed _ => none

def Event.removal? : Event ω → Option Nat
  | subscribed _ _ => none
  | removed id => some id

/-- All subscriptions of a history, with their ids and in their order. -/
def subscriptions (events : List (Event ω)) : List (Nat × ω) :=
  events.filterMap Event.subscription?

/-- The ids of all that were removed. -/
def removals (events : List (Event ω)) : List Nat :=
  events.filterMap Event.removal?

/-- The subscriptions that were not removed, in their order. -/
def standing (events : List (Event ω)) : List (Nat × ω) :=
  (subscriptions events).filter fun s => s.1 ∉ removals events

section

variable (events : List (Event ω)) (id : Nat) (observer : ω)

@[simp] theorem subscriptions_subscribed :
    subscriptions (events ++ [.subscribed id observer]) =
      subscriptions events ++ [(id, observer)] := by
  simp [subscriptions, Event.subscription?]

@[simp] theorem subscriptions_removed :
    subscriptions (events ++ [.removed id]) = subscriptions events := by
  simp [subscriptions, Event.subscription?]

@[simp] theorem removals_subscribed :
    removals (events ++ [.subscribed id observer]) = removals events := by
  simp [removals, Event.removal?]

@[simp] theorem removals_removed :
    removals (events ++ [.removed id]) = removals events ++ [id] := by
  simp [removals, Event.removal?]

theorem standing_removed :
    standing (events ++ [.removed id]) = (standing events).filter (·.1 != id) := by
  simp only [standing, subscriptions_removed, removals_removed, List.filter_filter]
  refine List.filter_congr fun s _ => ?_
  by_cases h : s.1 = id <;> simp [h]

end

/-! ## Observers are as their history tells -/

/-- The observers are those of the history, and their ids were counted up from zero. -/
structure Recorded (o : Observers ω) (events : List (Event ω)) : Prop where
  entries : o.entries = standing events
  ids : (subscriptions events).map (·.1) = List.range o.nextId
  removed : ∀ id ∈ removals events, id < o.nextId

theorem recorded_empty : (empty : Observers ω).Recorded [] where
  entries := rfl
  ids := rfl
  removed := by simp [removals]

theorem unsubscribe_eq_true_iff (o : Observers ω) (id : Nat) :
    (o.unsubscribe id).2 = true ↔ ∃ e ∈ o.entries, e.1 = id := by
  simp [unsubscribe, List.length_filter_eq_length_iff]

/-- If there is no observer with an id, none is removed. -/
theorem unsubscribe_of_not_found {o : Observers ω} {id : Nat}
    (h : (o.unsubscribe id).2 = false) : (o.unsubscribe id).1 = o := by
  have kept : o.entries.filter (·.1 != id) = o.entries := by
    simpa [unsubscribe, List.length_filter_eq_length_iff] using h
  simp [unsubscribe, kept]

/-- Where no two entries have the same id, all but one entry have another. -/
theorem filter_ne_of_nodup {left right : List (Nat × ω)} {e : Nat × ω}
    (h : ((left ++ e :: right).map (·.1)).Nodup) :
    (left ++ e :: right).filter (·.1 != e.1) = left ++ right := by
  rw [List.map_append, List.map_cons, List.nodup_middle, List.nodup_cons, ← List.map_append] at h
  have hother : ∀ d ∈ left ++ right, (d.1 != e.1) = true := by
    intro d hd
    rw [bne_iff_ne]
    intro heq
    exact h.1 (List.mem_map.2 ⟨d, hd, heq⟩)
  calc (left ++ e :: right).filter (·.1 != e.1) = (left ++ right).filter (·.1 != e.1) := by simp
    _ = left ++ right := List.filter_eq_self.2 hother

namespace Recorded

variable {o : Observers ω} {events : List (Event ω)} (recorded : o.Recorded events)
include recorded

theorem nodup : ((subscriptions events).map (·.1)).Nodup := by
  rw [recorded.ids]
  exact List.nodup_range

theorem lt_nextId {s : Nat × ω} (hs : s ∈ subscriptions events) : s.1 < o.nextId := by
  have hmem : s.1 ∈ (subscriptions events).map (·.1) := List.mem_map_of_mem hs
  rwa [recorded.ids, List.mem_range] at hmem

theorem subscribe (observer : ω) :
    (o.subscribe observer).1.Recorded
      (events ++ [.subscribed (o.subscribe observer).2 observer]) where
  entries := by
    -- The new id is above all that were removed.
    have hnew : o.nextId ∉ removals events := by
      intro h
      exact Nat.lt_irrefl _ (recorded.removed _ h)
    simp [Observers.subscribe, standing, recorded.entries, hnew]
  ids := by simp [Observers.subscribe, recorded.ids, List.range_succ]
  removed := by
    intro id hid
    rw [removals_subscribed] at hid
    exact Nat.lt_succ_of_lt (recorded.removed id hid)

theorem found_iff (id : Nat) : (o.unsubscribe id).2 = true ↔
    id ∈ (subscriptions events).map (·.1) ∧ id ∉ removals events := by
  rw [unsubscribe_eq_true_iff, recorded.entries]
  simp only [standing, List.mem_filter, List.mem_map]
  constructor
  · rintro ⟨e, ⟨he, hstands⟩, rfl⟩
    exact ⟨⟨e, he, rfl⟩, by simpa using hstands⟩
  · rintro ⟨⟨e, he, rfl⟩, hstands⟩
    exact ⟨e, ⟨he, by simpa using hstands⟩, rfl⟩

theorem unsubscribe {id : Nat} (found : (o.unsubscribe id).2 = true) :
    (o.unsubscribe id).1.Recorded (events ++ [.removed id]) where
  entries := by rw [standing_removed, ← recorded.entries]; rfl
  ids := by rw [subscriptions_removed, recorded.ids]; rfl
  removed := by
    intro id' hid'
    rw [removals_removed, List.mem_append, List.mem_singleton] at hid'
    rcases hid' with hid' | rfl
    · exact recorded.removed id' hid'
    · obtain ⟨s, hs, rfl⟩ := List.mem_map.1 ((recorded.found_iff id').1 found).1
      exact recorded.lt_nextId hs

/-- Observers stay as their history tells, whatever is done with them. -/
theorem run (act : Act ω ν) : (act.run o).1.Recorded (events ++ (act.run o).2) := by
  cases act with
  | subscribe observer => exact recorded.subscribe observer
  | unsubscribe id =>
    cases hfound : (o.unsubscribe id).2 with
    | true => simpa [Act.run, hfound] using recorded.unsubscribe hfound
    | false => simpa [Act.run, hfound, unsubscribe_of_not_found hfound] using recorded
  | notify value => simpa [Act.run] using recorded

theorem runAll (acts : List (Act ω ν)) :
    (o.runAll acts).1.Recorded (events ++ (o.runAll acts).2) := by
  induction acts generalizing o events with
  | nil => simpa [Observers.runAll] using recorded
  | cons act acts ih => simpa [Observers.runAll] using ih (recorded.run act)

theorem nodup_entries : (o.entries.map (·.1)).Nodup := by
  rw [recorded.entries]
  exact recorded.nodup.sublist (List.filter_sublist.map _)

/-- An observer that is found is removed alone: all before it and after it stay. -/
theorem exists_removed {id : Nat} (found : (o.unsubscribe id).2 = true) :
    ∃ left observer right, o.entries = left ++ (id, observer) :: right ∧
      (o.unsubscribe id).1.entries = left ++ right := by
  obtain ⟨⟨id, observer⟩, he, rfl⟩ := (unsubscribe_eq_true_iff o id).1 found
  obtain ⟨left, right, hentries⟩ := List.append_of_mem he
  have hnodup := recorded.nodup_entries
  rw [hentries] at hnodup
  refine ⟨left, observer, right, hentries, ?_⟩
  rw [Observers.unsubscribe, hentries]
  exact filter_ne_of_nodup hnodup

end Recorded

/-! ## What acts answer -/

/-- Observers answer for a history: each subscription has an id of its own, an id removes its
observer once and nobody else, and all that were not removed are called, in the order of their
subscriptions. -/
structure Delivers (o : Observers ω) (events : List (Event ω)) : Prop where
  ids_nodup : ((subscriptions events).map (·.1)).Nodup
  /-- The ids stay below the number of subscriptions. -/
  ids_lt : ∀ s ∈ subscriptions events, s.1 < (subscriptions events).length
  found_iff : ∀ id, (o.unsubscribe id).2 = true ↔
    id ∈ (subscriptions events).map (·.1) ∧ id ∉ removals events
  found : ∀ id, (o.unsubscribe id).2 = true →
    ∃ left observer right, o.entries = left ++ (id, observer) :: right ∧
      (o.unsubscribe id).1.entries = left ++ right
  missing : ∀ id, (o.unsubscribe id).2 = false → (o.unsubscribe id).1 = o
  notify_eq : ∀ {ν : Type} (value : ν),
    o.notify value = (standing events).map fun s => ⟨s.2, value⟩

theorem Recorded.delivers {o : Observers ω} {events : List (Event ω)}
    (recorded : o.Recorded events) : o.Delivers events where
  ids_nodup := recorded.nodup
  ids_lt := by
    have hlength : (subscriptions events).length = o.nextId := by
      simpa using congrArg List.length recorded.ids
    intro s hs
    rw [hlength]
    exact recorded.lt_nextId hs
  found_iff := recorded.found_iff
  found _ := recorded.exists_removed
  missing _ := unsubscribe_of_not_found
  notify_eq value := by rw [notify, recorded.entries]

/-- Whatever was done with observers, they answer for the history of it. So each act among others is
answered by what came before it. -/
theorem delivers_runAll (acts : List (Act ω ν)) :
    ((empty : Observers ω).runAll acts).1.Delivers ((empty : Observers ω).runAll acts).2 := by
  have recorded := recorded_empty.runAll acts
  rw [List.nil_append] at recorded
  exact recorded.delivers

/-- Who was removed and is subscribed again is the last to be called. -/
example : ((empty : Observers String).runAll ([.subscribe "form", .subscribe "log", .unsubscribe 0,
    .unsubscribe 0, .subscribe "form"] : List (Act String Bool))).1.notify true =
      [⟨"log", true⟩, ⟨"form", true⟩] := by decide

end Observers

end EditableFields
