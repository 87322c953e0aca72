/-!
# Observers

Observers are called in order of subscription with every new value. Each subscription has an id of
its own, and no id is given twice.
-/

namespace EditableFields

/-- Subscribed observers with their ids, in order of subscription. -/
structure Observers (ω : Type) where
  /-- The id of the next subscription. -/
  nextId : Nat
  entries : List (Nat × ω)
deriving DecidableEq, Repr

/-- One call of an observer. -/
structure Call (ω ν : Type) where
  observer : ω
  value : ν
deriving DecidableEq, Repr

namespace Observers

variable {ω ν : Type}

/-- Nobody observes. -/
def empty : Observers ω := ⟨0, []⟩

/-- Adds an observer, with the id of its subscription. -/
def subscribe (o : Observers ω) (observer : ω) : Observers ω × Nat :=
  (⟨o.nextId + 1, o.entries ++ [(o.nextId, observer)]⟩, o.nextId)

/-- Removes the observer with an id, and says whether there was one. -/
def unsubscribe (o : Observers ω) (id : Nat) : Observers ω × Bool :=
  let entries := o.entries.filter (·.1 != id)
  (⟨o.nextId, entries⟩, entries.length != o.entries.length)

/-- The calls that a new value makes. -/
def notify (o : Observers ω) (value : ν) : List (Call ω ν) :=
  o.entries.map fun e => ⟨e.2, value⟩

/-- Number of observers. -/
def size (o : Observers ω) : Nat :=
  o.entries.length

/-- The text of observers in diagnostics. -/
def debug (o : Observers ω) : String :=
  "Observers \x7b count: " ++ toString o.size ++ " \x7d"

end Observers

end EditableFields
