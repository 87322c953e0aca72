import EditableFields.Field.Basic

/-!
# Operations of single kinds of fields

Choices, sums and optional values have operations of their own, and a field that is made of others
lets them be edited. An edit calls the observers of the outer field once, after those of the fields
that it changed.
-/

namespace EditableFields

namespace Field

/-- The options of a choice. -/
def options : Field → List Value
  | leaf _ _ options _ => options
  | _ => []

/-- Takes the option at an index. -/
def select (f : Field) (i : Nat) : Except FieldError (Field × List FieldCall) :=
  match f with
  | leaf h kind options _ =>
    if options.isEmpty then .error (.noOptions h.label)
    else match options[i]? with
      | some v => .ok ((leaf h kind options v).announce [])
      | none => .error (.optionOutOfRange h.label i options.length)
  | f => .error (.noOptions f.label)

/-- The index of the current value among the options. -/
def selectedIndex? (f : Field) : Option Nat :=
  f.options.findIdx? (·.equal f.value)

/-- The slots of a sum. -/
def slots : Field → List (Slot Field)
  | polymorphic _ _ _ slots => slots
  | _ => []

/-- The live slot of a sum. -/
def liveSlot? : Field → Option (Slot Field)
  | polymorphic _ _ selected slots => slots[selected]?
  | _ => none

/-- The tags of the variants of a sum. -/
def tags (f : Field) : List String :=
  f.slots.map (·.tag)

/-- The tag of the live variant of a sum. -/
def selectedTag? (f : Field) : Option String :=
  f.liveSlot?.map (·.tag)

/-- The field of the live variant of a sum. -/
def active? (f : Field) : Option Field :=
  f.liveSlot?.map (·.field)

/-- Resets the field in a slot. -/
def resetSlot : Nat → List (Slot Field) → List (Slot Field) × List FieldCall
  | _, [] => ([], [])
  | 0, ⟨tag, accepts, field⟩ :: slots =>
    let (field, calls) := field.reset
    (⟨tag, accepts, field⟩ :: slots, calls)
  | n + 1, slot :: slots =>
    let (slots, calls) := resetSlot n slots
    (slot :: slots, calls)

/-- Makes the first variant with a tag the live one, starting from what its field was made with.
Nothing happens if it is live already. -/
def selectVariant (f : Field) (tag : String) : Except FieldError (Field × List FieldCall) :=
  match f with
  | polymorphic h first selected slots =>
    match slots.findIdx? (·.tag == tag) with
    | none => .error (.unknownVariant h.label tag)
    | some i =>
      if i = selected then .ok (polymorphic h first selected slots, [])
      else
        let (slots, calls) := resetSlot i slots
        .ok ((polymorphic h first i slots).announce calls)
  | f => .error (.unknownVariant f.label tag)

/-- Whether the value of an optional field is there. -/
def isPresent : Field → Bool
  | nullable _ present _ => present
  | _ => false

/-- Shows or hides the value of an optional field. Nothing happens if it is so already. -/
def setPresent (f : Field) (present : Bool) : Field × List FieldCall :=
  match f with
  | nullable h now inner =>
    if now = present then (nullable h now inner, [])
    else (nullable h present inner).announce []
  | f => (f, [])

/-- The children of a product. -/
def children : Field → List Field
  | combined _ _ _ children => children
  | _ => []

/-- The parts that a product splits a value into, one for each child. -/
def splitValue (f : Field) (v : Value) : List Value :=
  match f with
  | combined _ _ split children => (List.range children.length).map (split v)
  | _ => []

/-- The field inside an optional or adapted one. -/
def inner? : Field → Option Field
  | nullable _ _ inner => some inner
  | transform _ _ _ inner => some inner
  | _ => none

/-- What an edit gives: a result, the edited state, and the calls it made. -/
structure Edited (σ α : Type) where
  result : α
  state : σ
  calls : List FieldCall

/-- Edits the children of a product. -/
def editChildren (edit : List Field → Edited (List Field) α) : Field → Option (Edited Field α)
  | combined h combine split children =>
    let e := edit children
    let (f, calls) := (combined h combine split e.state).announce e.calls
    some ⟨e.result, f, calls⟩
  | _ => none

/-- Edits the field of the live variant of a sum. -/
def editActive (edit : Field → Edited Field α) : Field → Option (Edited Field α)
  | polymorphic h first selected slots =>
    match slots[selected]? with
    | none => none
    | some slot =>
      let e := edit slot.field
      let slots := slots.set selected { slot with field := e.state }
      let (f, calls) := (polymorphic h first selected slots).announce e.calls
      some ⟨e.result, f, calls⟩
  | _ => none

/-- Edits the field inside an optional or adapted one. -/
def editInner (edit : Field → Edited Field α) : Field → Option (Edited Field α)
  | nullable h present inner =>
    let e := edit inner
    let (f, calls) := (nullable h present e.state).announce e.calls
    some ⟨e.result, f, calls⟩
  | transform h down up inner =>
    let e := edit inner
    let (f, calls) := (transform h down up e.state).announce e.calls
    some ⟨e.result, f, calls⟩
  | _ => none

end Field

end EditableFields
