import EditableFields.Field.Observers
import EditableFields.Field.Value

/-!
# Fields

A field is an observable cell that edits one value. Fields compose: a product is edited by one
field for each member, a sum by one for each variant, of which one is live, and so on. Setting or
resetting a field sets or resets the fields it is made of and then calls its own observers, so the
calls come from the inside out.
-/

namespace EditableFields

/-- What every field has. -/
structure Header where
  label : String
  /-- The value that the field was made with. -/
  initial : Value
  observers : Observers String

/-- One variant of a field that edits a sum. -/
structure Slot (φ : Type) where
  tag : String
  /-- Whether a value belongs to the variant. -/
  accepts : Value → Bool
  field : φ

/-- An editable value. -/
inductive Field where
  /-- A primitive; with options, one of a choice of values. -/
  | leaf (header : Header) (kind : Primitive) (options : List Value) (value : Value)
  /-- A constant. -/
  | fixed (header : Header) (value : Value)
  /-- A product: `combine` builds it from the values of its children, and `split` gives the part
  of it for the child at a position. -/
  | combined (header : Header) (combine : List Value → Value) (split : Value → Nat → Value)
      (children : List Field)
  /-- A sum with one slot for each variant, of which the one at `selected` is live. -/
  | polymorphic (header : Header) (firstSelected selected : Nat) (slots : List (Slot Field))
  /-- An optional value. The inner field stays as it is while no value is present. -/
  | nullable (header : Header) (present : Bool) (inner : Field)
  /-- A value that is edited by a field of another type: `down` maps to the inner value, and `up`
  maps back. -/
  | transform (header : Header) (down up : Value → Value) (inner : Field)

/-- A call of an observer of a field. -/
abbrev FieldCall := Call String Value

/-- Why a field refuses an operation. -/
inductive FieldError where
  | unknownVariant (label tag : String)
  | optionOutOfRange (label : String) (index length : Nat)
  | noOptions (label : String)
deriving DecidableEq, Repr

def FieldError.message : FieldError → String
  | unknownVariant label tag => "unknown variant '" ++ tag ++ "' for field '" ++ label ++ "'"
  | optionOutOfRange label index length =>
    "option index " ++ toString index ++ " out of range for field '" ++ label ++ "' with " ++
      toString length ++ " options"
  | noOptions label => "field '" ++ label ++ "' has no options"

namespace Field

/-- What the field has as every field has. -/
def header : Field → Header
  | leaf h _ _ _ | fixed h _ | combined h _ _ _ | polymorphic h _ _ _ | nullable h _ _
  | transform h _ _ _ => h

/-- Replaces what every field has. -/
def withHeader (f : Field) (h : Header) : Field :=
  match f with
  | leaf _ kind options value => leaf h kind options value
  | fixed _ value => fixed h value
  | combined _ combine split children => combined h combine split children
  | polymorphic _ first selected slots => polymorphic h first selected slots
  | nullable _ present inner => nullable h present inner
  | transform _ down up inner => transform h down up inner

/-- Label shown next to the field. -/
def label (f : Field) : String := f.header.label

/-- The value that the field was made with. -/
def initial (f : Field) : Value := f.header.initial

mutual

/-- The current value. -/
def value : Field → Value
  | leaf _ _ _ value => value
  | fixed _ value => value
  | combined _ combine _ children => combine (values children)
  | polymorphic h _ selected slots => (slotValue? slots selected).getD h.initial
  | nullable _ present inner => if present then .present inner.value else .absent
  | transform _ _ up inner => up inner.value

/-- The current values of fields. -/
def values : List Field → List Value
  | [] => []
  | f :: fs => f.value :: values fs

/-- The current value of the field in a slot. -/
def slotValue? : List (Slot Field) → Nat → Option Value
  | [], _ => none
  | ⟨_, _, field⟩ :: _, 0 => some field.value
  | _ :: slots, n + 1 => slotValue? slots n

end

/-- Whether the current value differs from the initial one. -/
def isModified (f : Field) : Bool :=
  !f.value.equal f.initial

/-- Calls the observers of a field after what it is made of has made its calls. -/
def announce (f : Field) (calls : List FieldCall) : Field × List FieldCall :=
  (f, calls ++ f.header.observers.notify f.value)

/-- The position of the first slot that accepts a value. -/
def accepting? (slots : List (Slot Field)) (v : Value) : Option Nat :=
  slots.findIdx? (·.accepts v)

mutual

/-- Replaces the current value. A sum ignores a value that no variant accepts. -/
def set (v : Value) : Field → Field × List FieldCall
  | leaf h kind options _ => (leaf h kind options v).announce []
  | fixed h _ => (fixed h v).announce []
  | combined h combine split children =>
    let (children, calls) := setAll (split v) 0 children
    (combined h combine split children).announce calls
  | polymorphic h first selected slots =>
    match accepting? slots v with
    | none => (polymorphic h first selected slots, [])
    | some i =>
      let (slots, calls) := setSlot v i slots
      (polymorphic h first i slots).announce calls
  | nullable h _ inner =>
    match v with
    | .present content =>
      let (inner, calls) := inner.set content
      (nullable h true inner).announce calls
    | _ => (nullable h false inner).announce []
  | transform h down up inner =>
    let (inner, calls) := inner.set (down v)
    (transform h down up inner).announce calls

/-- Sets fields from a position on to the parts of a value. -/
def setAll (part : Nat → Value) (i : Nat) : List Field → List Field × List FieldCall
  | [] => ([], [])
  | f :: fs =>
    let (f, calls) := f.set (part i)
    let (fs, more) := setAll part (i + 1) fs
    (f :: fs, calls ++ more)

/-- Sets the field in a slot. -/
def setSlot (v : Value) : Nat → List (Slot Field) → List (Slot Field) × List FieldCall
  | _, [] => ([], [])
  | 0, ⟨tag, accepts, field⟩ :: slots =>
    let (field, calls) := field.set v
    (⟨tag, accepts, field⟩ :: slots, calls)
  | n + 1, slot :: slots =>
    let (slots, calls) := setSlot v n slots
    (slot :: slots, calls)

end

mutual

/-- Restores what the field was made with: in all it is made of, live or not. -/
def reset : Field → Field × List FieldCall
  | leaf h kind options _ => (leaf h kind options h.initial).announce []
  | fixed h _ => (fixed h h.initial).announce []
  | combined h combine split children =>
    let (children, calls) := resetAll children
    (combined h combine split children).announce calls
  | polymorphic h first _ slots =>
    let (slots, calls) := resetSlots slots
    (polymorphic h first first slots).announce calls
  | nullable h _ inner =>
    let (inner, calls) := inner.reset
    (nullable h h.initial.isPresent inner).announce calls
  | transform h down up inner =>
    let (inner, calls) := inner.reset
    (transform h down up inner).announce calls

/-- Resets fields in order. -/
def resetAll : List Field → List Field × List FieldCall
  | [] => ([], [])
  | f :: fs =>
    let (f, calls) := f.reset
    let (fs, more) := resetAll fs
    (f :: fs, calls ++ more)

/-- Resets the fields of all slots in order. -/
def resetSlots : List (Slot Field) → List (Slot Field) × List FieldCall
  | [] => ([], [])
  | ⟨tag, accepts, field⟩ :: slots =>
    let (field, calls) := field.reset
    let (slots, more) := resetSlots slots
    (⟨tag, accepts, field⟩ :: slots, calls ++ more)

end

/-- Adds an observer, with the id of its subscription. -/
def subscribe (f : Field) (observer : String) : Field × Nat :=
  let (observers, id) := f.header.observers.subscribe observer
  (f.withHeader { f.header with observers }, id)

/-- Removes the observer with an id, and says whether there was one. -/
def unsubscribe (f : Field) (id : Nat) : Field × Bool :=
  let (observers, found) := f.header.observers.unsubscribe id
  (f.withHeader { f.header with observers }, found)

end Field

end EditableFields
