import EditableFields.Field.Operations

/-!
# Operations on fields

What is done to a field, as data: a user of a field sets it, resets it, selects in it, edits the
fields it is made of, and so on, one operation after another. An edit of parts is itself made of
operations, to any depth.
-/

namespace EditableFields

/-- What is done to a field. -/
inductive Operation where
  | set (v : Value)
  | reset
  | subscribe (observer : String)
  | unsubscribe (id : Nat)
  | select (index : Nat)
  | selectVariant (tag : String)
  | setPresent (present : Bool)
  /-- One edit of the children, each operation on the child at a position. -/
  | editChildren (edits : List (Nat × Operation))
  /-- One edit of the field of the live variant. -/
  | editActive (edits : List Operation)
  /-- One edit of the field inside. -/
  | editInner (edits : List Operation)

namespace Field

/-- What an operation that may be refused makes of a field. -/
def unlessRefused (f : Field) :
    Except FieldError (Field × List FieldCall) → Field × List FieldCall
  | .ok r => r
  | .error _ => (f, [])

/-- What an edit makes of a field, if there is anything to edit. -/
def unlessMissing (f : Field) : Option (Edited Field Unit) → Field × List FieldCall
  | some e => (e.state, e.calls)
  | none => (f, [])

end Field

namespace Operation

mutual

/-- What an operation makes of a field, and the calls it makes. An operation that is refused, or
that is none of fields of that kind, does nothing. -/
def run : Operation → Field → Field × List FieldCall
  | set v, f => f.set v
  | reset, f => f.reset
  | subscribe observer, f => ((f.subscribe observer).1, [])
  | unsubscribe id, f => ((f.unsubscribe id).1, [])
  | select i, f => f.unlessRefused (f.select i)
  | selectVariant tag, f => f.unlessRefused (f.selectVariant tag)
  | setPresent present, f => f.setPresent present
  | editChildren edits, f => f.unlessMissing (f.editChildren fun fs =>
      let (fs, calls) := runEach edits fs
      ⟨(), fs, calls⟩)
  | editActive edits, f => f.unlessMissing (f.editActive fun g =>
      let (g, calls) := runAll edits g
      ⟨(), g, calls⟩)
  | editInner edits, f => f.unlessMissing (f.editInner fun g =>
      let (g, calls) := runAll edits g
      ⟨(), g, calls⟩)

/-- What operations make of a field, one after another. -/
def runAll : List Operation → Field → Field × List FieldCall
  | [], f => (f, [])
  | op :: ops, f =>
    let (f, calls) := op.run f
    let (f, more) := runAll ops f
    (f, calls ++ more)

/-- What operations make of fields, each done to the field at a position. -/
def runEach : List (Nat × Operation) → List Field → List Field × List FieldCall
  | [], fs => (fs, [])
  | (i, op) :: edits, fs =>
    match fs[i]? with
    | none => runEach edits fs
    | some f =>
      let (f, calls) := op.run f
      let (fs, more) := runEach edits (fs.set i f)
      (fs, calls ++ more)

end

end Operation

/-- The field after operations. -/
def Field.after (f : Field) (ops : List Operation) : Field :=
  (Operation.runAll ops f).1

theorem Field.after_append (f : Field) (ops more : List Operation) :
    f.after (ops ++ more) = (f.after ops).after more := by
  induction ops generalizing f with
  | nil => rfl
  | cons first ops ih => exact ih (first.run f).1

theorem Field.after_concat (f : Field) (ops : List Operation) (op : Operation) :
    f.after (ops ++ [op]) = (op.run (f.after ops)).1 :=
  f.after_append ops [op]

end EditableFields
