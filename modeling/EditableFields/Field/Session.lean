import EditableFields.Field.Recipe
import EditableFields.Shape

/-!
# Sessions

A session runs commands on one field and reports, for each, its result, the field's value after
it, and the calls that observers got. Observers are known by name: a name stands for its latest
subscription, whichever field of the tree that was made on.
-/

namespace EditableFields

/-- What can be done with any field. -/
inductive Step where
  | label
  | value
  | initial
  | modified
  | shape
  | set (v : Value)
  | reset
  | subscribe (observer : String)
  | unsubscribe (observer : String)

/-- What can be done with the field of a session, whose kind is known. -/
inductive Command where
  | step (s : Step)
  | debug
  | select (index : Nat)
  | selectedIndex
  | options
  | arity
  | split (v : Value)
  | children (s : Step)
  /-- One edit of the children, each step on the child at a position. -/
  | edit (steps : List (Nat × Step))
  | selectVariant (tag : String)
  | selectedTag
  | tags
  | active (s : Step)
  | editActive (s : Step)
  | isPresent
  | setPresent (present : Bool)
  | inner (s : Step)
  | editInner (s : Step)

/-- Result of a step or command. -/
inductive Result where
  | done
  | text (s : String)
  | value (v : Value)
  | truth (b : Bool)
  | number (n : Nat)
  | shape (s : FieldShape)
  /-- There is no such index or tag. -/
  | missing
  /-- There is no live field. -/
  | noField
  | failed (e : FieldError)
  | list (rs : List Result)

/-- Names of observers with the ids of their latest subscriptions, the latest first. -/
abbrev Subscriptions := List (String × Nat)

/-- What was done to a field of a session, and what it gave. -/
structure Outcome where
  result : Result
  field : Field
  subscriptions : Subscriptions
  calls : List FieldCall

namespace Step

/-- Runs a step on a field. -/
def run (s : Step) (f : Field) (subs : Subscriptions) : Outcome :=
  match s with
  | label => ⟨.text f.label, f, subs, []⟩
  | value => ⟨.value f.value, f, subs, []⟩
  | initial => ⟨.value f.initial, f, subs, []⟩
  | modified => ⟨.truth f.isModified, f, subs, []⟩
  | shape => ⟨.shape f.shape, f, subs, []⟩
  | set v =>
    let (f, calls) := f.set v
    ⟨.done, f, subs, calls⟩
  | reset =>
    let (f, calls) := f.reset
    ⟨.done, f, subs, calls⟩
  | subscribe observer =>
    let (f, id) := f.subscribe observer
    ⟨.number id, f, (observer, id) :: subs, []⟩
  | unsubscribe observer =>
    match subs.lookup observer with
    | some id =>
      let (f, found) := f.unsubscribe id
      ⟨.truth found, f, subs, []⟩
    | none => ⟨.truth false, f, subs, []⟩

/-- Runs a step that only looks at a field. -/
def look (s : Step) (subs : Subscriptions) (f : Field) : Result :=
  (s.run f subs).result

/-- Runs a step as an edit. -/
def asEdit (s : Step) (subs : Subscriptions) (f : Field) :
    Field.Edited Field (Result × Subscriptions) :=
  let o := s.run f subs
  ⟨(o.result, o.subscriptions), o.field, o.calls⟩

/-- Runs steps on children, each on the child at its position. -/
def runAll (subs : Subscriptions) :
    List (Nat × Step) → List Field → Field.Edited (List Field) (List Result × Subscriptions)
  | [], fs => ⟨([], subs), fs, []⟩
  | (i, s) :: rest, fs =>
    match fs[i]? with
    | none =>
      let e := runAll subs rest fs
      ⟨(.noField :: e.result.1, e.result.2), e.state, e.calls⟩
    | some f =>
      let o := s.run f subs
      let e := runAll o.subscriptions rest (fs.set i o.field)
      ⟨(o.result :: e.result.1, e.result.2), e.state, o.calls ++ e.calls⟩

end Step

/-- The outcome of an edit, or of finding nothing to edit. -/
def Outcome.ofEdited (f : Field) (subs : Subscriptions) :
    Option (Field.Edited Field (Result × Subscriptions)) → Outcome
  | some e => ⟨e.result.1, e.state, e.result.2, e.calls⟩
  | none => ⟨.noField, f, subs, []⟩

/-- The outcome of an operation that may be refused. -/
def Outcome.ofExcept (f : Field) (subs : Subscriptions) :
    Except FieldError (Field × List FieldCall) → Outcome
  | .ok (f, calls) => ⟨.done, f, subs, calls⟩
  | .error e => ⟨.failed e, f, subs, []⟩

namespace Command

/-- Runs a command on the field of a session. -/
def run (c : Command) (f : Field) (subs : Subscriptions) : Outcome :=
  let answer := fun r => (⟨r, f, subs, []⟩ : Outcome)
  match c with
  | step s => s.run f subs
  | debug => answer (.text f.debug)
  | select i => .ofExcept f subs (f.select i)
  | selectedIndex => answer (match f.selectedIndex? with | some i => .number i | none => .missing)
  | options => answer (.list (f.options.map .value))
  | arity => answer (.list [.number f.children.length, .number maxMembers])
  | split v => answer (.list ((f.splitValue v).map .value))
  | children s => answer (.list (f.children.map (s.look subs)))
  | edit steps =>
    match f.editChildren (Step.runAll subs steps) with
    | some e => ⟨.list e.result.1, e.state, e.result.2, e.calls⟩
    | none => answer .noField
  | selectVariant tag => .ofExcept f subs (f.selectVariant tag)
  | selectedTag => answer (match f.selectedTag? with | some t => .text t | none => .missing)
  | tags => answer (.list (f.tags.map .text))
  | active s => answer (match f.active? with | some g => s.look subs g | none => .noField)
  | editActive s => .ofEdited f subs (f.editActive (s.asEdit subs))
  | isPresent => answer (.truth f.isPresent)
  | setPresent present =>
    let (f, calls) := f.setPresent present
    ⟨.done, f, subs, calls⟩
  | inner s => answer (match f.inner? with | some g => s.look subs g | none => .noField)
  | editInner s => .ofEdited f subs (f.editInner (s.asEdit subs))

end Command

/-- What a session reports of one command. -/
structure Report where
  result : Result
  value : Value
  modified : Bool
  calls : List FieldCall

/-- Runs commands one after the other and reports each. -/
def runSession (f : Field) (subs : Subscriptions) : List Command → List Report
  | [] => []
  | c :: cs =>
    let o := c.run f subs
    ⟨o.result, o.field.value, o.field.isModified, o.calls⟩ ::
      runSession o.field o.subscriptions cs

end EditableFields
