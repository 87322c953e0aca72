import EditableFields.Markup.Reader
import EditableFields.Schema.Element

/-!
# Schema documents

A schema is read from the events of a document in one pass. Each reader takes the events after the
tag of its element and leaves those after the element's end. An element that is still open at the
end of the document ends there. Faults and errors surface in reading order: the first one met is
reported.

Every loop takes a bound on its rounds, which is the number of events left, so it never stops
before the events do.
-/

namespace EditableFields

namespace Document

open Markup (Event Tag)

/-- Leaves the events after the end of an element, `depth` elements inside of it being open. -/
def skip : Nat → List Event → Except DocumentError (List Event)
  | _, [] => .ok []
  | depth, .start _ :: es => skip (depth + 1) es
  | 0, .close _ :: es => .ok es
  | depth + 1, .close _ :: es => skip depth es
  | _, .fault f :: _ => .error (.markup f)
  | depth, .empty _ :: es => skip depth es
  | depth, .filler _ :: es => skip depth es

/-- Leaves the events after an element whose tag was taken. -/
def skipAfter (isEmpty : Bool) (es : List Event) : Except DocumentError (List Event) :=
  if isEmpty then .ok es else skip 0 es

/-- Reads the children of an element, each from its tag and index alone, in at most `rounds`
rounds. -/
def partsWithin (part : Nat → Tag → Except DocumentError α) :
    Nat → Nat → List Event → Except DocumentError (List α × List Event)
  | 0, _, es => .ok ([], es)
  | _ + 1, _, [] => .ok ([], [])
  | rounds + 1, index, e :: es =>
    match e with
    | .start tag => do
      let p ← part index tag
      let es ← skip 0 es
      let (ps, es) ← partsWithin part rounds (index + 1) es
      return (p :: ps, es)
    | .empty tag => do
      let p ← part index tag
      let (ps, es) ← partsWithin part rounds (index + 1) es
      return (p :: ps, es)
    | .close _ => .ok ([], es)
    | .fault f => .error (.markup f)
    | .filler _ => partsWithin part rounds index es

/-- Reads the children of an element; one that ends where it starts has none. -/
def parts (part : Nat → Tag → Except DocumentError α) (isEmpty : Bool) (es : List Event) :
    Except DocumentError (List α × List Event) :=
  if isEmpty then .ok ([], es) else partsWithin part es.length 0 es

/-- Reads one type, with a reader for the variants of a sum. -/
def typeWith
    (variants : String → List Event → Except DocumentError (List Descriptor × List Event))
    (owner : Option String) (tag : Tag) (isEmpty : Bool) (es : List Event) :
    Except DocumentError (Descriptor × List Event) :=
  match tag.name with
  | "enum" => do
    let name ← Element.enumeration owner tag
    let (entries, es) ← parts (fun _ => Element.entry name) isEmpty es
    return (.enumeration name entries, es)
  | "product" => do
    let (name, content) ← Element.product owner tag
    let (members, es) ← parts (Element.member name content.style) isEmpty es
    return (.product name { content with members }, es)
  | "sum" => do
    let (name, companion) ← Element.sum owner tag
    let (vs, es) ← if isEmpty then .ok ([], es) else variants name es
    return (.sum name vs companion, es)
  | "singleton" | "opaque" | "external" => do
    let d ← Element.simple owner tag
    let es ← skipAfter isEmpty es
    return (d, es)
  | other => .error (.unknownElement other (owner.getD "types"))

/-- Reads the variants of a sum whose earlier variants have the names in `seen`, in at most
`rounds` rounds. -/
def variantsWithin : Nat → List String → String → List Event →
    Except DocumentError (List Descriptor × List Event)
  | 0, _, _, es => .ok ([], es)
  | _ + 1, _, _, [] => .ok ([], [])
  | rounds + 1, seen, owner, e :: es =>
    let add := fun (tag : Tag) (isEmpty : Bool) => do
      let (v, es) ← typeWith (variantsWithin rounds []) (some owner) tag isEmpty es
      if seen.contains v.name then .error (.duplicateVariant v.name)
      else
        let (vs, es) ← variantsWithin rounds (v.name :: seen) owner es
        return (v :: vs, es)
    match e with
    | .start tag => add tag false
    | .empty tag => add tag true
    | .close _ => .ok ([], es)
    | .fault f => .error (.markup f)
    | .filler _ => variantsWithin rounds seen owner es

/-- Reads the variants of a sum. -/
def variants (owner : String) (es : List Event) :
    Except DocumentError (List Descriptor × List Event) :=
  variantsWithin es.length [] owner es

/-- Reads one type: a declared one, or a variant of its owner. -/
def type (owner : Option String) (tag : Tag) (isEmpty : Bool) (es : List Event) :
    Except DocumentError (Descriptor × List Event) :=
  typeWith variants owner tag isEmpty es

/-- Declares a type under a name that no type has yet. -/
def declare (s : Schema) (d : Descriptor) : Except DocumentError Schema :=
  if s.catalog.has d.name then .error (.duplicateType d.name) else .ok (s.addType d)

/-- Reads the types of a section into a schema, in at most `rounds` rounds. -/
def typesWithin : Nat → Schema → List Event → Except DocumentError (Schema × List Event)
  | 0, s, es => .ok (s, es)
  | _ + 1, s, [] => .ok (s, [])
  | rounds + 1, s, e :: es =>
    let add := fun (tag : Tag) (isEmpty : Bool) => do
      let (d, es) ← type none tag isEmpty es
      let s ← declare s d
      typesWithin rounds s es
    match e with
    | .start tag => add tag false
    | .empty tag => add tag true
    | .close _ => .ok (s, es)
    | .fault f => .error (.markup f)
    | .filler _ => typesWithin rounds s es

/-- Reads the types of a section into a schema. -/
def types (s : Schema) (es : List Event) : Except DocumentError (Schema × List Event) :=
  typesWithin es.length s es

/-- The schema that a root has started. -/
def started (element : String) : Option Schema → Except DocumentError Schema
  | some s => .ok s
  | none => .error (.outsideRoot element)

/-- The request that an element of a name makes. -/
def directive? (element : String) : Option Directive :=
  if element = "generate" then some .factory
  else if element = "generateField" then some .field
  else none

/-- Takes one tag outside all sections. A root starts the schema, once more if there was one. -/
def takeTag (schema : Option Schema) (tag : Tag) (isEmpty : Bool) (es : List Event) :
    Except DocumentError (Option Schema × List Event) :=
  if tag.name = "fieldSchema" then do
    return (some (← Element.root tag), es)
  else if tag.name = "types" && !isEmpty then do
    let s ← started tag.name schema
    let (s, es) ← types s es
    return (some s, es)
  else
    match directive? tag.name with
    | some d => do
      let s ← started tag.name schema
      let r ← Element.request d tag
      let es ← skipAfter isEmpty es
      return (some (s.addRequest r), es)
    | none => .ok (schema, es)

/-- Reads the events outside all sections, in at most `rounds` rounds. -/
def sectionsWithin : Nat → Option Schema → List Event → Except DocumentError (Option Schema)
  | 0, schema, _ => .ok schema
  | _ + 1, schema, [] => .ok schema
  | rounds + 1, schema, e :: es =>
    match e with
    | .start tag => do
      let (schema, es) ← takeTag schema tag false es
      sectionsWithin rounds schema es
    | .empty tag => do
      let (schema, es) ← takeTag schema tag true es
      sectionsWithin rounds schema es
    | .fault f => .error (.markup f)
    | .close _ | .filler _ => sectionsWithin rounds schema es

end Document

/-- The schema that the events of a document describe. -/
def Schema.ofEvents (es : List Markup.Event) : Except DocumentError Schema := do
  match ← Document.sectionsWithin es.length none es with
  | some s => return s
  | none => .error .noRoot

/-- The schema that a document describes. -/
def Schema.parse (document : String) : Except DocumentError Schema :=
  Schema.ofEvents (Markup.events document)

end EditableFields
