import EditableFields.Markup.Attribute
import EditableFields.Markup.Fault

/-!
# Events of markup

A document is read as a stream of events: tags, the filler between them, and at the end of a
stream that cannot be read on, the fault. The end of the stream is the end of the document.
-/

namespace EditableFields.Markup

/-- A tag that opens an element. -/
structure Tag where
  name : String
  attributes : List Attribute
deriving DecidableEq, Repr

/-- What stands between tags and says nothing about elements. -/
inductive Filler where
  | text
  | comment
  | cdata
  | instruction
  | doctype
  | reference
deriving DecidableEq, Repr

/-- One step of reading a document. -/
inductive Event where
  /-- The start of an element. -/
  | start (tag : Tag)
  /-- An element that ends where it starts. -/
  | empty (tag : Tag)
  /-- The end of the innermost open element. -/
  | close (name : String)
  | filler (sort : Filler)
  | fault (f : Fault)
deriving DecidableEq, Repr

/-- The tag that is written as `content` between its angle brackets, the slash of an empty
element taken off. -/
def Tag.ofContent (content : List Char) : Tag :=
  ⟨String.ofList (content.takeWhile (!isBlank ·)),
    attributesOf (content.dropWhile (!isBlank ·))⟩

end EditableFields.Markup
