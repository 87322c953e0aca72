/-!
# Faults of markup

What can keep a reader of markup from going on.
-/

namespace EditableFields.Markup

/-- Why markup cannot be read further. -/
inductive Fault where
  /-- An exclamation mark after `<` begins none of the known sorts of markup. -/
  | unknownMarkup
  | instructionNotClosed
  | declarationNotClosed
  | commentNotClosed
  | doctypeNotClosed
  | cdataNotClosed
  | tagNotClosed
  | valueNotClosed (quote : Char)
  | mismatchedClose (expected found : String)
  | unmatchedClose (found : String)
  | missingDoctypeName
  | referenceNotClosed
deriving DecidableEq, Repr

namespace Fault

/-- Whether the text breaks the grammar, rather than the nesting of elements and references. -/
def isSyntactic : Fault → Bool
  | unknownMarkup | instructionNotClosed | declarationNotClosed | commentNotClosed
  | doctypeNotClosed | cdataNotClosed | tagNotClosed | valueNotClosed _ => true
  | mismatchedClose .. | unmatchedClose _ | missingDoctypeName | referenceNotClosed => false

/-- The fault itself. -/
def detail : Fault → String
  | unknownMarkup => "unknown or missed symbol in markup"
  | instructionNotClosed =>
    "processing instruction not closed: `?>` not found before end of input"
  | declarationNotClosed => "XML declaration not closed: `?>` not found before end of input"
  | commentNotClosed => "comment not closed: `-->` not found before end of input"
  | doctypeNotClosed => "DOCTYPE not closed: `>` not found before end of input"
  | cdataNotClosed => "CDATA not closed: `]]>` not found before end of input"
  | tagNotClosed => "tag not closed: `>` not found before end of input"
  | valueNotClosed quote =>
    "attribute value not closed: `" ++ String.singleton quote ++
      "` not found before end of input"
  | mismatchedClose expected found =>
    "expected `</" ++ expected ++ ">`, but `</" ++ found ++ ">` was found"
  | unmatchedClose found => "close tag `</" ++ found ++ ">` does not match any open tag"
  | missingDoctypeName =>
    "`<!DOCTYPE>` declaration does not contain a name of a document type"
  | referenceNotClosed =>
    "entity or character reference not closed: `;` not found before end of input"

/-- The fault with the sort of error it is. -/
def message (f : Fault) : String :=
  (if f.isSyntactic then "syntax error: " else "ill-formed document: ") ++ f.detail

end Fault

end EditableFields.Markup
