/-!
# Attributes

The attributes of a tag, scanned from the text after the tag's name. Only what is written as a
key, `=` and a quoted value counts, and a key counts once; all else is passed over. Values are
taken as written: no reference is expanded.
-/

namespace EditableFields.Markup

/-- The blanks of markup. -/
def isBlank (c : Char) : Bool :=
  c = ' ' || c = '\r' || c = '\n' || c = '\t'

/-- A key and the text between its quotes. -/
structure Attribute where
  key : String
  value : String
deriving DecidableEq, Repr

/-- Where a scan of attributes stands. Texts read so far are reversed. -/
inductive AttributeState where
  /-- Before a key. -/
  | between
  | inKey (key : List Char)
  /-- After a key and a blank. -/
  | afterKey (key : List Char)
  /-- After a key and its `=`. -/
  | beforeValue (key : List Char)
  | inValue (key : List Char) (quote : Char) (value : List Char)
  /-- Passing over a value that does not count, up to the next blank. -/
  | skipping
deriving Repr

/-- Takes the `=` after a key, which is remembered unless it was seen before. -/
def acceptKey (seen : List (List Char)) (key : List Char) : List (List Char) × AttributeState :=
  if seen.contains key then (seen, .skipping) else (key :: seen, .beforeValue key)

/-- Scans attributes from a state, with the reversed keys in `seen` taken. -/
def scanAttributes (seen : List (List Char)) : AttributeState → List Char → List Attribute
  | _, [] => []
  | .between, c :: cs =>
    if isBlank c then scanAttributes seen .between cs else scanAttributes seen (.inKey [c]) cs
  | .inKey key, c :: cs =>
    if c = '=' then
      let (seen, state) := acceptKey seen key
      scanAttributes seen state cs
    else if isBlank c then scanAttributes seen (.afterKey key) cs
    else scanAttributes seen (.inKey (c :: key)) cs
  | .afterKey key, c :: cs =>
    if c = '=' then
      let (seen, state) := acceptKey seen key
      scanAttributes seen state cs
    else if isBlank c then scanAttributes seen (.afterKey key) cs
    else scanAttributes seen (.inKey [c]) cs
  | .beforeValue key, c :: cs =>
    if isBlank c then scanAttributes seen (.beforeValue key) cs
    else if c = '"' || c = '\'' then scanAttributes seen (.inValue key c []) cs
    else scanAttributes seen .skipping cs
  | .inValue key quote value, c :: cs =>
    if c = quote then
      ⟨String.ofList key.reverse, String.ofList value.reverse⟩ ::
        scanAttributes seen .between cs
    else scanAttributes seen (.inValue key quote (c :: value)) cs
  | .skipping, c :: cs =>
    if isBlank c then scanAttributes seen .between cs else scanAttributes seen .skipping cs

/-- The attributes in the text after a tag's name. -/
def attributesOf (text : List Char) : List Attribute :=
  scanAttributes [] .between text

end EditableFields.Markup
