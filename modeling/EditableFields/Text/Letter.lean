import EditableFields.Text.Uppercase
import EditableFields.Text.Lowercase
import EditableFields.Text.Alphabetic
import EditableFields.Text.Numeric
import EditableFields.Text.Lowering

/-!
# Letters

The classes of characters that names are read by, and the lowering of one character. ASCII is
decided here; every other character is looked up in the tables of the character standard.
-/

namespace EditableFields.Text

/-- Uppercase: `A` to `Z`, and every other character with the property. -/
def isUppercase (c : Char) : Bool :=
  if c.toNat < 128 then c.isUpper else inRuns uppercaseRuns c.toNat

/-- Lowercase: `a` to `z`, and every other character with the property. -/
def isLowercase (c : Char) : Bool :=
  if c.toNat < 128 then c.isLower else inRuns lowercaseRuns c.toNat

/-- Alphabetic: the ASCII letters, and every other character with the property. -/
def isAlphabetic (c : Char) : Bool :=
  if c.toNat < 128 then c.isAlpha else inRuns alphabeticRuns c.toNat

/-- Numeric: the ASCII digits, and every other character of a number category. -/
def isNumeric (c : Char) : Bool :=
  if c.toNat < 128 then c.isDigit else inRuns numericRuns c.toNat

/-- Alphabetic or numeric. -/
def isAlphanumeric (c : Char) : Bool :=
  isAlphabetic c || isNumeric c

/-- The lower form of `c`. It is one character, but for the dotted capital I (U+0130), which
becomes an `i` and a combining dot; a character without a lower form stays as it is. -/
def lower (c : Char) : List Char :=
  if c.toNat < 128 then [c.toLower]
  else if c.toNat = 0x130 then ['i', Char.ofNat 0x307]
  else match loweringRuns.find? (·.run.contains c.toNat) with
    | some r => [Char.ofNat (c.toNat + r.shift).toNat]
    | none => [c]

end EditableFields.Text
