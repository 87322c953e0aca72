import EditableFields.Text.Extender
import EditableFields.Text.Unprintable

/-!
# Quoted text

The quoted form of a text, as generated code and diagnostics show it: double quotes around,
short escapes for the usual controls, and a code point escape for every character that shows
nothing of its own or clings to the character before it.
-/

namespace EditableFields.Text

/-- Whether `c` extends the grapheme before it. -/
def isExtender (c : Char) : Bool :=
  128 ≤ c.toNat && inRuns extenderRuns c.toNat

/-- Whether `c` shows a glyph of its own, or is the space. -/
def isPrintable (c : Char) : Bool :=
  if c.toNat < 128 then 32 ≤ c.toNat && c.toNat < 127
  else !inRuns unprintableRuns c.toNat

/-- The code point escape of `c`: lowercase hexadecimal without leading zeros, in braces. -/
def codePointEscape (c : Char) : List Char :=
  ['\\', 'u', '\x7b'] ++ Nat.toDigits 16 c.toNat ++ ['\x7d']

/-- One character inside quotes. -/
def quotedChar (c : Char) : List Char :=
  if c = '"' then ['\\', '"']
  else if c = '\\' then ['\\', '\\']
  else if c = '\n' then ['\\', 'n']
  else if c = '\r' then ['\\', 'r']
  else if c = '\t' then ['\\', 't']
  else if c = '\x00' then ['\\', '0']
  else if isExtender c || !isPrintable c then codePointEscape c
  else [c]

/-- The quoted form of `s`. -/
def quoted (s : String) : String :=
  String.ofList ('"' :: (s.toList.flatMap quotedChar ++ ['"']))

end EditableFields.Text
