import EditableFields.Descriptor
import EditableFields.Text.Quoted

/-!
# Values

What fields edit. The primitives are plain; products are lists of their members, variants of sums
carry a tag, and optional and wrapped values say so. Floating point values are kept by their bits
and compared as numbers: no NaN equals anything, and the two zeros are equal.
-/

namespace EditableFields

/-- A value that a field may hold. -/
inductive Value where
  | text (s : String)
  /-- A whole number of any of the integer types. -/
  | int (n : Int)
  | truth (b : Bool)
  | float64 (bits : UInt64)
  | float32 (bits : UInt32)
  | list (items : List Value)
  | tagged (tag : String) (fields : List Value)
  | absent
  | present (content : Value)
  | wrapped (content : Value)
deriving Repr, Inhabited

namespace Value

/-- Whether two floating point numbers are equal, given by bits: a sign, then a magnitude of
`width` bits. Magnitudes above that of `infinity` are not numbers. -/
def floatsEqual (width infinity a b : Nat) : Bool :=
  let magnitude := fun n => n % Nat.pow 2 width
  magnitude a ≤ infinity && magnitude b ≤ infinity &&
    (a == b || (magnitude a == 0 && magnitude b == 0))

mutual

/-- Whether two values are equal, as values of one type. -/
def equal : Value → Value → Bool
  | text a, text b => a == b
  | int a, int b => a == b
  | truth a, truth b => a == b
  | float64 a, float64 b => floatsEqual 63 0x7FF0000000000000 a.toNat b.toNat
  | float32 a, float32 b => floatsEqual 31 0x7F800000 a.toNat b.toNat
  | list as, list bs => allEqual as bs
  | tagged s as, tagged t bs => s == t && allEqual as bs
  | absent, absent => true
  | present a, present b => equal a b
  | wrapped a, wrapped b => equal a b
  | _, _ => false

/-- Whether two lists hold equal values in the same places. -/
def allEqual : List Value → List Value → Bool
  | [], [] => true
  | a :: as, b :: bs => equal a b && allEqual as bs
  | _, _ => false

end

/-- Whether an optional value is there. -/
def isPresent : Value → Bool
  | present _ => true
  | _ => false

/-- The content of an optional value. -/
def content? : Value → Option Value
  | present v => some v
  | _ => none

/-- What a value wraps. -/
def unwrapped : Value → Value
  | wrapped v => v
  | v => v

/-- The number that a value is, or zero. -/
def toInt : Value → Int
  | int n => n
  | _ => 0

/-- The text that a value is, or the empty one. -/
def toText : Value → String
  | text s => s
  | _ => ""

/-- The text of a list: items in brackets. -/
def bracketed (items : List String) : String :=
  "[" ++ String.intercalate ", " items ++ "]"

/-- The text of a primitive value in diagnostics. Floating point values show their bits, and
values that are made of others show nothing. -/
def debug : Value → String
  | text s => Text.quoted s
  | int n => toString n
  | truth b => toString b
  | float64 bits => toString bits.toNat
  | float32 bits => toString bits.toNat
  | _ => ""

end Value

/-- Keeps a whole number within so many bits, as signed arithmetic wraps around. -/
def wrapSigned (bits : Nat) (n : Int) : Int :=
  n.bmod (Nat.pow 2 bits)

end EditableFields
