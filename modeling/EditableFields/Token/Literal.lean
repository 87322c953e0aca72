import EditableFields.Text.IdentifierContinue
import EditableFields.Text.IdentifierStart

/-!
# Identifiers and literals

Where identifiers and literals of the generated language end. Each scanner takes the text from the
start of a token on and gives what follows the token, or nothing if there is no such token.
-/

namespace EditableFields.Token

/-- What a text holds before one of its ends. An end is a part of the text itself, so it is known
by its place in memory and not gone through. -/
def before (cs rest : List Char) : List Char :=
  match cs with
  | [] => []
  | c :: more =>
    if withPtrEq cs rest (fun _ => cs == rest) (by simp) then [] else c :: before more rest

/-- Whether an identifier may start with `c`. -/
def isIdentifierStart (c : Char) : Bool :=
  if c.toNat < 128 then c.isAlpha || c = '_' else Text.inRuns Text.identifierStartRuns c.toNat

/-- Whether an identifier may go on with `c`. -/
def isIdentifierContinue (c : Char) : Bool :=
  if c.toNat < 128 then c.isAlphanum || c = '_'
  else Text.inRuns Text.identifierContinueRuns c.toNat

/-- The end of a word: a character that starts identifiers, and those that it goes on with. -/
def wordEnd : List Char → Option (List Char)
  | [] => none
  | c :: cs => if isIdentifierStart c then some (cs.dropWhile isIdentifierContinue) else none

/-- The end of the suffix that a literal may have. -/
def suffixEnd (cs : List Char) : List Char :=
  (wordEnd cs).getD cs

/-- Refuses a number that goes straight on into a word. -/
def atBreak (cs : List Char) : Option (List Char) :=
  if cs.head?.any isIdentifierContinue then none else some cs

/-- The value of a hexadecimal digit. -/
def hexValue? (c : Char) : Option Nat :=
  if c.isDigit then some (c.toNat - 48)
  else if 'a' ≤ c && c ≤ 'f' then some (c.toNat - 87)
  else if 'A' ≤ c && c ≤ 'F' then some (c.toNat - 55)
  else none

/-- The sorts of quoted literals. -/
inductive QuotedSort where
  | text
  | bytes
  /-- Text that ends with a zero, and so holds none. -/
  | terminated
deriving DecidableEq, Repr

/-- Whether a character may stand in a literal as it is. -/
def QuotedSort.allows : QuotedSort → Char → Bool
  | text, _ => true
  | bytes, c => c.toNat < 128
  | terminated, c => c != '\x00'

/-- The characters that a backslash escapes by themselves. -/
def QuotedSort.escapes : QuotedSort → List Char
  | terminated => ['n', 'r', 't', '\\', '\'', '"']
  | _ => ['n', 'r', 't', '\\', '\'', '"', '0']

/-- The end of an escape by two hexadecimal digits, after its `x`. -/
def byteEscapeEnd (sort : QuotedSort) : List Char → Option (List Char)
  | a :: b :: cs =>
    match hexValue? a, hexValue? b with
    | some m, some n =>
      match sort with
      | .text => if m < 8 then some cs else none
      | .bytes => some cs
      | .terminated => if m = 0 && n = 0 then none else some cs
    | _, _ => none
  | _ => none

/-- The end of a code point escape, after its opening brace, with so many digits of it read. -/
def codePointEnd (sort : QuotedSort) (digits value : Nat) : List Char → Option (List Char)
  | [] => none
  | c :: cs =>
    match hexValue? c with
    | some d => if digits = 6 then none else codePointEnd sort (digits + 1) (16 * value + d) cs
    | none =>
      if digits = 0 then none
      else if c = '_' then codePointEnd sort digits value cs
      else if c = '\x7d' then
        if !value.isValidChar || (sort = .terminated && value = 0) then none else some cs
      else none

/-- The end of the blanks after a backslash at the end of a line; `cr` says whether a carriage
return was just read, which a line feed has to follow. -/
def continuationEnd (cr : Bool) : List Char → Option (List Char)
  | [] => none
  | c :: cs =>
    if cr then if c = '\n' then continuationEnd false cs else none
    else if c = ' ' || c = '\t' || c = '\n' then continuationEnd false cs
    else if c = '\r' then continuationEnd true cs
    else some (c :: cs)

/-- The end of an escape, after its backslash. -/
def escapeEnd (sort : QuotedSort) : List Char → Option (List Char)
  | [] => none
  | 'x' :: cs => byteEscapeEnd sort cs
  | 'u' :: '\x7b' :: cs => if sort = .bytes then none else codePointEnd sort 0 0 cs
  | '\n' :: cs => continuationEnd false cs
  | '\r' :: cs => continuationEnd true cs
  | c :: cs => if sort.escapes.contains c then some cs else none

/-- The end of a literal with escapes, after its opening quote, in at most `rounds` rounds. -/
def cookedEnd (sort : QuotedSort) : Nat → List Char → Option (List Char)
  | 0, _ => none
  | _ + 1, [] => none
  | rounds + 1, c :: cs =>
    if c = '"' then some (suffixEnd cs)
    else if c = '\r' then
      match cs with
      | '\n' :: cs => cookedEnd sort rounds cs
      | _ => none
    else if c = '\\' then (escapeEnd sort cs).bind (cookedEnd sort rounds)
    else if sort.allows c then cookedEnd sort rounds cs
    else none

/-- The end of a raw literal that `marks` close after a quote. -/
def rawEnd (sort : QuotedSort) (marks : List Char) : List Char → Option (List Char)
  | [] => none
  | '"' :: cs =>
    if marks.isPrefixOf cs then some (suffixEnd (cs.drop marks.length)) else rawEnd sort marks cs
  | '\r' :: '\n' :: cs => rawEnd sort marks cs
  | '\r' :: _ => none
  | c :: cs => if sort.allows c then rawEnd sort marks cs else none

/-- The end of a raw literal, from its marks before the opening quote on. -/
def rawLiteralEnd (sort : QuotedSort) (cs : List Char) : Option (List Char) :=
  let marks := cs.takeWhile (· = '#')
  match cs.drop marks.length with
  | '"' :: cs => if 255 < marks.length then none else rawEnd sort marks cs
  | _ => none

/-- The end of a string, byte string, or terminated string, in at most `rounds` rounds. -/
def stringEnd (rounds : Nat) (cs : List Char) : Option (List Char) :=
  match cs with
  | '"' :: rest => cookedEnd .text rounds rest
  | 'r' :: rest => rawLiteralEnd .text rest
  | 'b' :: '"' :: rest => cookedEnd .bytes rounds rest
  | 'b' :: 'r' :: rest => rawLiteralEnd .bytes rest
  | 'c' :: '"' :: rest => cookedEnd .terminated rounds rest
  | 'c' :: 'r' :: rest => rawLiteralEnd .terminated rest
  | _ => none

/-- The closing quote of a character. -/
def closingQuote : List Char → Option (List Char)
  | '\'' :: cs => some (suffixEnd cs)
  | _ => none

/-- The end of an escape in a character, which no line may end. -/
def characterEscapeEnd (sort : QuotedSort) : List Char → Option (List Char)
  | '\n' :: _ | '\r' :: _ => none
  | cs => escapeEnd sort cs

/-- The end of a character or byte. -/
def characterEnd : List Char → Option (List Char)
  | '\'' :: '\\' :: cs => (characterEscapeEnd .text cs).bind closingQuote
  | '\'' :: _ :: cs => closingQuote cs
  | 'b' :: '\'' :: '\\' :: cs => (characterEscapeEnd .bytes cs).bind closingQuote
  | 'b' :: '\'' :: c :: cs => if QuotedSort.bytes.allows c then closingQuote cs else none
  | _ => none

/-- The end of an exponent; without digits it is none, and the number ends as `short` says. -/
def exponentEnd (short : Option (List Char)) (sign digits : Bool) :
    List Char → Option (List Char)
  | [] => if digits then some [] else short
  | c :: cs =>
    if c = '+' || c = '-' then
      if digits then some (c :: cs)
      else if sign then short
      else exponentEnd short true digits cs
    else if c.isDigit then exponentEnd short sign true cs
    else if c = '_' then exponentEnd short sign digits cs
    else if digits then some (c :: cs)
    else short

/-- The end of the digits of a number with a point or an exponent, after its first digit. A point
that a word or another point follows does not belong to a number. -/
def decimalEnd (point : Bool) : List Char → Option (List Char)
  | [] => if point then some [] else none
  | c :: cs =>
    if c.isDigit || c = '_' then decimalEnd point cs
    else if c = '.' then
      if point then some (c :: cs)
      else if cs.head?.any fun d => d = '.' || isIdentifierStart d then none
      else decimalEnd true cs
    else if c = 'e' || c = 'E' then
      exponentEnd (if point then some (c :: cs) else none) false false cs
    else if point then some (c :: cs)
    else none

/-- The end of digits in a base. -/
def digitsEnd (base : Nat) (empty : Bool) : List Char → Option (List Char)
  | [] => if empty then none else some []
  | c :: cs =>
    if c.isDigit then
      if base ≤ c.toNat - 48 then none else digitsEnd base false cs
    else if (hexValue? c).isSome && base = 16 then digitsEnd base false cs
    else if c = '_' then
      if empty && base = 10 then none else digitsEnd base empty cs
    else if empty then none
    else some (c :: cs)

/-- The end of the digits of a whole number. -/
def wholeEnd : List Char → Option (List Char)
  | '0' :: 'x' :: cs => digitsEnd 16 true cs
  | '0' :: 'o' :: cs => digitsEnd 8 true cs
  | '0' :: 'b' :: cs => digitsEnd 2 true cs
  | cs => digitsEnd 10 true cs

/-- The end of the digits of a number with a point or an exponent. -/
def fractionEnd : List Char → Option (List Char)
  | c :: cs => if c.isDigit then decimalEnd false cs else none
  | [] => none

/-- The end of a number. -/
def numberEnd (cs : List Char) : Option (List Char) :=
  ((fractionEnd cs).bind fun r => atBreak (suffixEnd r)).or
    ((wholeEnd cs).bind fun r => atBreak (suffixEnd r))

/-- The end of a literal, in at most `rounds` rounds; as many as the text has characters are
enough. -/
def literalEnd (rounds : Nat) (cs : List Char) : Option (List Char) :=
  ((stringEnd rounds cs).or (characterEnd cs)).or (numberEnd cs)

/-- What a literal that is not plain text starts with: no identifier starts so. -/
def literalMarks : List (List Char) :=
  [ ['r', '"'], ['r', '#', '"'], ['r', '#', '#'], ['b', '"'], ['b', '\''], ['b', 'r', '"'],
    ['b', 'r', '#'], ['c', '"'], ['c', 'r', '"'], ['c', 'r', '#'] ]

/-- Names that no raw identifier has. -/
def neverRaw : List (List Char) :=
  ["_", "super", "self", "Self", "crate"].map String.toList

/-- The end of an identifier, raw or not. -/
def anyIdentifierEnd (cs : List Char) : Option (List Char) :=
  match cs with
  | 'r' :: '#' :: rest =>
    (wordEnd rest).bind fun r =>
      if neverRaw.contains (before rest r) then none else some r
  | cs => wordEnd cs

/-- The end of an identifier that no literal could start with. -/
def identifierEnd (cs : List Char) : Option (List Char) :=
  if literalMarks.any (·.isPrefixOf cs) then none else anyIdentifierEnd cs

end EditableFields.Token
