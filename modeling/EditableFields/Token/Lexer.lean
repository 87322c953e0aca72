import EditableFields.Text.Quoted
import EditableFields.Token.Literal

/-!
# Tokens

The tokens of generated code in order: identifiers, literals, single punctuation characters, and
delimiters, which have to match. Comments vanish, but for documentation comments, which are
attributes of the item after them.
-/

namespace EditableFields.Token

/-- The blanks between tokens. -/
def isBlank (c : Char) : Bool :=
  let n := c.toNat
  n = 0x20 || (0x09 ≤ n && n ≤ 0x0D) || n = 0x85 || n = 0xA0 || n = 0x1680 ||
    (0x2000 ≤ n && n ≤ 0x200A) || n = 0x200E || n = 0x200F || n = 0x2028 || n = 0x2029 ||
    n = 0x202F || n = 0x205F || n = 0x3000

/-- The rest of a line, and what follows it from its line feed on. -/
def splitLine : List Char → List Char × List Char
  | [] => ([], [])
  | '\n' :: cs => ([], '\n' :: cs)
  | '\r' :: '\n' :: cs => ([], '\n' :: cs)
  | c :: cs =>
    let (line, rest) := splitLine cs
    (c :: line, rest)

/-- The end of a block comment, inside so many of them. -/
def blockEnd (depth : Nat) : List Char → Option (List Char)
  | '/' :: '*' :: cs => blockEnd (depth + 1) cs
  | '*' :: '/' :: cs => if depth ≤ 1 then some cs else blockEnd (depth - 1) cs
  | _ :: cs => blockEnd depth cs
  | [] => none

/-- Whether a text starts with a line comment that documents nothing. -/
def isPlainLineComment : List Char → Bool
  | '/' :: '/' :: '/' :: '/' :: _ => true
  | '/' :: '/' :: '/' :: _ => false
  | '/' :: '/' :: '!' :: _ => false
  | '/' :: '/' :: _ => true
  | _ => false

/-- Whether a text starts with a block comment that documents nothing. -/
def isPlainBlockComment : List Char → Bool
  | '/' :: '*' :: '*' :: '/' :: _ => true
  | '/' :: '*' :: '*' :: '*' :: _ => true
  | '/' :: '*' :: '*' :: _ => false
  | '/' :: '*' :: '!' :: _ => false
  | '/' :: '*' :: _ => true
  | _ => false

/-- Drops blanks and comments, in at most `rounds` rounds. -/
def skipBlank : Nat → List Char → List Char
  | 0, cs => cs
  | rounds + 1, cs =>
    if isPlainLineComment cs then skipBlank rounds (splitLine cs).2
    else if isPlainBlockComment cs then
      match blockEnd 0 cs with
      | some rest => skipBlank rounds rest
      | none => cs
    else
      match cs with
      | c :: rest => if isBlank c then skipBlank rounds rest else cs
      | [] => []

/-- A documentation comment. -/
structure Documentation where
  content : List Char
  /-- Whether it documents what it stands in, not what follows it. -/
  inner : Bool
deriving DecidableEq, Repr

/-- The content of a block comment between its marks. -/
def blockContent (cs rest : List Char) : List Char :=
  ((before cs rest).drop 3).dropLast.dropLast

/-- The documentation comment that a text starts with, and what follows it. -/
def documentation? : List Char → Option (Documentation × List Char)
  | '/' :: '/' :: '!' :: cs =>
    let (line, rest) := splitLine cs
    some (⟨line, true⟩, rest)
  | '/' :: '/' :: '/' :: cs =>
    if cs.head? = some '/' then none
    else
      let (line, rest) := splitLine cs
      some (⟨line, false⟩, rest)
  | '/' :: '*' :: '!' :: cs =>
    (blockEnd 1 ('!' :: cs)).map fun rest =>
      (⟨blockContent ('/' :: '*' :: '!' :: cs) rest, true⟩, rest)
  | '/' :: '*' :: '*' :: cs =>
    if cs.head? = some '*' then none
    else (blockEnd 1 ('*' :: cs)).map fun rest =>
      (⟨blockContent ('/' :: '*' :: '*' :: cs) rest, false⟩, rest)
  | _ => none

/-- Whether each carriage return comes before a line feed. -/
def returnsPaired : List Char → Bool
  | [] => true
  | '\r' :: '\n' :: cs => returnsPaired cs
  | '\r' :: _ => false
  | _ :: cs => returnsPaired cs

/-- The literal that a documentation comment becomes. A zero before an octal digit is spelled so
that the digit does not run into it. -/
def documentationLiteral : List Char → List Char
  | [] => []
  | '\x00' :: c :: cs =>
    (if '0' ≤ c && c ≤ '7' then ['\\', 'x', '0', '0'] else ['\\', '0']) ++
      documentationLiteral (c :: cs)
  | c :: cs => Text.quotedChar c ++ documentationLiteral cs

/-- The tokens of the attribute that a documentation comment stands for. -/
def Documentation.tokens (d : Documentation) : List String :=
  ["#"] ++ (if d.inner then ["!"] else []) ++
    ["[", "doc", "=", String.ofList ('"' :: (documentationLiteral d.content ++ ['"'])), "]"]

/-- The punctuation characters. -/
def punctuation : List Char :=
  "~!@#$%^&*-=+|;:,<.>/?'".toList

/-- Whether a text starts with a punctuation character. A slash that starts a comment is none. -/
def startsPunctuation : List Char → Bool
  | '/' :: '/' :: _ => false
  | '/' :: '*' :: _ => false
  | c :: _ => punctuation.contains c
  | [] => false

/-- The end of a punctuation character. The mark of a lifetime needs a name after it that is not
closed like a character. -/
def punctuationEnd (cs : List Char) : Option (List Char) :=
  if !startsPunctuation cs then none
  else match cs with
  | '\'' :: rest =>
    match anyIdentifierEnd rest with
    | some ('\'' :: _) => none
    | some ('#' :: _) => if ['r', '#'].isPrefixOf rest then some rest else none
    | some _ => some rest
    | none => none
  | _ => some cs.tail

/-- What stands for a literal that cannot be written. It is a literal itself, and no group. -/
def placeholder : List Char :=
  "(/*ERROR*/)".toList

/-- The end of a placeholder. -/
def placeholderEnd (cs : List Char) : Option (List Char) :=
  if placeholder.isPrefixOf cs then some (cs.drop placeholder.length) else none

/-- The end of a token that is no delimiter, in at most `rounds` rounds. -/
def leafEnd (rounds : Nat) (cs : List Char) : Option (List Char) :=
  (((placeholderEnd cs).or (literalEnd rounds cs)).or (punctuationEnd cs)).or (identifierEnd cs)

/-- The delimiter that closes the opening one that a text starts with. -/
def closing? (cs : List Char) : Option Char :=
  match cs with
  | '(' :: _ => if placeholder.isPrefixOf cs then none else some ')'
  | '[' :: _ => some ']'
  | '\x7b' :: _ => some '\x7d'
  | _ => none

/-- The tokens of a text inside open delimiters, which `closers` close, in at most
`rounds` rounds; one more than the text has characters is enough. -/
def tokensWithin : Nat → List Char → List Char → Option (List String)
  | 0, _, _ => none
  | rounds + 1, closers, cs =>
    let cs := skipBlank rounds cs
    match (documentation? cs).filter fun d => returnsPaired d.1.content with
    | some (d, rest) => (tokensWithin rounds closers rest).map (d.tokens ++ ·)
    | none =>
      match cs with
      | [] => if closers.isEmpty then some [] else none
      | c :: rest =>
        match closing? cs with
        | some closer =>
          (tokensWithin rounds (closer :: closers) rest).map (String.singleton c :: ·)
        | none =>
          if c = ')' || c = ']' || c = '\x7d' then
            match closers with
            | closer :: closers =>
              if c = closer then
                (tokensWithin rounds closers rest).map (String.singleton c :: ·)
              else none
            | [] => none
          else
            match leafEnd rounds cs with
            | some rest =>
              (tokensWithin rounds closers rest).map (String.ofList (before cs rest) :: ·)
            | none => none

/-- The tokens of a text, if it is made of tokens and its delimiters match. -/
def tokens (text : String) : Option (List String) :=
  let cs := text.toList
  tokensWithin (cs.length + 1) [] cs

end EditableFields.Token
