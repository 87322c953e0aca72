import EditableFields.Text.Letter

/-!
# Names

Qualified names are paths whose segments are joined by `::`. This module takes the last segment
of a path, converts names between the word cases, and makes a name usable as an identifier of the
generated code. The conversions work on characters, so that each has one clause per character.
-/

namespace EditableFields.Name

/-- What follows the last `::` of a path, if there is one. -/
def afterLastSeparator : List Char → Option (List Char)
  | [] => none
  | c :: rest =>
    match afterLastSeparator rest with
    | some tail => some tail
    | none => if c = ':' && rest.head? = some ':' then some rest.tail else none

/-- The last segment of a path. -/
def simple (path : String) : String :=
  match afterLastSeparator path.toList with
  | some tail => String.ofList tail
  | none => path

/-- Whether `c` starts a new word after `previous`: it is uppercase, and it follows a lowercase
letter or a digit, or it is the last capital of an acronym. -/
def startsWord (previous : Option Char) (c : Char) (next : Option Char) : Bool :=
  match previous with
  | none => false
  | some p =>
    Text.isUppercase c &&
      (Text.isLowercase p || p.isDigit || (Text.isUppercase p && next.any Text.isLowercase))

/-- Lowers every character and puts an underscore before each word and for each dash. No underscore
is doubled before a word, with nothing tested for it: what stands before a word is a letter or a
digit, and neither is lowered to an underscore (`underscore_not_mem_of_startsWord`). -/
def snakeFrom (previous : Option Char) : List Char → List Char
  | [] => []
  | c :: rest =>
    if c = '-' then '_' :: snakeFrom (some c) rest
    else if startsWord previous c rest.head? then
      '_' :: (Text.lower c ++ snakeFrom (some c) rest)
    else Text.lower c ++ snakeFrom (some c) rest

/-- The snake case of a name. Acronyms stay together: `MDEntryPx` is `md_entry_px`. -/
def snake (s : String) : String :=
  String.ofList (snakeFrom none s.toList)

/-- Drops underscores and dashes and capitalises the letter after each, ASCII letters only. -/
def pascalFrom (capitalise : Bool) : List Char → List Char
  | [] => []
  | c :: rest =>
    if c = '_' || c = '-' then pascalFrom true rest
    else if capitalise then c.toUpper :: pascalFrom false rest
    else c :: pascalFrom false rest

/-- The Pascal case of a name: `message_header` is `MessageHeader`. -/
def pascal (s : String) : String :=
  String.ofList (pascalFrom true s.toList)

/-- Lowers the first character. -/
def lowerFirst : List Char → List Char
  | [] => []
  | c :: rest => Text.lower c ++ rest

/-- The lower camel case of a name: `basic_data` is `basicData`. -/
def lowerCamel (s : String) : String :=
  String.ofList (lowerFirst (pascalFrom true s.toList))

/-- Keywords of the generated language that may be written as raw identifiers. -/
def rawKeywords : List String :=
  [ "abstract", "as", "async", "await", "become", "box", "break", "const", "continue", "do",
    "dyn", "else", "enum", "extern", "false", "final", "fn", "for", "gen", "if", "impl", "in",
    "let", "loop", "macro", "match", "mod", "move", "mut", "override", "priv", "pub", "ref",
    "return", "static", "struct", "trait", "true", "try", "type", "typeof", "unsafe", "unsized",
    "use", "virtual", "where", "while", "yield" ]

/-- Keywords of the generated language that cannot be written as raw identifiers. -/
def reservedKeywords : List String :=
  ["crate", "self", "Self", "super"]

/-- Whether `s` is a keyword of the generated language. -/
def isKeyword (s : String) : Bool :=
  rawKeywords.contains s || reservedKeywords.contains s

/-- Makes a name usable as an identifier: `type` becomes the raw identifier of it, and `self`
becomes `self_`. -/
def escape (s : String) : String :=
  if reservedKeywords.contains s then s ++ "_"
  else if rawKeywords.contains s then "r#" ++ s
  else s

end EditableFields.Name
