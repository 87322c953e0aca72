import EditableFields.Markup.Event

/-!
# Reading markup

The reader stands for the event reader of the XML library `quick-xml` (0.39) that schemas are read
with, and follows what the library documents, in its default settings but with texts trimmed: blanks
around text are no event, the names of closing tags are checked and blanks behind them do not count,
an element that ends where it starts is one event, `>` may stand in text, references are events of
their own, comments are not checked, and the end of the input is an end even with elements open. The
texts of the events that schemas do not look at are left out.

It is an automaton: it takes one character at a time and yields at most one event for it. It keeps
the names of the open elements, and checks each closing tag against the innermost one. Which schema
is read from events (`Schema.ofEvents`), and what it holds, is proved for any list of events,
whichever reader yields them; only what is said of the texts of documents rests on this one.
-/

namespace EditableFields.Markup

/-- Where a reader stands inside a document type declaration. -/
inductive DoctypeState where
  /-- Before the bracketed part; `named` says whether anything but blanks was met. -/
  | heading (named : Bool) (quote : Option Char)
  /-- In the bracketed part, between its declarations. -/
  | subset
  /-- After the `<` of a declaration. -/
  | opened
  /-- After its `<!`. -/
  | bang
  /-- After its `<!-`. -/
  | bangDash
  /-- In a comment, after so many dashes, two at most. -/
  | comment (dashes : Nat)
  /-- In a processing instruction; `question` says whether its last character is `?`. -/
  | instruction (question : Bool)
  /-- After the `<!` of a declaration and so much of its name. -/
  | naming (name : List Char)
  /-- In a declaration that may hold quoted text. -/
  | quoting (quote : Option Char)
  /-- In any other declaration. -/
  | plain
  /-- After the bracketed part. -/
  | ended
deriving DecidableEq, Repr

/-- Where a reader stands. Texts read so far are reversed. -/
inductive ReaderState where
  /-- Between tags; `text` says whether anything but blanks was met since the last event. -/
  | content (text : Bool)
  /-- After `&`. -/
  | reference
  /-- After `<`. -/
  | opened
  /-- After `<!`. -/
  | bang
  /-- After `<!-`. -/
  | bangDash
  /-- At the start of character data, with so much of its mark to come. -/
  | cdataMark (rest : List Char)
  /-- At the start of a document type declaration, with so much of its mark to come. -/
  | doctypeMark (rest : List Char)
  /-- In a comment, after so many dashes, two at most. -/
  | comment (dashes : Nat)
  /-- In character data, after so many closing brackets, two at most. -/
  | cdata (brackets : Nat)
  | doctype (state : DoctypeState)
  /-- In a processing instruction, after its `<?`. -/
  | instruction (text : List Char)
  /-- In a closing tag, after its `</`, and in a quoted part of it if there is a `quote`. -/
  | closing (text : List Char) (quote : Option Char)
  /-- In a tag, and in a quoted value of it if there is a `quote`. -/
  | tag (text : List Char) (quote : Option Char)
  /-- After a fault. -/
  | stopped
deriving DecidableEq, Repr

/-- A reader: the names of the open elements, the innermost first, and where it stands. -/
structure Reader where
  openNames : List String
  state : ReaderState
deriving DecidableEq, Repr

namespace Reader

/-- The reader at the start of a document. -/
def fresh : Reader := ⟨[], .content false⟩

/-- Goes to a state without an event. -/
def goto (r : Reader) (state : ReaderState) : Option Event × Reader :=
  (none, { r with state })

/-- Yields filler and goes on between tags. -/
def fill (r : Reader) (sort : Filler) : Option Event × Reader :=
  (some (.filler sort), { r with state := .content false })

/-- Yields a fault and stops. -/
def fail (r : Reader) (f : Fault) : Option Event × Reader :=
  (some (.fault f), { r with state := .stopped })

/-- Yields the tag written as `text`, which is reversed. Its element is open from now on, unless a
slash ends the text. -/
def yieldTag (r : Reader) (text : List Char) : Option Event × Reader :=
  match text with
  | '/' :: text => (some (.empty (Tag.ofContent text.reverse)), { r with state := .content false })
  | _ =>
    let tag := Tag.ofContent text.reverse
    (some (.start tag), ⟨tag.name :: r.openNames, .content false⟩)

/-- Yields the end of the element named by `text`, which is reversed. Blanks after the name do
not count, but where there are blanks only, they are the name. -/
def yieldClose (r : Reader) (text : List Char) : Option Event × Reader :=
  let name := text.dropWhile isBlank
  let found := String.ofList (if name.isEmpty then text else name).reverse
  match r.openNames with
  | [] => r.fail (.unmatchedClose found)
  | expected :: rest =>
    if expected = found then (some (.close found), ⟨rest, .content false⟩)
    else r.fail (.mismatchedClose expected found)

/-- The state of a quote after one more character: an open one is closed by its like, and either
kind opens one. -/
def quoteAfter (quote : Option Char) (c : Char) : Option Char :=
  match quote with
  | some q => if c = q then none else some q
  | none => if c = '"' || c = '\'' then some c else none

/-- The names of the declarations that may hold quoted text: of an entity, of an attribute list and
of a notation. -/
def quotingNames : List (List Char) :=
  [['E', 'N', 'T', 'I', 'T', 'Y'], ['A', 'T', 'T', 'L', 'I', 'S', 'T'],
    ['N', 'O', 'T', 'A', 'T', 'I', 'O', 'N']]

/-- The state in a declaration after so much of its name: quotes count from the end of a name of
`quotingNames` on, whatever follows it, and never where no such name can come about. -/
def stateInName (name : List Char) : DoctypeState :=
  if quotingNames.contains name then .quoting none
  else if quotingNames.any name.isPrefixOf then .naming name
  else .plain

/-- Takes a character of a document type declaration. -/
def stepDoctype (r : Reader) (state : DoctypeState) (c : Char) : Option Event × Reader :=
  match state with
  | .heading named quote =>
    if quote.isNone && c = '>' then
      if named then r.fill .doctype else r.fail .missingDoctypeName
    else if quote.isNone && c = '[' then r.goto (.doctype .subset)
    else r.goto (.doctype (.heading (named || !isBlank c) (quoteAfter quote c)))
  | .subset =>
    if c = ']' then r.goto (.doctype .ended)
    else if c = '<' then r.goto (.doctype .opened)
    else r.goto (.doctype .subset)
  | .opened =>
    if c = '?' then r.goto (.doctype (.instruction false))
    else if c = '!' then r.goto (.doctype .bang)
    else if c = '>' then r.goto (.doctype .subset)
    else r.goto (.doctype .plain)
  | .bang =>
    if c = '-' then r.goto (.doctype .bangDash)
    else if c = '>' then r.goto (.doctype .subset)
    else r.goto (.doctype (stateInName [c]))
  | .bangDash =>
    if c = '-' then r.goto (.doctype (.comment 0))
    else if c = '>' then r.goto (.doctype .subset)
    else r.goto (.doctype .plain)
  | .comment dashes =>
    if c = '-' then r.goto (.doctype (.comment (min 2 (dashes + 1))))
    else if c = '>' && dashes = 2 then r.goto (.doctype .subset)
    else r.goto (.doctype (.comment 0))
  | .instruction question =>
    if c = '>' && question then r.goto (.doctype .subset)
    else r.goto (.doctype (.instruction (c = '?')))
  | .naming name =>
    if c = '>' then r.goto (.doctype .subset)
    else r.goto (.doctype (stateInName (name ++ [c])))
  | .quoting quote =>
    if quote.isNone && c = '>' then r.goto (.doctype .subset)
    else r.goto (.doctype (.quoting (quoteAfter quote c)))
  | .plain => if c = '>' then r.goto (.doctype .subset) else r.goto (.doctype .plain)
  | .ended => if c = '>' then r.fill .doctype else r.goto (.doctype .ended)

/-- Takes a character between tags. -/
def stepContent (r : Reader) (text : Bool) (c : Char) : Option Event × Reader :=
  let flush := if text then some (Event.filler .text) else none
  if c = '<' then (flush, { r with state := .opened })
  else if c = '&' then (flush, { r with state := .reference })
  else r.goto (.content (text || !isBlank c))

/-- Takes one character. -/
def step (r : Reader) (c : Char) : Option Event × Reader :=
  match r.state with
  | .content text => r.stepContent text c
  | .reference =>
    if c = ';' then r.fill .reference
    else if c = '&' || c = '<' then r.fail .referenceNotClosed
    else r.goto .reference
  | .opened =>
    if c = '!' then r.goto .bang
    else if c = '?' then r.goto (.instruction [])
    else if c = '/' then r.goto (.closing [] none)
    else if c = '>' then r.yieldTag []
    else r.goto (.tag [c] (quoteAfter none c))
  | .bang =>
    if c = '-' then r.goto .bangDash
    else if c = '[' then r.goto (.cdataMark ['C', 'D', 'A', 'T', 'A', '['])
    else if c = 'D' || c = 'd' then r.goto (.doctypeMark ['O', 'C', 'T', 'Y', 'P', 'E'])
    else r.fail .unknownMarkup
  | .bangDash => if c = '-' then r.goto (.comment 0) else r.fail .commentNotClosed
  | .cdataMark rest =>
    match rest with
    | [] => r.fail .cdataNotClosed
    | m :: rest =>
      if c != m then r.fail .cdataNotClosed
      else if rest.isEmpty then r.goto (.cdata 0)
      else r.goto (.cdataMark rest)
  | .doctypeMark rest =>
    match rest with
    | [] => r.fail .doctypeNotClosed
    | m :: rest =>
      if c.toUpper != m then r.fail .doctypeNotClosed
      else if rest.isEmpty then r.goto (.doctype (.heading false none))
      else r.goto (.doctypeMark rest)
  | .comment dashes =>
    if c = '-' then r.goto (.comment (min 2 (dashes + 1)))
    else if c = '>' && dashes = 2 then r.fill .comment
    else r.goto (.comment 0)
  | .cdata brackets =>
    if c = ']' then r.goto (.cdata (min 2 (brackets + 1)))
    else if c = '>' && brackets = 2 then r.fill .cdata
    else r.goto (.cdata 0)
  | .doctype state => r.stepDoctype state c
  | .instruction text =>
    if c = '>' && text.isEmpty then r.fail .instructionNotClosed
    else if c = '>' && text.head? = some '?' then r.fill .instruction
    else r.goto (.instruction (c :: text))
  | .closing text quote =>
    if quote.isNone && c = '>' then r.yieldClose text
    else r.goto (.closing (c :: text) (quoteAfter quote c))
  | .tag text quote =>
    if quote.isNone && c = '>' then r.yieldTag text
    else r.goto (.tag (c :: text) (quoteAfter quote c))
  | .stopped => r.goto .stopped

/-- Whether an instruction is the declaration that begins a document. -/
def isDeclaration (text : List Char) : Bool :=
  match text with
  | 'x' :: 'm' :: 'l' :: rest => rest.head?.all fun c => isBlank c || c = '?'
  | _ => false

/-- The event at the end of the document, if there is one. -/
def finish (r : Reader) : Option Event :=
  match r.state with
  | .content text => if text then some (.filler .text) else none
  | .reference => some (.fault .referenceNotClosed)
  | .opened | .closing _ none | .tag _ none => some (.fault .tagNotClosed)
  | .closing _ (some q) | .tag _ (some q) => some (.fault (.valueNotClosed q))
  | .bang => some (.fault .unknownMarkup)
  | .bangDash | .comment _ => some (.fault .commentNotClosed)
  | .cdataMark _ | .cdata _ => some (.fault .cdataNotClosed)
  | .doctypeMark _ | .doctype _ => some (.fault .doctypeNotClosed)
  | .instruction text =>
    some (.fault (if isDeclaration text.reverse then .declarationNotClosed
      else .instructionNotClosed))
  | .stopped => none

/-- The events that a reader yields for the rest of a document. -/
def run (r : Reader) : List Char → List Event
  | [] => r.finish.toList
  | c :: cs =>
    let (e, r) := r.step c
    e.toList ++ run r cs

end Reader

/-- Drops the byte order mark that a document may begin with. -/
def dropMark : List Char → List Char
  | '\uFEFF' :: cs => cs
  | cs => cs

/-- The events of a document. -/
def events (document : String) : List Event :=
  Reader.fresh.run (dropMark document.toList)

end EditableFields.Markup
