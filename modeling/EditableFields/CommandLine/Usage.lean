/-!
# Usage

How arguments are read: a subcommand, then its options in any order. An option has a long form,
some have a short one; a value follows as the next argument, after an equals sign, or, for a short
form, straight on. Each option is given once.

The value of an option counts only when the next option or the end shows that it is complete, so
a fault in it gives way to an argument after it that is none.
-/

namespace EditableFields.CommandLine

/-- Why arguments ask for nothing to be done. -/
inductive UsageError where
  | helpAsked
  | versionAsked
  | nothingGiven
  | unknownSubcommand
  | unknownArgument
  /-- An option lacks its value, or the value is an empty path. -/
  | valueNeeded
  | valueNotTaken
  | optionTwice
  | schemaNeeded
deriving DecidableEq, Repr

/-- The options. -/
inductive OptionName where
  | help
  | version
  | schema
  | out
  | runtime
  | tolerant
  | camelCase
  | noDocs
deriving DecidableEq, Repr

/-- What value an option takes. -/
inductive Taken where
  | nothing
  | text
  /-- A text that is not empty. -/
  | path
deriving DecidableEq, Repr

/-- How an option is given. -/
structure OptionForm where
  name : OptionName
  long : String
  short : Option Char
  taken : Taken
deriving DecidableEq, Repr

/-- The option that asks for help. -/
def helpForm : OptionForm := ⟨.help, "help", some 'h', .nothing⟩

/-- The option for the schema file. -/
def schemaForm : OptionForm := ⟨.schema, "schema", some 's', .path⟩

/-- The options before a subcommand. -/
def topForms : List OptionForm :=
  [helpForm, ⟨.version, "version", some 'V', .nothing⟩]

/-- The options of the subcommand that generates code. -/
def generateForms : List OptionForm :=
  [ helpForm, schemaForm, ⟨.out, "out", some 'o', .path⟩,
    ⟨.tolerant, "tolerate-unsupported", none, .nothing⟩, ⟨.runtime, "runtime", none, .text⟩,
    ⟨.camelCase, "camel-case", none, .nothing⟩, ⟨.noDocs, "no-docs", none, .nothing⟩ ]

/-- The options of the subcommand that classifies types. -/
def classifyForms : List OptionForm :=
  [helpForm, schemaForm]

/-- Options that were given, and the last one where its value may be still to come. -/
structure Given where
  values : List (OptionName × String)
  awaiting : Option (OptionForm × Option String)
deriving DecidableEq, Repr

namespace Given

/-- No options. -/
def nothing : Given := ⟨[], none⟩

/-- Takes down an option with its value. -/
def record (g : Given) (o : OptionForm) (value : String) : Except UsageError Given :=
  if g.values.any (·.1 = o.name) then .error .optionTwice
  else if o.taken = .path && value.isEmpty then .error .valueNeeded
  else .ok { g with values := g.values ++ [(o.name, value)] }

/-- Takes down the last option. -/
def settle (g : Given) : Except UsageError Given :=
  match g.awaiting with
  | none => .ok g
  | some (_, none) => .error .valueNeeded
  | some (o, some value) => { g with awaiting := none }.record o value

/-- An option with its value. -/
def attach (g : Given) (o : OptionForm) (value : String) : Except UsageError Given :=
  g.settle.bind (·.record o value)

/-- An option the value of which is to come. -/
def await (g : Given) (o : OptionForm) : Except UsageError Given :=
  g.settle.map ({ · with awaiting := some (o, none) })

/-- An option that takes no value. -/
def mark (g : Given) (o : OptionForm) : Except UsageError Given :=
  g.settle.bind fun g =>
    match o.name with
    | .help => .error .helpAsked
    | .version => .error .versionAsked
    | _ => g.record o ""

/-- The name of a long option, and the value after its equals sign. -/
def splitValue : List Char → List Char × Option (List Char)
  | [] => ([], none)
  | c :: cs =>
    if c = '=' then ([], some cs)
    else
      let (name, value) := splitValue cs
      (c :: name, value)

/-- Reads a long option, after its dashes. -/
def readLong (forms : List OptionForm) (g : Given) (cs : List Char) : Except UsageError Given :=
  let (name, value) := splitValue cs
  match forms.find? (·.long = String.ofList name), value with
  | none, _ => .error .unknownArgument
  | some o, some value =>
    if o.taken = .nothing then .error .valueNotTaken else g.attach o (String.ofList value)
  | some o, none => if o.taken = .nothing then g.mark o else g.await o

/-- Reads short options in one argument, after its dash. -/
def readShort (forms : List OptionForm) (g : Given) : List Char → Except UsageError Given
  | [] => .ok g
  | c :: cs =>
    match forms.find? (·.short = some c) with
    | none => .error .unknownArgument
    | some o =>
      if o.taken = .nothing then
        match g.mark o with
        | .ok g => readShort forms g cs
        | .error e => .error e
      else
        match cs with
        | [] => g.await o
        | '=' :: value => g.attach o (String.ofList value)
        | value => g.attach o (String.ofList value)

/-- Reads an argument that looks like an option. -/
def readOption? (forms : List OptionForm) (g : Given) (arg : String) :
    Option (Except UsageError Given) :=
  match arg.toList with
  | '-' :: '-' :: cs => some (g.readLong forms cs)
  | '-' :: c :: cs => some (g.readShort forms (c :: cs))
  | _ => none

/-- Reads an argument that does not look like an option: it is the value that is still to come. -/
def readWord (g : Given) (arg : String) : Except UsageError Given :=
  match g.awaiting with
  | some (o, none) => .ok { g with awaiting := some (o, some arg) }
  | _ => .error .unknownArgument

/-- Reads the options of a subcommand. After a double dash nothing may come. -/
def readAll (forms : List OptionForm) (g : Given) : List String → Except UsageError Given
  | [] => g.settle
  | arg :: rest =>
    if arg = "--" then
      if rest.isEmpty then g.settle else .error .unknownArgument
    else
      match (g.readOption? forms arg).getD (g.readWord arg) with
      | .ok g => readAll forms g rest
      | .error e => .error e

/-- The value of an option. -/
def value? (g : Given) (name : OptionName) : Option String :=
  g.values.lookup name

/-- Whether an option is given. -/
def has (g : Given) (name : OptionName) : Bool :=
  (g.value? name).isSome

end Given

/-- What is asked for. -/
inductive Invocation where
  /-- Code for all requests of a schema, to a file if one is named. -/
  | generate (schema : String) (out runtime : Option String) (tolerant camelCase noDocs : Bool)
  /-- What kind each declared type is. -/
  | classify (schema : String)
deriving DecidableEq, Repr

/-- The names of the subcommands. -/
def subcommands : List String :=
  ["generate", "classify", "help"]

/-- Reads the arguments of the subcommand that generates code. -/
def readGenerate (args : List String) : Except UsageError Invocation :=
  match Given.nothing.readAll generateForms args with
  | .error e => .error e
  | .ok g =>
    match g.value? .schema with
    | some schema =>
      .ok (.generate schema (g.value? .out) (g.value? .runtime) (g.has .tolerant)
        (g.has .camelCase) (g.has .noDocs))
    | none => .error .schemaNeeded

/-- Reads the arguments of the subcommand that classifies types. -/
def readClassify (args : List String) : Except UsageError Invocation :=
  match Given.nothing.readAll classifyForms args with
  | .error e => .error e
  | .ok g =>
    match g.value? .schema with
    | some schema => .ok (.classify schema)
    | none => .error .schemaNeeded

/-- Reads the arguments of the subcommand that shows help: at most a subcommand. -/
def readHelp (args : List String) : UsageError :=
  match args with
  | [] => .helpAsked
  | [arg] => if subcommands.contains arg then .helpAsked else .unknownSubcommand
  | _ => .unknownSubcommand

/-- Reads what comes after a double dash in place of a subcommand. -/
def readEscaped (args : List String) : UsageError :=
  match args with
  | [] => .nothingGiven
  | arg :: _ => if subcommands.contains arg then .unknownArgument else .unknownSubcommand

/-- Reads all arguments. -/
def Invocation.ofArguments : List String → Except UsageError Invocation
  | [] => .error .nothingGiven
  | arg :: rest =>
    if arg = "generate" then readGenerate rest
    else if arg = "classify" then readClassify rest
    else if arg = "help" then .error (readHelp rest)
    else if arg = "--" then .error (readEscaped rest)
    else
      match Given.nothing.readOption? topForms arg with
      | some (.error e) => .error e
      | some (.ok _) => ofArguments rest
      | none => .error .unknownSubcommand

end EditableFields.CommandLine
