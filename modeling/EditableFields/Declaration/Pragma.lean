import EditableFields.Descriptor

/-!
# Pragmas

Declarations and their members carry settings in pragmas. Only pragmas of the name `preview` are
read; of two settings of the same name the later counts.
-/

namespace EditableFields

/-- A literal in a setting. -/
inductive SettingValue where
  | text (s : String)
  | truth (b : Bool)
  /-- A literal of another kind. -/
  | other
deriving DecidableEq, Repr

/-- A setting, with a value or without. -/
structure Setting where
  name : String
  value : Option SettingValue
deriving DecidableEq, Repr

/-- A pragma. Settings are missing where it has not even parentheses. -/
structure Pragma where
  name : String
  settings : Option (List Setting)
deriving DecidableEq, Repr

/-- Why pragmas cannot be read. -/
inductive PragmaError where
  | noSettings
  | unknownSetting
  | unknownMemberSetting
  /-- A setting lacks the value that it needs. -/
  | noValue
  /-- A setting has a value and takes none. -/
  | valueNotTaken
  | textNeeded
  | truthNeeded
  | primitiveNeeded
deriving DecidableEq, Repr

def PragmaError.message : PragmaError → String
  | noSettings => "expected attribute arguments in parentheses: #[preview(...)]"
  | unknownSetting => "unknown preview option"
  | unknownMemberSetting => "unknown preview field option"
  | noValue => "expected `=`"
  | valueNotTaken => "expected `,`"
  | textNeeded => "expected string literal"
  | truthNeeded => "expected boolean literal"
  | primitiveNeeded => "value wrappers must wrap a primitive"

namespace Setting

/-- The text that a setting has to have. -/
def text (s : Setting) : Except PragmaError String :=
  match s.value with
  | some (.text t) => .ok t
  | some _ => .error .textNeeded
  | none => .error .noValue

/-- The truth value of a setting, which says yes by its presence. -/
def truth (s : Setting) : Except PragmaError Bool :=
  match s.value with
  | none => .ok true
  | some (.truth b) => .ok b
  | some _ => .error .truthNeeded

/-- A setting that takes no value. -/
def mark (s : Setting) : Except PragmaError Bool :=
  match s.value with
  | none => .ok true
  | some _ => .error .valueNotTaken

end Setting

/-- Reads the settings of all `preview` pragmas, in order. -/
def Pragma.foldSettings (read : α → Setting → Except PragmaError α) :
    α → List Pragma → Except PragmaError α
  | a, [] => .ok a
  | a, x :: xs =>
    if x.name = "preview" then
      match x.settings with
      | none => .error .noSettings
      | some settings =>
        match settings.foldlM read a with
        | .ok a => foldSettings read a xs
        | .error e => .error e
    else foldSettings read a xs

/-- What the pragmas of a declaration may set. -/
structure DerivationOptions where
  /-- Explicit name of the function. -/
  function : Option String
  /-- Whether the label defaults to the function's name. -/
  autoLabel : Bool
  /-- Path of the runtime library that generated code refers to. -/
  runtime : String
  /-- Whether members that cannot be edited are left to the caller. -/
  tolerant : Bool
deriving DecidableEq, Repr

namespace DerivationOptions

/-- The options of a declaration without pragmas. -/
def standard : DerivationOptions :=
  ⟨none, true, "::fieldforge::core", false⟩

/-- Changes the option that a setting names. -/
def apply (o : DerivationOptions) (s : Setting) : Except PragmaError DerivationOptions :=
  if s.name = "name" then s.text.map fun t => { o with function := some t }
  else if s.name = "auto_label" then s.truth.map fun b => { o with autoLabel := b }
  else if s.name = "runtime" then s.text.map fun t => { o with runtime := t }
  else if s.name = "tolerate_unsupported" then s.mark.map fun b => { o with tolerant := b }
  else .error .unknownSetting

/-- The options that pragmas set. -/
def ofPragmas (xs : List Pragma) : Except PragmaError DerivationOptions :=
  Pragma.foldSettings apply standard xs

end DerivationOptions

/-- The primitive that a member's setting says its type wraps. -/
def Setting.wrapped (s : Setting) : Except PragmaError Primitive :=
  if s.name = "value" then
    match s.text with
    | .ok t =>
      match Primitive.ofTypeName? t with
      | some p => .ok p
      | none => .error .primitiveNeeded
    | .error e => .error e
  else .error .unknownMemberSetting

/-- The primitive that a member's type wraps by its pragmas, if they say so. -/
def Pragma.wrapped? (xs : List Pragma) : Except PragmaError (Option Primitive) :=
  foldSettings (fun _ s => s.wrapped.map some) none xs

end EditableFields
