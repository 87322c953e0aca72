import EditableFields.Declaration.Mention
import EditableFields.Generation
import EditableFields.Token.Lexer

/-!
# Derivation

The field factory of a declared type, as the tokens that stand beside its declaration.
-/

namespace EditableFields

/-- Why no factory can be derived. -/
inductive DerivationError where
  | declaration (e : DeclarationError)
  | generation (e : GenerationError)
  /-- The generated code is not made of tokens, because a name or path in it is not. -/
  | notTokens
deriving DecidableEq, Repr

def DerivationError.message : DerivationError → String
  | declaration e => e.message
  | generation e => e.message
  | notTokens =>
    "generated field factory does not parse: cannot parse string into token stream"

namespace DerivationOptions

/-- The settings that options ask for. -/
def configuration (o : DerivationOptions) : Configuration :=
  { Configuration.standard.withRuntime o.runtime with tolerant := o.tolerant }

/-- The request for the factory of a type. -/
def request (o : DerivationOptions) (type : String) : Request :=
  { Request.plain .factory type with function := o.function, autoLabel := o.autoLabel }

end DerivationOptions

namespace Declaration

/-- The options of a declaration, which has to be free of type parameters. -/
def options (d : Declaration) : Except DeclarationError DerivationOptions :=
  if d.generics.isEmpty then
    (DerivationOptions.ofPragmas d.pragmas).mapError .pragma
  else .error .generic

/-- The code of a declared type's factory. -/
def generate (d : Declaration) : Except DerivationError String :=
  match d.options with
  | .error e => .error (.declaration e)
  | .ok options =>
    match d.catalog with
    | .error e => .error (.declaration e)
    | .ok catalog =>
      (catalog.generate options.configuration [options.request d.name]).mapError .generation

/-- The tokens of a declared type's factory. -/
def derive (d : Declaration) : Except DerivationError (List String) :=
  match d.generate with
  | .error e => .error e
  | .ok code =>
    match Token.tokens code with
    | some tokens => .ok tokens
    | none => .error .notTokens

end Declaration

end EditableFields
