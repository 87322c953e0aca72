/-!
# Type expressions

Types as a declaration writes them. Only plain paths name types that members can refer to; any
other type is known by its text, which has one form: tokens apart by one space, brackets tight
around their content.
-/

namespace EditableFields

/-- Tokens in one text. -/
def TypeExpr.spaced (tokens : List String) : String :=
  " ".intercalate tokens

/-- A type as it is written in a declaration. -/
inductive TypeExpr where
  /-- A path without arguments, with `::` in front if it is `rooted`. -/
  | path (rooted : Bool) (segments : List String)
  /-- A path whose last segment has types as arguments. A segment before it that has arguments of
  its own is given by its text. -/
  | applied (rooted : Bool) (segments : List String) (arguments : List TypeExpr)
  | reference (lifetime : Option String) (mutable : Bool) (target : TypeExpr)
  | tuple (parts : List TypeExpr)
  | slice (element : TypeExpr)
  | array (element : TypeExpr) (length : Nat)
  /-- A type that another type has by way of a trait. -/
  | associated (owner : TypeExpr) (trait : List String) (member : String)
  /-- A type of any other form, such as a function, a pointer, a trait object, a type in parentheses,
  or a path with arguments elsewhere or that are no types: it is known by its tokens alone. -/
  | other (tokens : List String) (written : TypeExpr.spaced tokens ≠ "")
deriving Repr

namespace TypeExpr

/-- The tokens of a path. -/
def pathTokens (rooted : Bool) (segments : List String) : List String :=
  (if rooted then ["::"] else []) ++ segments.intersperse "::"

mutual

/-- The tokens of a type, a bracketed group being one of them. -/
def tokens : TypeExpr → List String
  | path rooted segments => pathTokens rooted segments
  | applied rooted segments arguments =>
    pathTokens rooted segments ++ ["<"] ++ separated arguments ++ [">"]
  | reference lifetime mutable target =>
    ["&"] ++ lifetime.toList.map ("'" ++ ·) ++ (if mutable then ["mut"] else []) ++ target.tokens
  | tuple parts => ["(" ++ spaced (separated parts ++ oneMark parts) ++ ")"]
  | slice element => ["[" ++ spaced element.tokens ++ "]"]
  | array element length => ["[" ++ spaced (element.tokens ++ [";", toString length]) ++ "]"]
  | associated owner trait member =>
    ["<"] ++ owner.tokens ++ ["as"] ++ pathTokens false trait ++ [">", "::", member]
  | other tokens _ => tokens

/-- The tokens of types with commas between them. -/
def separated : List TypeExpr → List String
  | [] => []
  | [e] => e.tokens
  | e :: es => e.tokens ++ "," :: separated es

/-- A tuple of one part has a comma after it. -/
def oneMark : List TypeExpr → List String
  | [_] => [","]
  | _ => []

end

/-- The text of a type. -/
def text (e : TypeExpr) : String :=
  spaced e.tokens

/-- The qualified name that a plain path is: one that is not rooted and has no arguments. -/
def name? : TypeExpr → Option String
  | path false segments => some ("::".intercalate segments)
  | _ => none

/-- The name of the type in a catalog. -/
def typeName (e : TypeExpr) : String :=
  e.name?.getD e.text

mutual

/-- Whether a type is optional: a path that ends in `Option` and has one argument, which is not
optional itself. -/
def isOptional : TypeExpr → Bool
  | applied _ segments arguments =>
    segments.getLast? = some "Option" && isOneRequired arguments
  | _ => false

/-- Whether there is one type, and it is not optional. -/
def isOneRequired : List TypeExpr → Bool
  | [e] => !e.isOptional
  | _ => false

end

/-- The type of the value: of an optional type its argument, of any other the type itself. -/
def content (e : TypeExpr) : TypeExpr :=
  match e with
  | applied _ _ [argument] => if e.isOptional then argument else e
  | _ => e

end TypeExpr

end EditableFields
