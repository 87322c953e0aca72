import EditableFields.Classification
import EditableFields.Factory.Type

/-!
# Plans of factories

A plan says all about one generated factory that its text depends on, besides the settings: one
plan for each product, sum, and product variant.
-/

namespace EditableFields

/-- Why a generated factory holds another factory. -/
inductive HeldReason where
  /-- It is the factory generated for the type with this key. -/
  | nested (key : String)
  /-- The member cannot be edited, so the caller supplies its factory. -/
  | obligation (member : String) (reason : Refusal)
deriving DecidableEq, Repr

/-- A field of a generated factory, which holds another factory. -/
structure HeldFactory where
  name : String
  type : FactoryType
  reason : HeldReason
deriving DecidableEq, Repr

/-- What the documentation of a held factory says. -/
def HeldFactory.doc (h : HeldFactory) : String :=
  match h.reason with
  | .nested key => "Factory for nested `" ++ Name.simple key ++ "` fields."
  | .obligation member reason =>
    "Caller-supplied factory for member `" ++ member ++ "`: " ++ reason.message ++ "."

/-- Where a factory that has to be held is found. -/
inductive Receiver where
  /-- In a field of the factory that needs it. -/
  | own
  /-- In the parameter of an entry point. -/
  | parameter
deriving DecidableEq, Repr

/-- The factory of one child: of a member, of a variant, or of the subject of an entry point. -/
inductive ChildFactory where
  | leaf (kind : Primitive)
  | choice (type : String) (entries : List String)
  | fixed
  | wrapper (type : String) (w : ValueWrapper)
  | external (path : String)
  /-- A generated factory that holds nothing. -/
  | unit (name : String)
  /-- A factory that has to be held. -/
  | held (receiver : Receiver) (factory : HeldFactory)
  /-- Optional values of a type, shown first with a default. -/
  | optional (inner : ChildFactory) (type default : String)
deriving DecidableEq, Repr

namespace ChildFactory

/-- Type of the factory. -/
def type : ChildFactory → FactoryType
  | leaf kind => .leaf kind
  | choice type _ => .choice type
  | fixed => .fixed
  | wrapper type w => .transform (.leaf w.primitive) type w.primitive
  | external path => .external path
  | unit name => .generated name
  | held _ factory => factory.type
  | optional inner t _ => .optional inner.type t

/-- What the owner of the child has to hold for it. -/
def held? : ChildFactory → Option HeldFactory
  | held _ factory => some factory
  | optional inner _ _ => inner.held?
  | _ => none

/-- The value that a wrapper holds, read from a reference to the wrapper. Text is copied. -/
def readWrapped (w : ValueWrapper) : String :=
  let access := "value." ++ Name.escape w.member
  if w.primitive = .string then access ++ ".clone()" else access

/-- Expression for the factory. -/
def expr (c : Configuration) : ChildFactory → String
  | leaf kind => c.item kind.leafName
  | choice type entries =>
    c.item "EnumField" ++ "::new(vec![" ++
      String.intercalate ", " (entries.map fun e => type ++ "::" ++ e) ++ "])"
  | fixed => c.item "FixedField"
  | wrapper type w =>
    c.item "TransformField" ++ "::new(" ++ c.item w.primitive.leafName ++ ", |value: &" ++ type ++
      "| " ++ readWrapped w ++ ", |inner: " ++ w.primitive.typeName ++ "| " ++
      construct type w.style [(Name.escape w.member, "inner")] ++ ")"
  | external path => derivedDefault path
  | unit name => name
  | held .own factory => "self." ++ factory.name ++ ".clone()"
  | held .parameter _ => "factory.clone()"
  | optional inner _ default =>
    c.item "NullableField" ++ "::new(" ++ inner.expr c ++ ", || " ++ default ++ ")"

end ChildFactory

/-- One member of a planned product. -/
structure MemberPlan where
  label : String
  /-- Token that the member is accessed by: its escaped name, or its position. -/
  access : String
  /-- Name of the method that returns the member's factory. -/
  accessor : String
  value : ValueType
  factory : ChildFactory
  /-- Expression for the member's default value. -/
  default : String
deriving DecidableEq, Repr

/-- How a variant is written. -/
inductive VariantForm where
  | path
  | marker
  | named
  | positional
deriving DecidableEq, Repr

/-- The pattern that matches a variant of a form, whatever its members hold. -/
def VariantForm.pattern (type : String) : VariantForm → String
  | path => type
  | marker | named => type ++ " \x7b .. \x7d"
  | positional => type ++ "(..)"

/-- One variant of a planned sum. -/
structure VariantPlan where
  tag : String
  /-- Qualified name of the variant. -/
  type : String
  form : VariantForm
  /-- Expression for the variant's default value. -/
  default : String
  factory : ChildFactory
  /-- Name of the method that returns the variant's factory; a constant has none. -/
  accessor : Option String
deriving DecidableEq, Repr

/-- What a planned factory makes fields of. -/
inductive PlanBody where
  | product (constructor : String) (style : ConstructorStyle) (members : List MemberPlan)
      (standing : Standing)
  | sum (variants : List VariantPlan)
deriving DecidableEq, Repr

/-- Plan of one generated factory. -/
structure Plan where
  /-- Qualified name of the type or variant that the factory is for. -/
  key : String
  /-- Name of the factory. -/
  name : String
  /-- Type of the values that its fields edit. -/
  value : String
  body : PlanBody
  /-- The factories that it holds. -/
  held : List HeldFactory
deriving DecidableEq, Repr

/-- Accesses of a product's members with their default values; a sum has no members. -/
def PlanBody.memberDefaults : PlanBody → List (String × String)
  | product _ _ members _ => members.map fun m => (m.access, m.default)
  | sum _ => []

/-- An entry point: a function that makes a field for one type. -/
structure Entry where
  directive : Directive
  /-- Qualified name of the subject. -/
  subject : String
  name : EntryName
  value : ValueType
  factory : ChildFactory
deriving DecidableEq, Repr

end EditableFields
