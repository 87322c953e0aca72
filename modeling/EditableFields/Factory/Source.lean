import EditableFields.Factory.Planning
import EditableFields.Text.Quoted

/-!
# Source of factories

The text of the generated code, as lines. A line is either code or documentation; without
documentation the lines of code stay as they are.
-/

namespace EditableFields

/-- One line of generated code. -/
structure Line where
  /-- Steps of indentation. -/
  indent : Nat
  /-- Whether the line documents the item after it. -/
  isDoc : Bool
  text : String
deriving DecidableEq, Repr

namespace Line

/-- A line of code. -/
def code (indent : Nat) (text : String) : Line := ⟨indent, false, text⟩

/-- A line of documentation. -/
def doc (indent : Nat) (text : String) : Line := ⟨indent, true, text⟩

/-- The line between two items. -/
def blank : Line := code 0 ""

/-- The line as it is written, with its end. -/
def render (l : Line) : String :=
  String.ofList (List.replicate (4 * l.indent) ' ') ++ (if l.isDoc then "/// " else "") ++ l.text ++
    "\n"

end Line

/-- The text of lines, those of documentation left out unless `docs` is set. -/
def renderLines (docs : Bool) (ls : List Line) : String :=
  String.join ((ls.filter fun l => docs || !l.isDoc).map Line.render)

/-- Puts a blank line between blocks. -/
def separated : List (List Line) → List Line
  | [] => []
  | [b] => b
  | b :: bs => b ++ Line.blank :: separated bs

/-- A method that returns the factory of a child. -/
def accessorLines (c : Configuration) (name subject : String) (child : ChildFactory) :
    List Line :=
  [ .doc 1 ("Returns the factory for " ++ subject ++ "."),
    .code 1 "#[must_use]",
    .code 1 ("pub fn " ++ name ++ "(&self) -> " ++ child.type.text c ++ " \x7b"),
    .code 2 (child.expr c),
    .code 1 "\x7d" ]

namespace MemberPlan

/-- The method that returns the member's factory. -/
def accessorMethod (c : Configuration) (m : MemberPlan) : List Line :=
  accessorLines c m.accessor ("member `" ++ m.label ++ "`") m.factory

/-- Names that the values of members are bound to, in order. -/
def bindings (ms : List MemberPlan) : List String :=
  (List.range ms.length).map Name.binding

/-- Accesses of members with the names that their values are bound to: what a product is built
from, and what its pattern binds. -/
def parts (ms : List MemberPlan) : List (String × String) :=
  (ms.map (·.access)).zip (bindings ms)

end MemberPlan

namespace VariantPlan

/-- The method that returns the factory of a variant that has members. -/
def accessorMethod? (c : Configuration) (v : VariantPlan) : Option (List Line) :=
  v.accessor.map fun name => accessorLines c name ("variant `" ++ v.tag ++ "`") v.factory

/-- Expression for the variant's factory inside its sum's. -/
def factoryExpr (c : Configuration) (v : VariantPlan) : String :=
  match v.accessor with
  | some name => "self." ++ name ++ "()"
  | none => v.factory.expr c

/-- The slot of the variant in a field of its sum. -/
def slotLines (c : Configuration) (value : String) (v : VariantPlan) : List Line :=
  [ .code 4 (c.item "Variant" ++ "::new("),
    .code 5 (Text.quoted v.tag ++ ","),
    .code 5 ("|value: &" ++ value ++ "| matches!(value, " ++ v.form.pattern v.type ++ "),"),
    .code 5 (v.factoryExpr c ++ ","),
    .code 5 (v.default ++ ","),
    .code 4 ")," ]

end VariantPlan

namespace Plan

/-- What the documentation of a factory says. -/
def doc (p : Plan) : String :=
  match p.body with
  | .product _ _ _ .variant => "Field factory for the `" ++ p.key ++ "` variant."
  | _ => "Field factory for `" ++ Name.simple p.key ++ "`."

/-- The field for a held factory. -/
def heldLines (c : Configuration) (h : HeldFactory) : List Line :=
  [.doc 1 h.doc, .code 1 ("pub " ++ h.name ++ ": " ++ h.type.text c ++ ",")]

/-- The declaration of a factory: with a field for each held factory, or without a body. -/
def declaration (c : Configuration) (p : Plan) : List Line :=
  Line.doc 0 p.doc ::
    if p.held.isEmpty then
      [ .code 0 "#[derive(Debug, Clone, Copy, Default)]",
        .code 0 ("pub struct " ++ p.name ++ ";") ]
    else
      [ Line.code 0 "#[derive(Debug, Clone)]",
        Line.code 0 ("pub struct " ++ p.name ++ " \x7b") ] ++
      p.held.flatMap (heldLines c) ++ [Line.code 0 "\x7d"]

/-- The constructor of a factory that holds others. -/
def constructorMethod (c : Configuration) (p : Plan) : List Line :=
  let params := p.held.map fun h => h.name ++ ": " ++ h.type.text c
  [ .doc 1 "Creates the factory from its parts.",
    .code 1 "#[must_use]",
    .code 1 ("pub fn new(" ++ String.intercalate ", " params ++ ") -> Self \x7b"),
    .code 2 ("Self \x7b " ++ String.intercalate ", " (p.held.map (·.name)) ++ " \x7d"),
    .code 1 "\x7d" ]

/-- The methods that return the factories of members, or of variants with members. -/
def accessorMethods (c : Configuration) (p : Plan) : List (List Line) :=
  match p.body with
  | .product _ _ members _ => members.map (·.accessorMethod c)
  | .sum variants => variants.filterMap (·.accessorMethod? c)

/-- The methods of a factory. -/
def methods (c : Configuration) (p : Plan) : List (List Line) :=
  (if p.held.isEmpty then [] else [p.constructorMethod c]) ++ p.accessorMethods c

/-- The block of methods, where there are any. -/
def methodBlock (c : Configuration) (p : Plan) : List Line :=
  match p.methods c with
  | [] => []
  | ms =>
    [Line.blank, .code 0 ("impl " ++ p.name ++ " \x7b")] ++ separated ms ++ [.code 0 "\x7d"]

/-- The closure that takes a product apart into a tuple of its members. -/
def splitProduct (value : String) (members : List MemberPlan) : List Line :=
  let clones := members.map fun m => "value." ++ m.access ++ ".clone()"
  [.code 3 ("|value: &" ++ value ++ "| " ++ tuple clones ++ ",")]

/-- The closure that takes a variant apart, and any other value to default values. -/
def splitVariant (value constructor : String) (style : ConstructorStyle)
    (members : List MemberPlan) : List Line :=
  let clones := (MemberPlan.bindings members).map (· ++ ".clone()")
  [ .code 3 ("|value: &" ++ value ++ "| match value \x7b"),
    .code 4 (construct constructor style (MemberPlan.parts members) ++ " => " ++ tuple clones ++
      ","),
    .code 4 ("_ => " ++ tuple (members.map (·.default)) ++ ","),
    .code 3 "\x7d," ]

/-- The head of the implementation, with the type of the fields. -/
def implementationHead (c : Configuration) (p : Plan) (field : String) : List Line :=
  [ .code 0 ("impl " ++ c.item "FieldFactory" ++ "<" ++ p.value ++ "> for " ++ p.name ++ " \x7b"),
    .code 1 ("type Field = " ++ field ++ ";"),
    .blank ]

/-- The head of the method that makes a field. -/
def createHead (p : Plan) : Line :=
  .code 1 ("fn create(&self, label: &str, initial_value: " ++ p.value ++ ") -> Self::Field \x7b")

/-- The implementation of a product's factory, or of a product variant's. -/
def productImplementation (c : Configuration) (p : Plan) (constructor : String)
    (style : ConstructorStyle) (members : List MemberPlan) (standing : Standing) : List Line :=
  let combined := c.item ("Combined" ++ toString members.length)
  let types := String.intercalate ", " (members.map fun m => m.value.text)
  let labels := String.intercalate ", " (members.map fun m => Text.quoted m.label)
  let allow := match standing with
    | .topLevel => "#[allow(clippy::clone_on_copy)]"
    | .variant => "#[allow(clippy::clone_on_copy, unreachable_patterns)]"
  let split := match standing with
    | .topLevel => splitProduct p.value members
    | .variant => splitVariant p.value constructor style members
  p.implementationHead c (combined ++ "<" ++ p.value ++ ", " ++ types ++ ">") ++
  [ .code 1 allow,
    p.createHead,
    .code 2 (combined ++ "::new("),
    .code 3 "label,",
    .code 3 "initial_value,",
    .code 3 ("[" ++ labels ++ "],"),
    .code 3 (tuple (members.map fun m => "self." ++ m.accessor ++ "()") ++ ","),
    .code 3 ("|" ++ String.intercalate ", " (MemberPlan.bindings members) ++ "| " ++
      construct constructor style (MemberPlan.parts members) ++ ",") ] ++
  split ++
  [.code 2 ")", .code 1 "\x7d", .code 0 "\x7d"]

/-- The implementation of a sum's factory. -/
def sumImplementation (c : Configuration) (p : Plan) (variants : List VariantPlan) : List Line :=
  p.implementationHead c (c.item "Polymorphic" ++ "<" ++ p.value ++ ">") ++
  [ p.createHead,
    .code 2 (c.item "Polymorphic" ++ "::new("),
    .code 3 "label,",
    .code 3 "initial_value,",
    .code 3 "vec![" ] ++
  variants.flatMap (·.slotLines c p.value) ++
  [.code 3 "],", .code 2 ")", .code 1 "\x7d", .code 0 "\x7d"]

/-- The implementation of a factory. -/
def implementation (c : Configuration) (p : Plan) : List Line :=
  match p.body with
  | .product constructor style members standing =>
    p.productImplementation c constructor style members standing
  | .sum variants => p.sumImplementation c variants

/-- All about one factory. -/
def lines (c : Configuration) (p : Plan) : List Line :=
  p.declaration c ++ p.methodBlock c ++ [.blank] ++ p.implementation c

end Plan

/-- Borrows a factory for a call: what would be copied is borrowed as it is, and the parameter of
an entry point is borrowed already. -/
def borrowed (expr : String) : String :=
  match expr.toList.reverse with
  | ')' :: '(' :: 'e' :: 'n' :: 'o' :: 'l' :: 'c' :: '.' :: rest =>
    let base := String.ofList rest.reverse
    if base = "factory" then base else "&" ++ base
  | _ => "&" ++ expr

namespace Entry

/-- The parameter for a factory that the caller holds. -/
def factoryParameter (c : Configuration) (e : Entry) : String :=
  match e.factory.held? with
  | some h => "factory: &" ++ h.type.text c ++ ", "
  | none => ""

/-- The parameter for the label, which is optional if there is a default. -/
def labelParameter (e : Entry) : String :=
  match e.name.label with
  | some _ => "label: Option<&str>"
  | none => "label: &str"

/-- The label that the field is made with. -/
def labelArgument (e : Entry) : String :=
  match e.name.label with
  | some label => "label.unwrap_or(" ++ Text.quoted label ++ ")"
  | none => "label"

/-- The factory, seen as a factory for the values that the entry point edits. -/
def factoryPath (c : Configuration) (e : Entry) : String :=
  "<" ++ e.factory.type.text c ++ " as " ++ c.item "FieldFactory" ++ "<" ++ e.value.text ++ ">>"

/-- The function of an entry point. -/
def functionLines (c : Configuration) (e : Entry) (indent : Nat) : List Line :=
  let path := e.factoryPath c
  [ .doc indent ("Creates a field editing a `" ++ Name.simple e.subject ++ "` value."),
    .code indent "#[must_use]",
    .code indent ("pub fn " ++ e.name.function ++ "(" ++ e.factoryParameter c ++
      e.labelParameter ++ ", initial_value: " ++ e.value.text ++ ") -> " ++ path ++
      "::Field \x7b"),
    .code (indent + 1) (path ++ "::create(" ++ borrowed (e.factory.expr c) ++ ", " ++
      e.labelArgument ++ ", initial_value)"),
    .code indent "\x7d" ]

/-- All about one entry point. -/
def lines (c : Configuration) (e : Entry) : List Line :=
  match e.directive with
  | .field => e.functionLines c 0
  | .factory =>
    [Line.code 0 ("impl " ++ e.subject ++ " \x7b")] ++ e.functionLines c 1 ++ [.code 0 "\x7d"]

end Entry

namespace Planning

/-- The lines of all that was planned: factories first, then entry points. -/
def lines (c : Configuration) (s : Planning) : List Line :=
  [.code 0 "// Generated by fieldforge-codegen. Do not edit."] ++
  s.inOrder.flatMap (fun p => Line.blank :: p.lines c) ++
  s.entries.flatMap (fun e => Line.blank :: e.lines c)

/-- The text of all that was planned. -/
def source (c : Configuration) (s : Planning) : String :=
  renderLines c.docs (s.lines c)

end Planning

end EditableFields
