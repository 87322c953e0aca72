import EditableFields.Catalog
import EditableFields.Classification

/-!
# Surveys

A survey classifies types of one catalog and remembers what it found, so that each name is
classified once. The types being classified are on a stack. A type met again while it is on the
stack is its own descendant: it closes a loop, and every type on that loop is refused when its own
classification ends.
-/

namespace EditableFields

/-- What a survey remembers between and during classifications. -/
structure Survey where
  /-- Finished classifications by name, the latest first. -/
  memo : List (String × Classification)
  /-- Names of the types being classified, the innermost first. -/
  inProgress : List String
  /-- The loop that was found through a type in progress, as a path. -/
  loops : List (String × List String)
deriving Repr

namespace Survey

/-- The survey that has seen no type. -/
def fresh : Survey := ⟨[], [], []⟩

/-- The finished classification of a name. -/
def memoized (s : Survey) (name : String) : Option Classification :=
  s.memo.lookup name

/-- Puts a name on the stack. -/
def enter (s : Survey) (name : String) : Survey :=
  { s with inProgress := name :: s.inProgress }

/-- The names on the loop that `name` closes, outermost first: the stack from `name` inwards. -/
def loopOf (s : Survey) (name : String) : List String :=
  name :: (s.inProgress.takeWhile (· != name)).reverse

/-- Records a loop path for a type in progress; the first path recorded for a type stays. -/
def markLoop (path : List String) (loops : List (String × List String)) (name : String) :
    List (String × List String) :=
  match loops.lookup name with
  | some _ => loops
  | none => (name, path) :: loops

/-- Meets a type that is in progress: refuses it and marks every type of the loop. -/
def closeLoop (s : Survey) (name : String) : Classification × Survey :=
  let loop := s.loopOf name
  let path := loop ++ [name]
  (.unsupported (.circular path), { s with loops := loop.foldl (markLoop path) s.loops })

/-- Takes the innermost name off the stack and remembers its classification, which is a refusal
if a loop was found through it. -/
def leave (s : Survey) (name : String) (found : Classification) : Classification × Survey :=
  let k := match s.loops.lookup name with
    | some path => .unsupported (.circular path)
    | none => found
  (k, { memo := (name, k) :: s.memo
        inProgress := s.inProgress.tail
        loops := s.loops.filter (·.1 != name) })

/-- A way to classify a descriptor in a survey. -/
abbrev Classifier := Standing → Descriptor → Survey → Classification × Survey

/-- Classifies what a name means in the catalog. -/
def classifyNameWith (catalog : Catalog) (classifier : Classifier) (name : String) (s : Survey) :
    Classification × Survey :=
  match catalog.get? name with
  | some d => classifier .topLevel d s
  | none => (.unsupported (.unknownType name), s)

/-- Classifies the type of a member. A value wrapper stands for its primitive. -/
def resolveMember (catalog : Catalog) (classifier : Classifier) (m : Member) (s : Survey) :
    ResolvedMember Classification × Survey :=
  match (catalog.get? m.type).bind Descriptor.valueWrapper? with
  | some w => (⟨m.name, m.type, m.nullable, some w, .primitive w.primitive⟩, s)
  | none =>
    let (k, s) := classifyNameWith catalog classifier m.type s
    (⟨m.name, m.type, m.nullable, none, k⟩, s)

/-- Classifies the types of members in order. Members that cannot be edited stay in the list. -/
def resolveMembers (catalog : Catalog) (classifier : Classifier) :
    List Member → Survey → List (ResolvedMember Classification) × Survey
  | [], s => ([], s)
  | m :: ms, s =>
    let (r, s) := resolveMember catalog classifier m s
    let (rs, s) := resolveMembers catalog classifier ms s
    (r :: rs, s)

/-- Why a variant makes its sum unfit, if it does: it is neither a product nor a singleton. -/
def variantRefusal? (owner variant : String) : Classification → Option Refusal
  | .product .. | .singleton _ => none
  | .unsupported reason => some (.variantRefused variant owner reason)
  | k => some (.variantKind variant owner k.kindName)

/-- Classifies variants in order, up to the first one that makes the sum unfit. -/
def resolveVariants (classifier : Classifier) (owner : String) :
    List Descriptor → Survey → Except Refusal (List (ResolvedVariant Classification)) × Survey
  | [], s => (.ok [], s)
  | v :: vs, s =>
    let (k, s) := classifier .variant v s
    match variantRefusal? owner v.simpleName k with
    | some reason => (.error reason, s)
    | none =>
      match resolveVariants classifier owner vs s with
      | (.ok rs, s) => (.ok (⟨v.simpleName, v.name, k⟩ :: rs), s)
      | (.error reason, s) => (.error reason, s)

/-- Classifies what a shape holds. -/
def expand (catalog : Catalog) (classifier : Classifier) (name : String) (shape : Shape)
    (s : Survey) : Classification × Survey :=
  match shape with
  | .primitive kind => (.primitive kind, s)
  | .enumeration entries => (.enumeration entries, s)
  | .singleton valueless => (.singleton valueless, s)
  | .product style members =>
    let (ms, s) := resolveMembers catalog classifier members s
    (.product style ms, s)
  | .sum variants =>
    match resolveVariants classifier name variants s with
    | (.ok vs, s) => (.sum vs, s)
    | (.error reason, s) => (.unsupported reason, s)
  | .external factory => (.external factory, s)
  | .unsupported reason => (.unsupported reason, s)

/-- Classifies a descriptor with at most `depth` types nested in one another. -/
def classifyWithin (catalog : Catalog) : Nat → Classifier
  | 0, _, d, s => (.unsupported (.tooDeep d.name), s)
  | depth + 1, standing, d, s =>
    match s.memoized d.name with
    | some done => (done, s)
    | none =>
      if s.inProgress.contains d.name then s.closeLoop d.name
      else
        let (k, s) := expand catalog (classifyWithin catalog depth) d.name (d.shape standing)
          (s.enter d.name)
        s.leave d.name k

end Survey

mutual

/-- The names of a descriptor and of its variants at every depth. -/
def Descriptor.names : Descriptor → List String
  | .sum name variants _ => name :: variantNames variants
  | .primitive p => [p.name]
  | .enumeration name _ => [name]
  | .singleton name _ => [name]
  | .product name _ => [name]
  | .sealed name => [name]
  | .external name _ => [name]

/-- The names of variants at every depth. -/
def variantNames : List Descriptor → List String
  | [] => []
  | v :: vs => v.names ++ variantNames vs

end

namespace Survey

/-- A depth that no classification of `d` exceeds: the types in progress have different names,
each of the catalog's or of the descriptor's, and one more call meets a name again. -/
def depthBound (catalog : Catalog) (d : Descriptor) : Nat :=
  (variantNames catalog.types).length + d.names.length + 1

/-- Classifies a descriptor. -/
def classifyAs (catalog : Catalog) (standing : Standing) (d : Descriptor) (s : Survey) :
    Classification × Survey :=
  classifyWithin catalog (depthBound catalog d) standing d s

/-- Classifies a type that stands by itself. -/
def classify (catalog : Catalog) (d : Descriptor) (s : Survey) : Classification × Survey :=
  classifyAs catalog .topLevel d s

/-- Classifies a type that stands as a variant of a sum. -/
def classifyVariant (catalog : Catalog) (d : Descriptor) (s : Survey) : Classification × Survey :=
  classifyAs catalog .variant d s

/-- Classifies what a name means in the catalog; an unknown name is refused and not remembered. -/
def classifyName (catalog : Catalog) (name : String) (s : Survey) : Classification × Survey :=
  classifyNameWith catalog (classifyAs catalog) name s

/-- One line for each of the types, in order. -/
def report (catalog : Catalog) : List Descriptor → Survey → List String × Survey
  | [], s => ([], s)
  | d :: ds, s =>
    let (k, s) := classify catalog d s
    let (lines, s) := report catalog ds s
    ((d.name ++ ": " ++ k.text) :: lines, s)

end Survey

/-- Classifies a descriptor and all it refers to, with nothing remembered before. -/
def Catalog.classify (catalog : Catalog) (d : Descriptor) : Classification :=
  (Survey.fresh.classify catalog d).1

end EditableFields
