import EditableFields.Factory.Plan
import EditableFields.Survey

/-!
# Planning of factories

Planning takes requests in order and collects what has to be generated: the plans of all factories
that the requests need, in order of first visit, owners before what they are made of, and one
entry point for each request. A type that is needed again is not planned again. Names of factories
and of functions are claimed, so that none is generated twice.
-/

namespace EditableFields

/-- Why nothing can be generated. -/
inductive GenerationError where
  | unknownType (type : String)
  | unsupported (type : String) (reason : Refusal)
  | unsupportedMember (owner member : String) (reason : Refusal)
  | missingCompanion (type : String)
  | notFactoryTarget (type kind : String)
  | functionTwice (name scope : String)
  | factoryTwice (name first second : String)
  | heldTwice (field owner first second : String)
  | notPlannable (type kind : String)
  | variantNotPlannable (variant owner kind : String)
deriving DecidableEq, Repr

def GenerationError.message : GenerationError → String
  | unknownType type => "unknown type '" ++ type ++ "'"
  | unsupported type reason => "type '" ++ type ++ "' is unsupported: " ++ reason.message
  | unsupportedMember owner member reason =>
    "member '" ++ member ++ "' of '" ++ owner ++ "' is unsupported: " ++ reason.message
  | missingCompanion type =>
    "type '" ++ type ++ "' has no companion slot to attach a factory to"
  | notFactoryTarget type kind =>
    "type '" ++ type ++ "' is a " ++ kind ++ ", factories need a product or sum"
  | functionTwice name scope =>
    "generation error: function '" ++ name ++ "' is generated twice in " ++
      if scope = "" then "module" else scope
  | factoryTwice name first second =>
    "generation error: factory name '" ++ name ++ "' is derived from both '" ++ first ++
      "' and '" ++ second ++ "'"
  | heldTwice field owner first second =>
    "generation error: field '" ++ field ++ "' of " ++ owner ++ " is needed as both " ++ first ++
      " and " ++ second
  | notPlannable type kind =>
    "generation error: type '" ++ type ++ "' is " ++ kind ++ ", expected product or sum"
  | variantNotPlannable variant owner kind =>
    "generation error: variant " ++ variant ++ " of " ++ owner ++ " is " ++ kind ++
      ", expected product or singleton"

/-- What planning has collected so far. -/
structure Planning where
  survey : Survey
  /-- Finished plans by key, the latest first. -/
  plans : List (String × Plan)
  /-- Keys in order of first visit. -/
  order : List String
  /-- The key that each factory name was claimed for. -/
  names : List (String × String)
  /-- Claimed functions, each with the type it is attached to, or with nothing. -/
  functions : List (String × String)
  /-- Entry points in order of request. -/
  entries : List Entry
deriving Repr

/-- The default value of a type as a member holds it, optional or not. -/
def valueDefault (type : String) (wrapper : Option ValueWrapper) (k : Classification) : String :=
  match wrapper with
  | some w => construct type w.style [(Name.escape w.member, w.primitive.defaultExpr)]
  | none =>
    match k with
    | .primitive kind => kind.defaultExpr
    | .enumeration (first :: _) => type ++ "::" ++ first
    | .singleton true => type
    | .singleton false => type ++ " \x7b\x7d"
    | _ => derivedDefault type

/-- The default value of a member. -/
def memberDefault (m : ResolvedMember Classification) : String :=
  if m.nullable then "None" else valueDefault m.type m.wrapper m.classification

/-- Type of the values that a member holds. -/
def ResolvedMember.value (m : ResolvedMember κ) : ValueType :=
  if m.nullable then .optional m.type else .plain m.type

/-- Plans a member whose factory is known. -/
def MemberPlan.of (m : ResolvedMember Classification) (factory : ChildFactory) : MemberPlan :=
  ⟨m.name, Name.escape m.name, Name.accessor m.name, m.value, factory, memberDefault m⟩

/-- Adds what a child needs held to what its owner holds. Children that need the same share it;
the same name for two types is refused. -/
def hold (c : Configuration) (owner : String) (held : List HeldFactory) (child : ChildFactory) :
    Except GenerationError (List HeldFactory) :=
  match child.held? with
  | none => .ok held
  | some h =>
    match held.find? (·.name == h.name) with
    | none => .ok (held ++ [h])
    | some first =>
      if first.type = h.type then .ok held
      else .error (.heldTwice h.name owner (first.type.text c) (h.type.text c))

/-- The factory of a child that is edited by a planned factory. -/
def Plan.child (p : Plan) (field : String) (receiver : Receiver) : ChildFactory :=
  if p.held.isEmpty then .unit p.name
  else .held receiver ⟨Name.escape field, .generated p.name, .nested p.key⟩

/-- The factory of a member that cannot be edited: the caller's, if that is tolerated. -/
def obligation (c : Configuration) (owner member type : String) (reason : Refusal) :
    Except GenerationError ChildFactory :=
  if c.tolerant then
    .ok (.held .own ⟨Name.obligation member, .shared type, .obligation member reason⟩)
  else .error (.unsupportedMember owner member reason)

namespace Planning

/-- Nothing collected yet. -/
def fresh : Planning := ⟨.fresh, [], [], [], [], []⟩

/-- Claims a factory name for a key. -/
def claimName (s : Planning) (name key : String) : Except GenerationError Planning :=
  match s.names.lookup name with
  | some first => if first = key then .ok s else .error (.factoryTwice name first key)
  | none => .ok { s with names := (name, key) :: s.names }

/-- Claims a function in a scope: a type it is attached to, or nothing. -/
def claimFunction (s : Planning) (scope name : String) : Except GenerationError Planning :=
  if s.functions.contains (scope, name) then .error (.functionTwice name scope)
  else .ok { s with functions := (scope, name) :: s.functions }

/-- Starts the plan of a factory. -/
def start (s : Planning) (name key : String) : Except GenerationError Planning := do
  let s ← s.claimName name key
  return { s with order := s.order ++ [key] }

/-- Finishes a plan. -/
def finish (s : Planning) (p : Plan) : Plan × Planning :=
  (p, { s with plans := (p.key, p) :: s.plans })

mutual

/-- The plan of a type that is classified as a product or a sum. -/
def planType (c : Configuration) (type : String) (k : Classification) (s : Planning) :
    Except GenerationError (Plan × Planning) :=
  match s.plans.lookup type with
  | some p => .ok (p, s)
  | none =>
    match k with
    | .product style members => do
      let name := Name.factoryType type
      let s ← s.start name type
      let (ms, held, s) ← planMembers c type name members [] s
      return s.finish ⟨type, name, type, .product type style ms .topLevel, held⟩
    | .sum variants => do
      let name := Name.factoryType type
      let s ← s.start name type
      let (vs, held, s) ← planVariants c type name variants [] s
      return s.finish ⟨type, name, type, .sum vs, held⟩
    | other => .error (.notPlannable type other.kindName)

/-- The factory of a member of `owner`. -/
def memberFactory (c : Configuration) (owner : String) (receiver : Receiver)
    (m : ResolvedMember Classification) (s : Planning) :
    Except GenerationError (ChildFactory × Planning) :=
  match m with
  | ⟨name, type, nullable, wrapper, k⟩ => do
    let (base, s) ← match wrapper with
      | some w => .ok (ChildFactory.wrapper type w, s)
      | none =>
        match k with
        | .primitive kind => .ok (.leaf kind, s)
        | .enumeration entries => .ok (.choice type entries, s)
        | .singleton _ => .ok (.fixed, s)
        | .external path => .ok (.external path, s)
        | .unsupported reason => do
          let f ← obligation c owner name type reason
          pure (f, s)
        | k => do
          let (p, s) ← planType c type k s
          pure (p.child (Name.snake (Name.simple type)) receiver, s)
    if nullable then return (.optional base type (valueDefault type wrapper k), s)
    else return (base, s)

/-- The members of the product `owner`, whose factory is `name`, and what the factory holds for
them besides `held`. -/
def planMembers (c : Configuration) (owner name : String)
    (members : List (ResolvedMember Classification)) (held : List HeldFactory) (s : Planning) :
    Except GenerationError (List MemberPlan × List HeldFactory × Planning) :=
  match members with
  | [] => .ok ([], held, s)
  | m :: ms => do
    let (factory, s) ← memberFactory c owner .own m s
    let held ← hold c name held factory
    let (ps, held, s) ← planMembers c owner name ms held s
    return (.of m factory :: ps, held, s)

/-- The variants of the sum `owner`, whose factory is `name`, and what the factory holds for them
besides `held`. -/
def planVariants (c : Configuration) (owner name : String)
    (variants : List (ResolvedVariant Classification)) (held : List HeldFactory) (s : Planning) :
    Except GenerationError (List VariantPlan × List HeldFactory × Planning) :=
  match variants with
  | [] => .ok ([], held, s)
  | ⟨tag, type, .singleton valueless⟩ :: vs => do
    let v : VariantPlan :=
      if valueless then ⟨tag, type, .path, type, .fixed, none⟩
      else ⟨tag, type, .marker, type ++ " \x7b\x7d", .fixed, none⟩
    let (ps, held, s) ← planVariants c owner name vs held s
    return (v :: ps, held, s)
  | ⟨tag, type, .product style members⟩ :: vs => do
    let (p, s) ← match s.plans.lookup type with
      | some p => .ok (p, s)
      | none => do
        let variantName := Name.variantFactoryType owner type
        let s ← s.start variantName type
        let (ms, held, s) ← planMembers c type variantName members [] s
        pure <| s.finish ⟨type, variantName, owner, .product type style ms .variant, held⟩
    let factory := p.child (Name.snake tag) .own
    let held ← hold c name held factory
    let form := match style with
      | .named => VariantForm.named
      | .positional => .positional
    let v : VariantPlan :=
      ⟨tag, type, form, construct type style p.body.memberDefaults, factory,
        some (Name.accessor tag)⟩
    let (ps, held, s) ← planVariants c owner name vs held s
    return (v :: ps, held, s)
  | ⟨tag, _, k⟩ :: _ => .error (.variantNotPlannable tag owner k.kindName)

end

/-- Whether functions can be attached to a product or sum; a factory for any other type is
refused. -/
def companionOf (type : String) : Descriptor → Except GenerationError Bool
  | .product _ content => .ok content.companion
  | .sum _ _ companion => .ok companion
  | d => .error (.notFactoryTarget type d.kindName)

/-- Adds an entry point at the end. -/
def addEntry (s : Planning) (e : Entry) : Planning :=
  { s with entries := s.entries ++ [e] }

/-- Plans a function attached to its subject. -/
def planFactory (c : Configuration) (catalog : Catalog) (r : Request) (d : Descriptor)
    (s : Planning) : Except GenerationError Planning := do
  let companion ← companionOf r.type d
  if !companion then .error (.missingCompanion r.type)
  else
    let (k, survey) := s.survey.classify catalog d
    match k with
    | .unsupported reason => .error (.unsupported r.type reason)
    | k =>
      let (p, s) ← planType c r.type k { s with survey }
      let name := c.nameCase.entryName r.type r.function r.autoLabel
      let s ← s.claimFunction r.type name.function
      return s.addEntry ⟨.factory, r.type, name, .plain r.type,
        p.child (Name.snake (Name.simple r.type)) .parameter⟩

/-- What a request for a field asks to edit: a value wrapper stands for its primitive. -/
def subjectOf (catalog : Catalog) (r : Request) (d : Descriptor) (survey : Survey) :
    ResolvedMember Classification × Survey :=
  match d.valueWrapper? with
  | some w => (⟨Name.simple r.type, r.type, r.nullable, some w, .primitive w.primitive⟩, survey)
  | none =>
    let (k, survey) := survey.classify catalog d
    (⟨Name.simple r.type, r.type, r.nullable, none, k⟩, survey)

/-- Plans a function of the module. -/
def planField (c : Configuration) (catalog : Catalog) (r : Request) (d : Descriptor)
    (s : Planning) : Except GenerationError Planning :=
  let (m, survey) := subjectOf catalog r d s.survey
  match m.classification with
  | .unsupported reason => .error (.unsupported r.type reason)
  | _ => do
    let name := c.nameCase.entryName r.type r.function r.autoLabel
    let s ← claimFunction { s with survey } "" name.function
    let (factory, s) ← memberFactory c r.type .parameter m s
    return s.addEntry ⟨.field, r.type, name, m.value, factory⟩

/-- Plans one request. -/
def planRequest (c : Configuration) (catalog : Catalog) (r : Request) (s : Planning) :
    Except GenerationError Planning :=
  match catalog.get? r.type with
  | none => .error (.unknownType r.type)
  | some d =>
    match r.directive with
    | .factory => planFactory c catalog r d s
    | .field => planField c catalog r d s

/-- Plans requests in order, up to the first that fails. -/
def planRequests (c : Configuration) (catalog : Catalog) :
    List Request → Planning → Except GenerationError Planning
  | [], s => .ok s
  | r :: rs, s => do
    let s ← planRequest c catalog r s
    planRequests c catalog rs s

/-- The plans to generate, in order of first visit. -/
def inOrder (s : Planning) : List Plan :=
  s.order.filterMap fun key => s.plans.lookup key

end Planning

end EditableFields
