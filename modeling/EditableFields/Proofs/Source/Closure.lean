import EditableFields.Factory.Source
import EditableFields.Proofs.Schema.Validity
import Mathlib.Data.List.Nodup
import Mathlib.Data.List.Zip

/-!
# Closures of generated code

The factory of a product hands two closures to the runtime library: one that combines the values of
members to a value of the product, and one that splits it again. Here the two have a syntax, which
the lines of generated code are the text of (`implementation_closures`), and a meaning on abstract
values. They undo each other (`Inverse`) if no two members have one access and positions are
numbered in order (`inverse_closures`).
-/

namespace EditableFields

/-! ## Values -/

/-- What a value of a product holds: values by access, or values in order. -/
inductive Content (V : Type) where
  | named (fields : String → Option V)
  | positional (items : List V)

/-- A value as its constructor makes it. -/
structure Instance (V : Type) where
  constructor : String
  content : Content V

namespace Content

variable {V : Type}

/-- The content that a constructor call gives; it must not give one field twice. -/
def build? (accesses : List String) (values : List V) : ConstructorStyle → Option (Content V)
  | .named =>
    if accesses.Nodup then some (named fun access => (accesses.zip values).lookup access) else none
  | .positional => some (positional values)

/-- Reads a field. The fields of a positional constructor are accessed by their numbers. -/
def read? : Content V → String → Option V
  | named fields, access => fields access
  | positional items, access => (((List.range items.length).map toString).zip items).lookup access

/-- The values that the pattern of a constructor meets, in the order of the pattern. -/
def match? (accesses : List String) : ConstructorStyle → Content V → Option (List V)
  | .named, named fields => if accesses.Nodup then accesses.mapM fields else none
  | .positional, positional items => some items
  | _, _ => none

end Content

/-- The values of a product: for each access one value and no other, or as many as there are
accesses. -/
inductive Instance.Of {V : Type} (constructor : String) (accesses : List String) :
    ConstructorStyle → Instance V → Prop
  | named {fields} : (∀ access, (fields access).isSome ↔ access ∈ accesses) →
      Instance.Of constructor accesses .named ⟨constructor, .named fields⟩
  | positional {items} : items.length = accesses.length →
      Instance.Of constructor accesses .positional ⟨constructor, .positional items⟩

/-! ## Closures -/

/-- Binds variables to values; no variable may be bound twice. -/
def bindAll? {V : Type} (names : List String) (values : List V) : Option (List (String × V)) :=
  if names.Nodup ∧ names.length = values.length then some (names.zip values) else none

/-- A closure that calls a constructor: for each access a variable is given. -/
structure Combiner where
  parameters : List String
  constructor : String
  style : ConstructorStyle
  parts : List (String × String)

/-- A closure that takes a value apart. -/
inductive Splitter where
  /-- It reads fields. -/
  | reading (accesses : List String)
  /-- It matches the value with the pattern of a constructor, which binds variables; any other
  value gives default values. -/
  | matching (constructor : String) (style : ConstructorStyle) (parts : List (String × String))
      (results defaults : List String)

namespace Combiner

/-- The line of generated code. -/
def line (f : Combiner) : Line :=
  .code 3 ("|" ++ String.intercalate ", " f.parameters ++ "| " ++
    construct f.constructor f.style f.parts ++ ",")

/-- What a call of the closure gives. -/
def eval {V : Type} (f : Combiner) (arguments : List V) : Option (Instance V) := do
  let scope ← bindAll? f.parameters arguments
  let values ← (f.parts.map Prod.snd).mapM fun name => scope.lookup name
  let content ← Content.build? (f.parts.map Prod.fst) values f.style
  return ⟨f.constructor, content⟩

end Combiner

namespace Splitter

/-- The lines of generated code, for values of a type. -/
def lines (value : String) : Splitter → List Line
  | reading accesses =>
    let reads := accesses.map fun access => "value." ++ access ++ ".clone()"
    [.code 3 ("|value: &" ++ value ++ "| " ++ tuple reads ++ ",")]
  | matching constructor style parts results defaults =>
    [ .code 3 ("|value: &" ++ value ++ "| match value \x7b"),
      .code 4 (construct constructor style parts ++ " => " ++
        tuple (results.map (· ++ ".clone()")) ++ ","),
      .code 4 ("_ => " ++ tuple defaults ++ ","),
      .code 3 "\x7d," ]

/-- What a call of the closure gives, where `meaning` is what expressions for default values
mean. -/
def eval {V : Type} (meaning : String → V) (value : Instance V) : Splitter → Option (List V)
  | reading accesses => accesses.mapM value.content.read?
  | matching constructor style parts results defaults =>
    if value.constructor = constructor then do
      let values ← value.content.match? (parts.map Prod.fst) style
      let scope ← bindAll? (parts.map Prod.snd) values
      results.mapM fun name => scope.lookup name
    else some (defaults.map meaning)

end Splitter

namespace MemberPlan

/-- The closure that combines the values of members. -/
def combiner (constructor : String) (style : ConstructorStyle) (ms : List MemberPlan) : Combiner :=
  ⟨bindings ms, constructor, style, parts ms⟩

/-- The closure that splits a product, or a value of a sum that is to be a variant. -/
def splitter (constructor : String) (style : ConstructorStyle) (ms : List MemberPlan) :
    Standing → Splitter
  | .topLevel => .reading (ms.map (·.access))
  | .variant => .matching constructor style (parts ms) (bindings ms) (ms.map (·.default))

end MemberPlan

/-- The implementation of a product's factory contains the two closures, one after the other. -/
theorem Plan.implementation_closures (c : Configuration) {p : Plan} {constructor : String}
    {style : ConstructorStyle} {ms : List MemberPlan} {standing : Standing}
    (h : p.body = .product constructor style ms standing) :
    ∃ head, p.implementation c = head ++ [(MemberPlan.combiner constructor style ms).line] ++
      (MemberPlan.splitter constructor style ms standing).lines p.value ++
      [.code 2 ")", .code 1 "\x7d", .code 0 "\x7d"] := by
  -- The combining closure is the last of the lines before the splitting one.
  have before : ∀ (head rest : List Line) (allow create new label initial labels factories
      combine : Line), head ++ [allow, create, new, label, initial, labels, factories, combine] ++
        rest = (head ++ [allow, create, new, label, initial, labels, factories]) ++ [combine] ++
          rest := by
    simp
  rw [Plan.implementation, h]
  unfold Plan.productImplementation
  dsimp only
  rw [before]
  cases standing with
  | topLevel =>
    simp only [MemberPlan.splitter, Splitter.lines, List.map_map]
    exact ⟨_, rfl⟩
  | variant => exact ⟨_, rfl⟩

/-! ## Bindings -/

theorem mapM_eq_some_iff {α V : Type} {f : α → Option V} {xs : List α} {vs : List V} :
    xs.mapM f = some vs ↔ xs.map f = vs.map some := by
  induction xs generalizing vs with
  | nil => cases vs <;> simp
  | cons x xs ih =>
    cases vs with
    | nil => simp [List.mapM_cons, Option.bind_eq_some_iff]
    | cons v vs => simp [List.mapM_cons, Option.bind_eq_some_iff, ih]

/-- What was bound to names is found under the names. -/
theorem map_lookup_zip {V : Type} {xs : List String} {vs : List V} (hnodup : xs.Nodup)
    (hlength : xs.length = vs.length) :
    xs.map (fun x => (xs.zip vs).lookup x) = vs.map some := by
  induction xs generalizing vs with
  | nil => simp [List.eq_nil_of_length_eq_zero hlength.symm]
  | cons x xs ih =>
    cases vs with
    | nil => cases hlength
    | cons v vs =>
      obtain ⟨hx, hnodup⟩ := List.nodup_cons.1 hnodup
      have rest : ∀ y ∈ xs, (((x :: xs).zip (v :: vs)).lookup y) = (xs.zip vs).lookup y := by
        intro y hy
        have hne : y ≠ x := fun h => hx (h ▸ hy)
        rw [List.zip_cons_cons, List.lookup_cons, beq_eq_false_iff_ne.2 hne]
      rw [List.map_cons, List.map_congr_left rest, ih hnodup (Nat.succ.inj hlength)]
      simp

/-- A function is known from what it gives for some names, if it gives nothing for other names. -/
theorem lookup_zip_of_map {V : Type} {f : String → Option V} {xs : List String} {vs : List V}
    (h : xs.map f = vs.map some) (hdomain : ∀ x, (f x).isSome → x ∈ xs) (x : String) :
    (xs.zip vs).lookup x = f x := by
  have found : ∀ {ys : List String} {ws : List V}, ys.map f = ws.map some →
      (ys.zip ws).lookup x = if x ∈ ys then f x else none := by
    intro ys
    induction ys with
    | nil => simp
    | cons y ys ih =>
      intro ws hws
      cases ws with
      | nil => cases hws
      | cons w ws =>
        obtain ⟨hy, hys⟩ := List.cons.inj hws
        rw [List.zip_cons_cons, List.lookup_cons]
        by_cases hx : x = y
        · simp [hx, hy]
        · simp [hx, beq_eq_false_iff_ne.2 hx, ih hys]
  rw [found h]
  split
  · rfl
  · rename_i hx
    exact (Option.not_isSome_iff_eq_none.1 fun hsome => hx (hdomain x hsome)).symm

theorem nodup_bindings (ms : List MemberPlan) : (MemberPlan.bindings ms).Nodup := by
  refine List.nodup_range.map_on fun i _ j _ h => ?_
  exact toString_inj ((String.append_right_inj "m").1 h)

/-! ## Contents -/

/-- A content and the values of a constructor's fields in order, each of which gives the other. -/
structure Content.Holds {V : Type} (accesses : List String) (style : ConstructorStyle)
    (content : Content V) (items : List V) : Prop where
  build : Content.build? accesses items style = some content
  read : accesses.mapM content.read? = some items
  meets : content.match? accesses style = some items
  length_eq : items.length = accesses.length

section Contents

variable {V : Type} {accesses : List String} {style : ConstructorStyle}

theorem Content.holds_named (distinct : accesses.Nodup) {fields : String → Option V}
    {items : List V} (hitems : accesses.map fields = items.map some)
    (hdomain : ∀ access, (fields access).isSome → access ∈ accesses) :
    Content.Holds accesses .named (.named fields) items where
  build := by
    rw [Content.build?, if_pos distinct]
    exact congrArg _ (congrArg _ (funext (lookup_zip_of_map hitems hdomain)))
  read := mapM_eq_some_iff.2 hitems
  meets := by
    rw [Content.match?, if_pos distinct]
    exact mapM_eq_some_iff.2 hitems
  length_eq := by simpa using (congrArg List.length hitems).symm

theorem Content.holds_positional (distinct : accesses.Nodup)
    (numbered : accesses = (List.range accesses.length).map toString) {items : List V}
    (hlength : items.length = accesses.length) :
    Content.Holds accesses .positional (.positional items) items where
  build := rfl
  read := by
    rw [mapM_eq_some_iff]
    have reads : ∀ access, (Content.positional items).read? access =
        (accesses.zip items).lookup access := by
      intro access
      rw [Content.read?, hlength, ← numbered]
    rw [List.map_congr_left fun access _ => reads access]
    exact map_lookup_zip distinct hlength.symm
  meets := rfl
  length_eq := hlength

/-- A value of a product holds some values in order. -/
theorem Instance.Of.holds (distinct : accesses.Nodup)
    (numbered : style = .positional → accesses = (List.range accesses.length).map toString)
    {constructor : String} {value : Instance V}
    (h : Instance.Of constructor accesses style value) :
    value.constructor = constructor ∧
      ∃ items, Content.Holds accesses style value.content items := by
  cases h with
  | @named fields hdomain =>
    refine ⟨rfl, accesses.attach.map fun a => (fields a.1).get ((hdomain a.1).2 a.2), ?_⟩
    refine Content.holds_named distinct ?_ fun access => (hdomain access).1
    simp [Function.comp_def]
  | positional hlength =>
    exact ⟨rfl, _, Content.holds_positional distinct (numbered rfl) hlength⟩

/-- As many values as there are accesses are held by some value of the product. -/
theorem Instance.Of.exists_holds (distinct : accesses.Nodup)
    (numbered : style = .positional → accesses = (List.range accesses.length).map toString)
    (constructor : String) {items : List V} (hlength : items.length = accesses.length) :
    ∃ content, Content.Holds accesses style content items ∧
      Instance.Of constructor accesses style ⟨constructor, content⟩ := by
  cases style with
  | named =>
    have hitems := map_lookup_zip distinct hlength.symm
    have hdomain : ∀ access, ((accesses.zip items).lookup access).isSome ↔ access ∈ accesses := by
      intro access
      have hfst : ((accesses.zip items).map Prod.fst) = accesses :=
        List.map_fst_zip (Nat.le_of_eq hlength.symm)
      rw [List.lookup_isSome_iff]
      conv_rhs => rw [← hfst]
      simp
    exact ⟨_, Content.holds_named distinct hitems fun access => (hdomain access).1, .named hdomain⟩
  | positional =>
    exact ⟨_, Content.holds_positional distinct (numbered rfl) hlength, .positional hlength⟩

end Contents

/-! ## Closures that undo each other -/

/-- Two closures undo each other, on the values of a product and on tuples of values of its
members. -/
structure Inverse (f : Combiner) (g : Splitter) (accesses : List String) : Prop where
  combine_split : ∀ {V : Type} (meaning : String → V) (value : Instance V),
    Instance.Of f.constructor accesses f.style value →
      ∃ items, g.eval meaning value = some items ∧ f.eval items = some value
  split_combine : ∀ {V : Type} (meaning : String → V) (items : List V),
    items.length = accesses.length →
      ∃ value, f.eval items = some value ∧ Instance.Of f.constructor accesses f.style value ∧
        g.eval meaning value = some items

namespace MemberPlan

variable {V : Type} {constructor : String} {style : ConstructorStyle} {ms : List MemberPlan}

theorem length_bindings (ms : List MemberPlan) : (bindings ms).length = ms.length := by
  simp [bindings]

theorem map_fst_parts (ms : List MemberPlan) : (parts ms).map Prod.fst = ms.map (·.access) :=
  List.map_fst_zip (by simp [length_bindings])

theorem map_snd_parts (ms : List MemberPlan) : (parts ms).map Prod.snd = bindings ms :=
  List.map_snd_zip (by simp [length_bindings])

/-- Values that are bound to the names of members are found there again. -/
theorem bindAll?_bindings {items : List V} (hlength : items.length = ms.length) :
    ∃ scope, bindAll? (bindings ms) items = some scope ∧
      (bindings ms).mapM (fun name => scope.lookup name) = some items := by
  have hlength' : (bindings ms).length = items.length := (length_bindings ms).trans hlength.symm
  refine ⟨_, if_pos ⟨nodup_bindings ms, hlength'⟩, ?_⟩
  exact mapM_eq_some_iff.2 (map_lookup_zip (nodup_bindings ms) hlength')

theorem eval_combiner {content : Content V} {items : List V}
    (h : Content.Holds (ms.map (·.access)) style content items) :
    (combiner constructor style ms).eval items = some ⟨constructor, content⟩ := by
  have hlength : items.length = ms.length := h.length_eq.trans (List.length_map _)
  obtain ⟨scope, hscope, hfound⟩ := bindAll?_bindings hlength
  simp [Combiner.eval, combiner, hscope, map_snd_parts, map_fst_parts, hfound, h.build]

theorem eval_splitter {content : Content V} {items : List V}
    (h : Content.Holds (ms.map (·.access)) style content items) (standing : Standing)
    (meaning : String → V) :
    (splitter constructor style ms standing).eval meaning ⟨constructor, content⟩ =
      some items := by
  cases standing with
  | topLevel => exact h.read
  | variant =>
    have hlength : items.length = ms.length := h.length_eq.trans (List.length_map _)
    obtain ⟨scope, hscope, hfound⟩ := bindAll?_bindings hlength
    simp [Splitter.eval, splitter, map_snd_parts, map_fst_parts, h.meets, hscope, hfound]

/-- The closures of a product undo each other if no two members have one access, and positional
members are numbered in order. -/
theorem inverse_closures (constructor : String) (standing : Standing)
    (distinct : (ms.map (·.access)).Nodup)
    (numbered : style = .positional →
      ms.map (·.access) = (List.range (ms.map (·.access)).length).map toString) :
    Inverse (combiner constructor style ms) (splitter constructor style ms standing)
      (ms.map (·.access)) where
  combine_split meaning value hvalue := by
    obtain ⟨hconstructor, items, hholds⟩ := hvalue.holds distinct numbered
    obtain ⟨constructor', content⟩ := value
    obtain rfl : constructor' = constructor := hconstructor
    exact ⟨items, eval_splitter hholds standing meaning, eval_combiner hholds⟩
  split_combine meaning items hlength := by
    obtain ⟨content, hholds, hof⟩ :=
      Instance.Of.exists_holds distinct numbered constructor hlength
    exact ⟨_, eval_combiner hholds, hof, eval_splitter hholds standing meaning⟩

end MemberPlan

end EditableFields
