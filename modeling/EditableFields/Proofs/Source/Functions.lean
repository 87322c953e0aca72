import EditableFields.Proofs.Character
import EditableFields.Proofs.Planning.Reordering
import EditableFields.Proofs.Schema.WellFormed
import EditableFields.Proofs.Source.Lines

/-!
# Source: functions of entry points

What may be declared as a function is a word that is no keyword, or a keyword written as a raw
identifier (`Name.IsFunction`). An underscore alone is neither. A function that a request names in
ASCII is a word if the schema is valid, and escaping does the rest (`Name.isFunction_escape_iff`),
but an underscore alone passes as an identifier. So the function of an entry point can be declared
exactly if it is not called that (`Planning.generate_functions_iff`). A schema that calls it that is
valid, and its code is generated (`Planning.exists_function_not_declarable`).
-/

namespace EditableFields

/-! ## Names that functions may have -/

namespace Name

/-- Letters, digits and underscores, with no digit first. -/
def IsPlainWord (s : String) : Prop :=
  ∃ first rest, s.toList = first :: rest ∧ (first.isAlpha ∨ first = '_') ∧
    ∀ c ∈ rest, c.isAlphanum ∨ c = '_'

/-- What the generated language takes for the name of a function: a word that is neither a keyword
nor an underscore alone, or a keyword in its raw form, if it has one. -/
def IsFunction (s : String) : Prop :=
  (IsPlainWord s ∧ s ≠ "_" ∧ isKeyword s = false) ∨
    ∃ k ∈ rawKeywords, IsPlainWord k ∧ s = "r#" ++ k

theorem IsPlainWord.append_underscore {s : String} (h : IsPlainWord s) :
    IsPlainWord (s ++ "_") := by
  obtain ⟨first, rest, hs, hfirst, hrest⟩ := h
  refine ⟨first, rest ++ ['_'], by rw [String.toList_append, hs]; rfl, hfirst, ?_⟩
  exact List.forall_mem_append.2 ⟨hrest, List.forall_mem_singleton.2 (.inr rfl)⟩

theorem raw_ne_underscore (k : String) : "r#" ++ k ≠ "_" := by
  intro h
  have hhead := congrArg (fun s => s.toList.head?) h
  simp at hhead

/-- A word is escaped to a name that a function may have, if it is not an underscore alone. -/
theorem isFunction_escape_iff {s : String} (h : IsPlainWord s) :
    IsFunction (escape s) ↔ s ≠ "_" := by
  unfold escape
  split_ifs with hreserved hraw
  · -- A keyword that has no raw form is no keyword with an underscore behind it.
    have reserved : ∀ k ∈ reservedKeywords,
        k ++ "_" ≠ "_" ∧ isKeyword (k ++ "_") = false ∧ k ≠ "_" := by
      decide +kernel
    obtain ⟨hne, hkeyword, hs⟩ := reserved s (List.contains_iff_mem.1 hreserved)
    exact ⟨fun _ => hs, fun _ => .inl ⟨h.append_underscore, hne, hkeyword⟩⟩
  · have keywords : ∀ k ∈ rawKeywords, k ≠ "_" := by decide +kernel
    have hs := List.contains_iff_mem.1 hraw
    exact ⟨fun _ => keywords s hs, fun _ => .inr ⟨s, hs, h, rfl⟩⟩
  · have hkeyword : isKeyword s = false := by
      rw [isKeyword, Bool.or_eq_false_iff]
      exact ⟨Bool.eq_false_iff.2 hraw, Bool.eq_false_iff.2 hreserved⟩
    constructor
    · rintro (⟨-, hs, -⟩ | ⟨k, -, -, rfl⟩)
      · exact hs
      · exact raw_ne_underscore k
    · exact fun hs => .inl ⟨h, hs, hkeyword⟩

end Name

/-- An explicit name is escaped, whatever else is named. -/
theorem NameCase.function_entryName (case : NameCase) (type f : String) (autoLabel : Bool) :
    (case.entryName type (some f) autoLabel).function = Name.escape f := rfl

/-- An identifier in ASCII is a word. -/
theorem Identifier.isPlainWord {f : String} (h : Identifier f)
    (hascii : ∀ c ∈ f.toList, c.toNat < 128) : Name.IsPlainWord f := by
  obtain ⟨first, rest, hf, hfirst, hrest⟩ := h
  rw [hf, List.forall_mem_cons] at hascii
  refine ⟨first, rest, hf, ?_, fun c hc => ?_⟩
  · rwa [Text.isAlphabetic, if_pos hascii.1] at hfirst
  · have hletter := hrest c hc
    rwa [Text.isAlphanumeric, Text.isAlphabetic, Text.isNumeric, if_pos (hascii.2 c hc),
      if_pos (hascii.2 c hc)] at hletter

/-- The functions that a valid schema names are identifiers. -/
theorem Schema.identifier_of_check {s : Schema} {ds : List Descriptor}
    (hs : s.catalog = .ofList ds) (valid : s.check = .ok ()) {r : Request} (hr : r ∈ s.requests)
    {f : String} (hf : r.function = some f) : Identifier f := by
  unfold Schema.check at valid
  split at valid
  · cases valid
  · rw [hs] at valid
    exact (checkRequests_eq_ok_iff.1 valid r hr).function_named f hf

/-! ## Functions that are written -/

/-- A text of generated code declares a public function of a name. -/
def DeclaresFunction (text name : String) : Prop :=
  ("pub fn " ++ name ++ "(").toList <:+: text.toList

theorem declaresFunction_renderLines {indent : Nat} {name rest : String} {ls : List Line}
    (h : .code indent ("pub fn " ++ name ++ "(" ++ rest) ∈ ls) (docs : Bool) :
    DeclaresFunction (renderLines docs ls) name := by
  refine List.IsInfix.trans ?_ (code_infix_renderLines h docs)
  exact ⟨[], rest.toList ++ ['\n'], by simp⟩

/-- Where the function of an entry point stands among the lines about it. -/
theorem Entry.exists_function_mem_lines (c : Configuration) (e : Entry) :
    ∃ indent rest, .code indent ("pub fn " ++ e.name.function ++ "(" ++ rest) ∈ e.lines c := by
  have written (indent : Nat) : ∃ rest,
      .code indent ("pub fn " ++ e.name.function ++ "(" ++ rest) ∈ e.functionLines c indent := by
    refine ⟨e.factoryParameter c ++ e.labelParameter ++ ", initial_value: " ++ e.value.text ++
      ") -> " ++ e.factoryPath c ++ "::Field \x7b", ?_⟩
    simp [Entry.functionLines, String.append_assoc]
  unfold Entry.lines
  cases e.directive with
  | field => exact ⟨0, written 0⟩
  | factory =>
    obtain ⟨rest, hrest⟩ := written 1
    exact ⟨1, rest, List.mem_append_left _ (List.mem_append_right _ hrest)⟩

namespace Planning

variable {ds : List Descriptor} {c : Configuration} {requests : List Request}

theorem EntryFor.name_eq {catalog : Catalog} {t : Planning} {r : Request} {e : Entry}
    (h : EntryFor catalog c t r e) :
    e.name = c.nameCase.entryName r.type r.function r.autoLabel := by
  cases h <;> rfl

/-- For each request, a function of its name is declared. -/
theorem generate_declaresFunction {text : String}
    (h : (Catalog.ofList ds).generate c requests = .ok text) {r : Request} (hr : r ∈ requests) :
    DeclaresFunction text (c.nameCase.entryName r.type r.function r.autoLabel).function := by
  obtain ⟨t, ht, htext⟩ := bind_eq_ok.1 h
  cases htext
  have recorded := (answered_fresh (.ofList ds) c).recorded_requests .nil ht
  obtain ⟨e, he, hentry⟩ := exists_right_of_forall₂ recorded hr
  obtain ⟨indent, rest, hline⟩ := e.exists_function_mem_lines c
  have written : .code indent ("pub fn " ++ e.name.function ++ "(" ++ rest) ∈ t.lines c :=
    List.mem_append_right _ (List.mem_flatMap.2 ⟨e, he, List.mem_cons_of_mem _ hline⟩)
  rw [← hentry.name_eq]
  exact declaresFunction_renderLines written c.docs

/-- The function that a request of a valid schema names in ASCII gets a name that a function may
have, in whatever case others are named, exactly if it is not called an underscore alone. The name
that it gets is the one that is generated. -/
theorem generate_functions_iff {s : Schema} (hs : s.catalog = .ofList ds)
    (valid : s.check = .ok ()) {r : Request} (hr : r ∈ s.requests) {f : String}
    (hf : r.function = some f) (hascii : ∀ c ∈ f.toList, c.toNat < 128) :
    (∀ (case : NameCase) (autoLabel : Bool),
        Name.IsFunction (case.entryName r.type r.function autoLabel).function ↔ f ≠ "_") ∧
      ∀ c text, s.catalog.generate c s.requests = .ok text →
        DeclaresFunction text (c.nameCase.entryName r.type r.function r.autoLabel).function := by
  constructor
  · intro case autoLabel
    rw [hf, NameCase.function_entryName]
    exact Name.isFunction_escape_iff
      ((Schema.identifier_of_check hs valid hr hf).isPlainWord hascii)
  · intro c text h
    rw [hs] at h
    exact generate_declaresFunction h hr

/-- A request for a number, by the name of a function. -/
def counter (function : String) : Request :=
  { Request.plain .field "i32" with function := some function }

/-- A schema that requests numbers, by names of functions. -/
def counters (functions : List String) : Schema :=
  { Schema.empty "" with catalog := .ofList [], requests := functions.map counter }

/-- A keyword is generated in its raw form. -/
theorem generate_functions_iff_keyword :
    (counters ["count", "type", "self", "_0"]).check = .ok () ∧
      counter "type" ∈ (counters ["count", "type", "self", "_0"]).requests ∧
      (∀ c ∈ "type".toList, c.toNat < 128) ∧ Name.IsFunction "r#type" ∧
      ∃ text, (counters ["count", "type", "self", "_0"]).catalog.generate .standard
          (counters ["count", "type", "self", "_0"]).requests = .ok text ∧
        DeclaresFunction text "r#type" := by
  have valid : (counters ["count", "type", "self", "_0"]).check = .ok () := by decide +kernel
  have hr : counter "type" ∈ (counters ["count", "type", "self", "_0"]).requests := by
    simp [counters]
  have ascii : ∀ c ∈ "type".toList, c.toNat < 128 := Text.forall_mem_of_all (by decide)
  have generated : ((counters ["count", "type", "self", "_0"]).catalog.generate .standard
      (counters ["count", "type", "self", "_0"]).requests).isOk := by decide +kernel
  have escaped : Name.escape "type" = "r#type" := by decide +kernel
  obtain ⟨text, htext⟩ := exists_eq_ok_of_isOk generated
  obtain ⟨hiff, hdeclares⟩ := generate_functions_iff rfl valid hr rfl ascii
  have legal := (hiff .snake true).2 (by decide)
  have declared := hdeclares .standard text htext
  rw [counter, NameCase.function_entryName, escaped] at legal declared
  exact ⟨valid, hr, ascii, legal, text, htext, declared⟩

/-- A schema that calls a function an underscore alone is valid, and the function is generated by
that name, which no function can have. -/
theorem exists_function_not_declarable :
    (counters ["_"]).check = .ok () ∧ counter "_" ∈ (counters ["_"]).requests ∧
      (∀ c ∈ "_".toList, c.toNat < 128) ∧
      (NameCase.snake.entryName "i32" (some "_") true).function = "_" ∧ ¬ Name.IsFunction "_" ∧
      ∃ text, (counters ["_"]).catalog.generate .standard (counters ["_"]).requests = .ok text ∧
        DeclaresFunction text "_" := by
  have word : Name.IsPlainWord "_" := ⟨'_', [], rfl, .inr rfl, nofun⟩
  have hr : counter "_" ∈ (counters ["_"]).requests := by simp [counters]
  have generated : ((counters ["_"]).catalog.generate .standard
      (counters ["_"]).requests).isOk := by decide +kernel
  have escaped : Name.escape "_" = "_" := by decide +kernel
  have illegal : ¬ Name.IsFunction (Name.escape "_") := by
    rw [Name.isFunction_escape_iff word]
    exact fun h => h rfl
  obtain ⟨text, htext⟩ := exists_eq_ok_of_isOk generated
  have declared := generate_declaresFunction htext hr
  rw [counter, NameCase.function_entryName, escaped] at declared
  rw [escaped] at illegal
  have ascii : ∀ c ∈ "_".toList, c.toNat < 128 := Text.forall_mem_of_all (by decide)
  refine ⟨by decide +kernel, hr, ascii, ?_, illegal, text, htext, declared⟩
  rw [NameCase.function_entryName, escaped]

end Planning

end EditableFields
