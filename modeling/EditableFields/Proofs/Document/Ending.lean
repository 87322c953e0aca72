import EditableFields.Proofs.Document.Nesting

/-!
# Documents: end tags at the end

An element that is still open at the end of the events ends there. So end tags behind the last
event change nothing of what is read, and nothing of the error where there is one
(`Schema.ofEvents_append_closings`): each reader reads the same events with and without them, and
leaves the same ones, but for end tags at the end (`Beside`). None of the events that it reads is a
fault, and so there is none in events that make a schema (`Schema.noFault_of_ofEvents`).
-/

namespace EditableFields

open Markup (Event Tag)

theorem Markup.Tag.opening_ne_fault (t : Tag) (isEmpty : Bool) (f : Markup.Fault) :
    t.opening isEmpty ≠ .fault f := by
  cases isEmpty <;> nofun

namespace Document

/-- End tags. -/
def closings (names : List String) : List Event :=
  names.map .close

/-- A reader reads events up to a rest, with no fault among them. -/
def Reads (es rest : List Event) : Prop :=
  ∃ taken, es = taken ++ rest ∧ ∀ f, .fault f ∉ taken

namespace Reads

variable {es mid rest : List Event}

theorem refl (es : List Event) : Reads es es :=
  ⟨[], rfl, fun _ => List.not_mem_nil⟩

theorem trans (h : Reads es mid) (h' : Reads mid rest) : Reads es rest := by
  obtain ⟨taken, rfl, hnone⟩ := h
  obtain ⟨taken', rfl, hnone'⟩ := h'
  refine ⟨taken ++ taken', (List.append_assoc _ _ _).symm, fun f hf => ?_⟩
  rcases List.mem_append.1 hf with hf | hf
  · exact hnone f hf
  · exact hnone' f hf

theorem cons {e : Event} (he : ∀ f, e ≠ .fault f) (h : Reads es rest) : Reads (e :: es) rest := by
  refine trans ⟨[e], rfl, fun f hf => ?_⟩ h
  exact he f (List.mem_singleton.1 hf).symm

theorem closings (names : List String) (n : Nat) :
    Reads (Document.closings names) (Document.closings (names.drop n)) := by
  refine ⟨Document.closings (names.take n), ?_, fun f hf => ?_⟩
  · rw [Document.closings, Document.closings, Document.closings, ← List.map_append,
      List.take_append_drop]
  · obtain ⟨name, -, hname⟩ := List.mem_map.1 hf
    cases hname

theorem length_le (h : Reads es rest) : rest.length ≤ es.length := by
  obtain ⟨taken, rfl, -⟩ := h
  rw [List.length_append]
  exact Nat.le_add_left _ _

end Reads

/-- Reading `es` leaves `rest`, and reading `es'` leaves the same with end tags behind it. -/
structure Beside (es es' rest rest' : List Event) : Prop where
  reads : Reads es rest
  reads' : Reads es' rest'
  closed : ∃ names, rest' = rest ++ closings names

namespace Beside

variable {es es' mid mid' rest rest' : List Event}

theorem refl (es : List Event) (names : List String) :
    Beside es (es ++ closings names) es (es ++ closings names) :=
  ⟨.refl es, .refl _, names, rfl⟩

theorem trans (h : Beside es es' mid mid') (h' : Beside mid mid' rest rest') :
    Beside es es' rest rest' :=
  ⟨h.reads.trans h'.reads, h.reads'.trans h'.reads', h'.closed⟩

theorem cons {e : Event} (he : ∀ f, e ≠ .fault f) (h : Beside es es' rest rest') :
    Beside (e :: es) (e :: es') rest rest' :=
  ⟨h.reads.cons he, h.reads'.cons he, h.closed⟩

/-- At the end of the events, end tags are all that there is. -/
theorem ended (names : List String) (n : Nat) :
    Beside [] (closings names) [] (closings (names.drop n)) :=
  ⟨.refl [], .closings names n, names.drop n, rfl⟩

end Beside

/-- What two readers give is the same, and so is what they leave but for end tags. -/
abbrev Same {α : Type} (es es' : List Event) :
    Except DocumentError (α × List Event) → Except DocumentError (α × List Event) → Prop :=
  Alike (· = ·) fun p q => p.1 = q.1 ∧ Beside es es' p.2 q.2

theorem Same.shift {α : Type} {es es' mid mid' : List Event}
    {x y : Except DocumentError (α × List Event)} (h : Same mid mid' x y)
    (hmid : Beside es es' mid mid') : Same es es' x y :=
  h.mono fun _ _ hpq => ⟨hpq.1, hmid.trans hpq.2⟩

/-! ## Readers -/

theorem skip_closings (depth : Nat) (names : List String) :
    skip depth (closings names) = .ok (closings (names.drop (depth + 1))) := by
  induction names generalizing depth with
  | nil => cases depth <;> rfl
  | cons name names ih =>
    cases depth with
    | zero => rfl
    | succ depth => exact ih depth

theorem skip_beside (depth : Nat) (es : List Event) (names : List String) :
    Alike (· = ·) (Beside es (es ++ closings names)) (skip depth es)
      (skip depth (es ++ closings names)) := by
  induction es generalizing depth with
  | nil =>
    rw [List.nil_append, skip_closings]
    have hnil : skip depth [] = .ok [] := by cases depth <;> rfl
    rw [hnil]
    exact .ok (.ended names (depth + 1))
  | cons e es ih =>
    rw [List.cons_append]
    cases e with
    | start tag => exact (ih (depth + 1)).mono fun _ _ h => h.cons nofun
    | empty tag => exact (ih depth).mono fun _ _ h => h.cons nofun
    | close name =>
      cases depth with
      | zero => exact .ok ((Beside.refl es names).cons nofun)
      | succ depth => exact (ih depth).mono fun _ _ h => h.cons nofun
    | filler sort => exact (ih depth).mono fun _ _ h => h.cons nofun
    | fault f => cases depth <;> exact .error rfl

theorem skipAfter_beside (isEmpty : Bool) (es : List Event) (names : List String) :
    Alike (· = ·) (Beside es (es ++ closings names)) (skipAfter isEmpty es)
      (skipAfter isEmpty (es ++ closings names)) := by
  cases isEmpty with
  | true => exact .ok (.refl es names)
  | false => exact skip_beside 0 es names

section Parts

variable {α : Type} (part : Nat → Tag → Except DocumentError α)

theorem partsWithin_closings {rounds : Nat} (index : Nat) {names : List String}
    (hrounds : (closings names).length ≤ rounds) :
    partsWithin part rounds index (closings names) = .ok ([], closings (names.drop 1)) := by
  cases names with
  | nil => cases rounds <;> rfl
  | cons name names =>
    cases rounds with
    | zero => cases hrounds
    | succ rounds => rfl

theorem partsWithin_beside {rounds rounds' : Nat} (index : Nat) {es : List Event}
    {names : List String} (hrounds : es.length ≤ rounds)
    (hrounds' : (es ++ closings names).length ≤ rounds') :
    Same es (es ++ closings names) (partsWithin part rounds index es)
      (partsWithin part rounds' index (es ++ closings names)) := by
  induction rounds generalizing rounds' index es names with
  | zero =>
    obtain rfl := List.eq_nil_of_length_eq_zero (Nat.le_zero.1 hrounds)
    rw [List.nil_append, partsWithin_closings part index hrounds']
    exact .ok ⟨rfl, .ended names 1⟩
  | succ rounds ih =>
    cases es with
    | nil =>
      rw [List.nil_append, partsWithin_closings part index hrounds']
      exact .ok ⟨rfl, .ended names 1⟩
    | cons e es =>
      obtain ⟨rounds', rfl⟩ := Nat.exists_eq_succ_of_ne_zero (Nat.ne_zero_of_lt hrounds')
      have hes : es.length ≤ rounds := Nat.le_of_succ_le_succ hrounds
      have hes' : (es ++ closings names).length ≤ rounds' := Nat.le_of_succ_le_succ hrounds'
      have taken (tag : Tag) (isEmpty : Bool) :
          Same (tag.opening isEmpty :: es) (tag.opening isEmpty :: (es ++ closings names))
            (partsWithin part (rounds + 1) index (tag.opening isEmpty :: es))
            (partsWithin part (rounds' + 1) index
              (tag.opening isEmpty :: (es ++ closings names))) := by
        rw [partsWithin_opening, partsWithin_opening]
        refine .after fun p => (skipAfter_beside isEmpty es names).bind fun mid mid' hmid => ?_
        obtain ⟨names', rfl⟩ := hmid.closed
        have hrest := ih (index + 1) (hmid.reads.length_le.trans hes)
          (hmid.reads'.length_le.trans hes')
        exact (hrest.shift (hmid.cons (tag.opening_ne_fault isEmpty))).map_fst (p :: ·)
      rw [List.cons_append]
      cases e with
      | start tag => exact taken tag false
      | empty tag => exact taken tag true
      | close name => exact .ok ⟨rfl, (Beside.refl es names).cons nofun⟩
      | filler sort => exact (ih index hes hes').shift ((Beside.refl es names).cons nofun)
      | fault f => exact .error rfl

theorem parts_beside (isEmpty : Bool) (es : List Event) (names : List String) :
    Same es (es ++ closings names) (parts part isEmpty es)
      (parts part isEmpty (es ++ closings names)) := by
  cases isEmpty with
  | true => exact .ok ⟨rfl, .refl es names⟩
  | false => exact partsWithin_beside part 0 (Nat.le_refl _) (Nat.le_refl _)

end Parts

/-- A type is read alike, if the variants of a sum are. -/
theorem typeWith_beside
    {read read' : String → List Event → Except DocumentError (List Descriptor × List Event)}
    {es : List Event} {names : List String}
    (hread : ∀ name, Same es (es ++ closings names) (read name es)
      (read' name (es ++ closings names)))
    (owner : Option String) (tag : Tag) (isEmpty : Bool) :
    Same es (es ++ closings names) (typeWith read owner tag isEmpty es)
      (typeWith read' owner tag isEmpty (es ++ closings names)) := by
  unfold typeWith
  split
  · exact .after fun name =>
      (parts_beside (fun _ => Element.entry name) isEmpty es names).map_fst _
  · exact .after fun (name, content) =>
      (parts_beside (Element.member name content.style) isEmpty es names).map_fst
        fun members => Descriptor.product name { content with members }
  · refine .after fun (name, companion) => ?_
    cases isEmpty with
    | true => exact .ok ⟨rfl, .refl es names⟩
    | false => exact (hread name).map_fst fun vs => Descriptor.sum name vs companion
  · exact .after fun d => (skipAfter_beside isEmpty es names).bind fun _ _ h => .ok ⟨rfl, h⟩
  · exact .after fun d => (skipAfter_beside isEmpty es names).bind fun _ _ h => .ok ⟨rfl, h⟩
  · exact .after fun d => (skipAfter_beside isEmpty es names).bind fun _ _ h => .ok ⟨rfl, h⟩
  · exact .error rfl

theorem variantsWithin_closings {rounds : Nat} (seen : List String) (owner : String)
    {names : List String} (hrounds : (closings names).length ≤ rounds) :
    variantsWithin rounds seen owner (closings names) = .ok ([], closings (names.drop 1)) := by
  cases names with
  | nil => cases rounds <;> rfl
  | cons name names =>
    cases rounds with
    | zero => cases hrounds
    | succ rounds => rfl

theorem variantsWithin_beside {rounds rounds' : Nat} (seen : List String) (owner : String)
    {es : List Event} {names : List String} (hrounds : es.length ≤ rounds)
    (hrounds' : (es ++ closings names).length ≤ rounds') :
    Same es (es ++ closings names) (variantsWithin rounds seen owner es)
      (variantsWithin rounds' seen owner (es ++ closings names)) := by
  induction rounds generalizing rounds' seen owner es names with
  | zero =>
    obtain rfl := List.eq_nil_of_length_eq_zero (Nat.le_zero.1 hrounds)
    rw [List.nil_append, variantsWithin_closings seen owner hrounds']
    exact .ok ⟨rfl, .ended names 1⟩
  | succ rounds ih =>
    cases es with
    | nil =>
      rw [List.nil_append, variantsWithin_closings seen owner hrounds']
      exact .ok ⟨rfl, .ended names 1⟩
    | cons e es =>
      obtain ⟨rounds', rfl⟩ := Nat.exists_eq_succ_of_ne_zero (Nat.ne_zero_of_lt hrounds')
      have hes : es.length ≤ rounds := Nat.le_of_succ_le_succ hrounds
      have hes' : (es ++ closings names).length ≤ rounds' := Nat.le_of_succ_le_succ hrounds'
      have taken (tag : Tag) (isEmpty : Bool) :
          Same (tag.opening isEmpty :: es) (tag.opening isEmpty :: (es ++ closings names))
            (variantsWithin (rounds + 1) seen owner (tag.opening isEmpty :: es))
            (variantsWithin (rounds' + 1) seen owner
              (tag.opening isEmpty :: (es ++ closings names))) := by
        have hv := typeWith_beside (fun name => ih [] name hes hes') (some owner) tag isEmpty
        rw [variantsWithin_opening, variantsWithin_opening]
        refine hv.bind fun ⟨v, mid⟩ ⟨v', mid'⟩ ⟨hvv, hmid⟩ => ?_
        obtain rfl : v = v' := hvv
        obtain ⟨names', rfl⟩ := hmid.closed
        split
        · exact .error rfl
        · have hrest := ih (v.name :: seen) owner (hmid.reads.length_le.trans hes)
            (hmid.reads'.length_le.trans hes')
          exact (hrest.shift (hmid.cons (tag.opening_ne_fault isEmpty))).map_fst (v :: ·)
      rw [List.cons_append]
      cases e with
      | start tag => exact taken tag false
      | empty tag => exact taken tag true
      | close name => exact .ok ⟨rfl, (Beside.refl es names).cons nofun⟩
      | filler sort => exact (ih seen owner hes hes').shift ((Beside.refl es names).cons nofun)
      | fault f => exact .error rfl

theorem type_beside (owner : Option String) (tag : Tag) (isEmpty : Bool) (es : List Event)
    (names : List String) :
    Same es (es ++ closings names) (type owner tag isEmpty es)
      (type owner tag isEmpty (es ++ closings names)) :=
  typeWith_beside (fun name => variantsWithin_beside [] name (Nat.le_refl _) (Nat.le_refl _))
    owner tag isEmpty

theorem typesWithin_closings {rounds : Nat} (s : Schema) {names : List String}
    (hrounds : (closings names).length ≤ rounds) :
    typesWithin rounds s (closings names) = .ok (s, closings (names.drop 1)) := by
  cases names with
  | nil => cases rounds <;> rfl
  | cons name names =>
    cases rounds with
    | zero => cases hrounds
    | succ rounds => rfl

theorem typesWithin_beside {rounds rounds' : Nat} (s : Schema) {es : List Event}
    {names : List String} (hrounds : es.length ≤ rounds)
    (hrounds' : (es ++ closings names).length ≤ rounds') :
    Same es (es ++ closings names) (typesWithin rounds s es)
      (typesWithin rounds' s (es ++ closings names)) := by
  induction rounds generalizing rounds' s es names with
  | zero =>
    obtain rfl := List.eq_nil_of_length_eq_zero (Nat.le_zero.1 hrounds)
    rw [List.nil_append, typesWithin_closings s hrounds']
    exact .ok ⟨rfl, .ended names 1⟩
  | succ rounds ih =>
    cases es with
    | nil =>
      rw [List.nil_append, typesWithin_closings s hrounds']
      exact .ok ⟨rfl, .ended names 1⟩
    | cons e es =>
      obtain ⟨rounds', rfl⟩ := Nat.exists_eq_succ_of_ne_zero (Nat.ne_zero_of_lt hrounds')
      have hes : es.length ≤ rounds := Nat.le_of_succ_le_succ hrounds
      have hes' : (es ++ closings names).length ≤ rounds' := Nat.le_of_succ_le_succ hrounds'
      have taken (tag : Tag) (isEmpty : Bool) :
          Same (tag.opening isEmpty :: es) (tag.opening isEmpty :: (es ++ closings names))
            (typesWithin (rounds + 1) s (tag.opening isEmpty :: es))
            (typesWithin (rounds' + 1) s (tag.opening isEmpty :: (es ++ closings names))) := by
        rw [typesWithin_opening, typesWithin_opening]
        refine (type_beside none tag isEmpty es names).bind
          fun ⟨d, mid⟩ ⟨d', mid'⟩ ⟨hdd, hmid⟩ => ?_
        obtain rfl : d = d' := hdd
        obtain ⟨names', rfl⟩ := hmid.closed
        refine .after fun s => ?_
        have hrest := ih s (hmid.reads.length_le.trans hes) (hmid.reads'.length_le.trans hes')
        exact hrest.shift (hmid.cons (tag.opening_ne_fault isEmpty))
      rw [List.cons_append]
      cases e with
      | start tag => exact taken tag false
      | empty tag => exact taken tag true
      | close name => exact .ok ⟨rfl, (Beside.refl es names).cons nofun⟩
      | filler sort => exact (ih s hes hes').shift ((Beside.refl es names).cons nofun)
      | fault f => exact .error rfl

theorem takeTag_beside (schema : Option Schema) (tag : Tag) (isEmpty : Bool) (es : List Event)
    (names : List String) :
    Same es (es ++ closings names) (takeTag schema tag isEmpty es)
      (takeTag schema tag isEmpty (es ++ closings names)) := by
  unfold takeTag
  split
  · exact .after fun s => .ok ⟨rfl, .refl es names⟩
  · split
    · exact .after fun s =>
        (typesWithin_beside s (Nat.le_refl _) (Nat.le_refl _)).map_fst some
    · split
      · exact .after fun s => .after fun r =>
          (skipAfter_beside isEmpty es names).bind fun _ _ h => .ok ⟨rfl, h⟩
      · exact .ok ⟨rfl, .refl es names⟩

theorem sectionsWithin_closings (rounds : Nat) (schema : Option Schema) (names : List String) :
    sectionsWithin rounds schema (closings names) = .ok schema := by
  induction names generalizing rounds with
  | nil => cases rounds <;> rfl
  | cons name names ih =>
    cases rounds with
    | zero => rfl
    | succ rounds => exact ih rounds

theorem sectionsWithin_beside {rounds rounds' : Nat} (schema : Option Schema) {es : List Event}
    {names : List String} (hrounds : es.length ≤ rounds)
    (hrounds' : (es ++ closings names).length ≤ rounds') :
    Alike (· = ·) (fun s s' => s = s' ∧ Reads es []) (sectionsWithin rounds schema es)
      (sectionsWithin rounds' schema (es ++ closings names)) := by
  induction rounds generalizing rounds' schema es names with
  | zero =>
    obtain rfl := List.eq_nil_of_length_eq_zero (Nat.le_zero.1 hrounds)
    rw [List.nil_append, sectionsWithin_closings]
    exact .ok ⟨rfl, .refl []⟩
  | succ rounds ih =>
    cases es with
    | nil =>
      rw [List.nil_append, sectionsWithin_closings]
      exact .ok ⟨rfl, .refl []⟩
    | cons e es =>
      obtain ⟨rounds', rfl⟩ := Nat.exists_eq_succ_of_ne_zero (Nat.ne_zero_of_lt hrounds')
      have hes : es.length ≤ rounds := Nat.le_of_succ_le_succ hrounds
      have hes' : (es ++ closings names).length ≤ rounds' := Nat.le_of_succ_le_succ hrounds'
      have taken (tag : Tag) (isEmpty : Bool) :
          Alike (· = ·) (fun s s' => s = s' ∧ Reads (tag.opening isEmpty :: es) [])
            (sectionsWithin (rounds + 1) schema (tag.opening isEmpty :: es))
            (sectionsWithin (rounds' + 1) schema
              (tag.opening isEmpty :: (es ++ closings names))) := by
        rw [sectionsWithin_opening, sectionsWithin_opening]
        refine (takeTag_beside schema tag isEmpty es names).bind
          fun ⟨next, mid⟩ ⟨next', mid'⟩ ⟨hnext, hmid⟩ => ?_
        obtain rfl : next = next' := hnext
        obtain ⟨names', rfl⟩ := hmid.closed
        have hrest := ih next (hmid.reads.length_le.trans hes) (hmid.reads'.length_le.trans hes')
        refine hrest.mono fun s s' ⟨hss, hreads⟩ => ⟨hss, ?_⟩
        exact (hmid.reads.trans hreads).cons (tag.opening_ne_fault isEmpty)
      rw [List.cons_append]
      cases e with
      | start tag => exact taken tag false
      | empty tag => exact taken tag true
      | close name => exact (ih schema hes hes').mono fun _ _ h => ⟨h.1, h.2.cons nofun⟩
      | filler sort => exact (ih schema hes hes').mono fun _ _ h => ⟨h.1, h.2.cons nofun⟩
      | fault f => exact .error rfl

end Document

/-- End tags behind the last event change nothing, neither the schema nor the error. -/
theorem Schema.ofEvents_append_closings (es : List Event) (names : List String) :
    ofEvents (es ++ Document.closings names) = ofEvents es := by
  have h := Document.sectionsWithin_beside none (Nat.le_refl es.length)
    (Nat.le_refl (es ++ Document.closings names).length)
  rw [ofEvents, ofEvents, (h.mono fun _ _ h => h.1).eq]

/-- Events that make a schema are read to the end, and none of them is a fault. -/
theorem Schema.noFault_of_ofEvents {es : List Event} {s : Schema} (h : ofEvents es = .ok s)
    (f : Markup.Fault) : .fault f ∉ es := by
  obtain ⟨schema, hschema, -⟩ := bind_eq_ok.1 h
  have halike := Document.sectionsWithin_beside none (Nat.le_refl es.length)
    (Nat.le_refl (es ++ Document.closings []).length)
  obtain ⟨schema', -, -, taken, htaken, hnone⟩ := halike.of_ok hschema
  rw [htaken, List.append_nil]
  exact hnone f

end EditableFields
