import EditableFields.Markup.Attribute
import EditableFields.Proofs.Result
import Mathlib.Data.List.Basic

/-!
# Documents: how attributes are written

A text holds attributes in order, each written as a key, `=` and a value in quotes of one kind
(`Holds`). Whatever a text is, the attributes scanned from it are held by it, with other text
between them, and no key is among them twice (`holds_attributesOf`, `nodup_attributesOf`). As long
as nothing but blanks is between them and no key is repeated, all of them are scanned
(`prefix_attributesOf`, `attributesOf_of_holds`).
-/

namespace EditableFields.Markup

/-! ## Writing -/

def Blank (cs : List Char) : Prop :=
  ∀ c ∈ cs, isBlank c = true

def IsQuote (c : Char) : Prop :=
  c = '"' ∨ c = '\''

instance (c : Char) : Decidable (IsQuote c) :=
  inferInstanceAs (Decidable (_ ∨ _))

/-- A text that is scanned as one key. It ends before `=`, but may begin with it. -/
def IsKey (cs : List Char) : Prop :=
  ∃ c rest, cs = c :: rest ∧ isBlank c = false ∧ ∀ d ∈ rest, d ≠ '=' ∧ isBlank d = false

/-- How an attribute is written, with blanks around the `=` or without. -/
inductive Attribute.Spelled (a : Attribute) : List Char → Prop
  | intro {gap gap' : List Char} {quote : Char} : IsKey a.key.toList → Blank gap → Blank gap' →
    IsQuote quote → quote ∉ a.value.toList →
    Spelled a (a.key.toList ++ (gap ++ '=' :: (gap' ++ quote :: (a.value.toList ++ [quote]))))

/-- A text holds attributes in order. What stands before each one and behind the last is of the
kind `other`. -/
inductive Holds (other : List Char → Prop) : List Char → List Attribute → Prop
  | nil {rest : List Char} : other rest → Holds other rest []
  | cons {before text rest : List Char} {a : Attribute} {as : List Attribute} : other before →
    a.Spelled text → Holds other rest as → Holds other (before ++ (text ++ rest)) (a :: as)

/-- The keys of attributes differ from one another and from those in `seen`, which are
reversed. -/
inductive Fresh : List (List Char) → List Attribute → Prop
  | nil {seen} : Fresh seen []
  | cons {seen a as} : a.key.toList.reverse ∉ seen → Fresh (a.key.toList.reverse :: seen) as →
    Fresh seen (a :: as)

/-- More text may stand before all attributes, if it need not be of any kind. -/
theorem Holds.prepend {text : List Char} {as : List Attribute}
    (h : Holds (fun _ => True) text as) (before : List Char) :
    Holds (fun _ => True) (before ++ text) as := by
  cases h with
  | nil _ => exact .nil trivial
  | cons _ ha has =>
    rw [← List.append_assoc]
    exact .cons trivial ha has

theorem fresh_iff {seen : List (List Char)} {as : List Attribute} :
    Fresh seen as ↔ (as.map (·.key)).Nodup ∧ ∀ a ∈ as, a.key.toList.reverse ∉ seen := by
  induction as generalizing seen with
  | nil => simp [Fresh.nil]
  | cons a as ih =>
    constructor
    · rintro (_ | ⟨ha, has⟩)
      obtain ⟨hnodup, hnew⟩ := ih.1 has
      simp only [List.mem_cons, not_or, List.reverse_inj, String.toList_inj] at hnew
      refine ⟨List.nodup_cons.2 ⟨?_, hnodup⟩, List.forall_mem_cons.2 ⟨ha, fun b hb => ?_⟩⟩
      · intro hmem
        obtain ⟨b, hb, hkey⟩ := List.mem_map.1 hmem
        exact (hnew b hb).1 hkey
      · exact (hnew b hb).2
    · rintro ⟨hnodup, hnew⟩
      obtain ⟨hne, hnodup⟩ := List.nodup_cons.1 hnodup
      obtain ⟨ha, hnew⟩ := List.forall_mem_cons.1 hnew
      refine .cons ha (ih.2 ⟨hnodup, fun b hb hmem => ?_⟩)
      rcases List.mem_cons.1 hmem with hkey | hmem
      · rw [List.reverse_inj, String.toList_inj] at hkey
        exact hne (List.mem_map.2 ⟨b, hb, hkey⟩)
      · exact hnew b hb hmem

theorem Fresh.of_cons {seen : List (List Char)} {key : List Char} {as : List Attribute}
    (h : Fresh (key :: seen) as) : Fresh seen as := by
  obtain ⟨hnodup, hnew⟩ := fresh_iff.1 h
  exact fresh_iff.2 ⟨hnodup, fun a ha hmem => hnew a ha (List.mem_cons_of_mem _ hmem)⟩

/-! ## What is scanned is written -/

/-- The text that a scan keeps of the attribute it is in. -/
inductive Begun : AttributeState → List Char → Prop
  | between : Begun .between []
  | inKey {key} : IsKey key.reverse → Begun (.inKey key) key.reverse
  | afterKey {key gap} : IsKey key.reverse → Blank gap → Begun (.afterKey key) (key.reverse ++ gap)
  | beforeValue {key gap gap'} : IsKey key.reverse → Blank gap → Blank gap' →
    Begun (.beforeValue key) (key.reverse ++ (gap ++ '=' :: gap'))
  | inValue {key gap gap' quote value} : IsKey key.reverse → Blank gap → Blank gap' →
    IsQuote quote → quote ∉ value →
    Begun (.inValue key quote value)
      (key.reverse ++ (gap ++ '=' :: (gap' ++ quote :: value.reverse)))
  | skipping : Begun .skipping []

theorem begun_key {c : Char} (hc : isBlank c = false) : Begun (.inKey [c]) [c] :=
  .inKey ⟨c, [], rfl, hc, nofun⟩

theorem IsKey.concat {cs : List Char} {c : Char} (h : IsKey cs) (hne : c ≠ '=')
    (hc : isBlank c = false) : IsKey (cs ++ [c]) := by
  obtain ⟨d, rest, rfl, hd, hrest⟩ := h
  refine ⟨d, rest ++ [c], rfl, hd, fun e he => ?_⟩
  rcases List.mem_append.1 he with he | he
  · exact hrest e he
  · rw [List.mem_singleton.1 he]
    exact ⟨hne, hc⟩

theorem Blank.concat {cs : List Char} {c : Char} (h : Blank cs) (hc : isBlank c = true) :
    Blank (cs ++ [c]) := by
  intro d hd
  rcases List.mem_append.1 hd with hd | hd
  · exact h d hd
  · rw [List.mem_singleton.1 hd]
    exact hc

theorem blank_nil : Blank [] :=
  nofun

theorem isQuote_of {c : Char} (h : (c = '"' || c = '\'') = true) : IsQuote c := by
  simpa [IsQuote] using h

/-- A scan that has begun an attribute goes on to attributes that are written in the text. -/
theorem holds_scanAttributes {state : AttributeState} {before : List Char}
    (h : Begun state before) (seen : List (List Char)) (text : List Char) :
    Holds (fun _ => True) (before ++ text) (scanAttributes seen state text) := by
  induction text generalizing state before seen with
  | nil => cases h <;> exact .nil trivial
  | cons c cs ih =>
    have goOn {state' : AttributeState} {before' : List Char} (h : Begun state' before')
        (heq : before' = before ++ [c]) (seen : List (List Char)) :
        Holds (fun _ => True) (before ++ c :: cs) (scanAttributes seen state' cs) := by
      have hrest := ih h seen
      rw [heq, List.append_assoc] at hrest
      exact hrest
    have startOver {state' : AttributeState} {before' : List Char} (h : Begun state' before')
        (skipped : List Char) (heq : skipped ++ before' = before ++ [c]) (seen : List (List Char)) :
        Holds (fun _ => True) (before ++ c :: cs) (scanAttributes seen state' cs) := by
      have hrest := (ih h seen).prepend skipped
      rw [← List.append_assoc, heq, List.append_assoc] at hrest
      exact hrest
    have accept {key gap : List Char} (hkey : IsKey key.reverse) (hgap : Blank gap) (hc : c = '=')
        (hbefore : before = key.reverse ++ gap) (seen : List (List Char)) :
        Holds (fun _ => True) (before ++ c :: cs)
          (scanAttributes (acceptKey seen key).1 (acceptKey seen key).2 cs) := by
      rw [acceptKey]
      split
      · exact startOver .skipping (before ++ [c]) (List.append_nil _) _
      · exact goOn (.beforeValue hkey hgap blank_nil) (by simp [hbefore, hc]) _
    cases h with
    | between =>
      rw [scanAttributes]
      split
      · exact startOver .between [c] rfl seen
      · rename_i hc
        exact goOn (begun_key (by simpa using hc)) rfl seen
    | @inKey key hkey =>
      rw [scanAttributes]
      split
      · rename_i hc
        exact accept hkey blank_nil hc (List.append_nil _).symm seen
      · split
        · rename_i hc
          exact goOn (.afterKey hkey (blank_nil.concat hc)) rfl seen
        · rename_i hne hc
          have hkey' := hkey.concat hne (by simpa using hc)
          rw [← List.reverse_cons] at hkey'
          exact goOn (.inKey hkey') List.reverse_cons seen
    | @afterKey key gap hkey hgap =>
      rw [scanAttributes]
      split
      · rename_i hc
        exact accept hkey hgap hc rfl seen
      · split
        · rename_i hc
          exact goOn (.afterKey hkey (hgap.concat hc)) (by simp) seen
        · rename_i hne hc
          exact startOver (begun_key (by simpa using hc)) _ rfl seen
    | @beforeValue key gap gap' hkey hgap hgap' =>
      rw [scanAttributes]
      split
      · rename_i hc
        exact goOn (.beforeValue hkey hgap (hgap'.concat hc)) (by simp) seen
      · split
        · rename_i hc
          exact goOn (.inValue hkey hgap hgap' (isQuote_of hc) List.not_mem_nil) (by simp) seen
        · exact startOver .skipping _ (List.append_nil _) seen
    | @inValue key gap gap' quote value hkey hgap hgap' hquote hvalue =>
      rw [scanAttributes]
      split
      · rename_i hc
        have ha : Attribute.Spelled ⟨String.ofList key.reverse, String.ofList value.reverse⟩
            (key.reverse ++ (gap ++ '=' :: (gap' ++ quote :: (value.reverse ++ [quote])))) := by
          have h := Attribute.Spelled.intro
            (a := ⟨String.ofList key.reverse, String.ofList value.reverse⟩) (by simpa using hkey)
            hgap hgap' hquote (by simpa using hvalue)
          simpa using h
        have hcons : Holds (fun _ => True) ([] ++ (_ ++ ([] ++ cs))) (_ :: _) :=
          .cons trivial ha (ih .between seen)
        simpa [hc] using hcons
      · rename_i hc
        exact goOn (.inValue hkey hgap hgap' hquote (by simp [Ne.symm hc, hvalue])) (by simp) seen
    | skipping =>
      rw [scanAttributes]
      split
      · exact startOver .between [c] rfl seen
      · exact startOver .skipping [c] rfl seen

/-- The attributes scanned from a text are written in it, in the order in which they are. -/
theorem holds_attributesOf (text : List Char) :
    Holds (fun _ => True) text (attributesOf text) :=
  holds_scanAttributes .between [] text

/-! ## No key is scanned twice -/

/-- The key that a scan has taken, and not yet given on with its value. -/
def AttributeState.owed : AttributeState → List (List Char)
  | .beforeValue key | .inValue key _ _ => [key]
  | .between | .inKey _ | .afterKey _ | .skipping => []

theorem fresh_scanAttributes (state : AttributeState) {seen : List (List Char)}
    (hnew : ∀ key ∈ state.owed, key ∉ seen) (text : List Char) :
    Fresh seen (scanAttributes (state.owed ++ seen) state text) := by
  induction text generalizing state seen with
  | nil => cases state <;> exact .nil
  | cons c cs ih =>
    have accept (key : List Char) :
        Fresh seen (scanAttributes (acceptKey seen key).1 (acceptKey seen key).2 cs) := by
      rw [acceptKey]
      split
      · exact ih .skipping nofun
      · rename_i hkey
        exact ih (.beforeValue key) (by simpa [AttributeState.owed] using hkey)
    cases state with
    | between =>
      rw [scanAttributes]
      split
      · exact ih .between nofun
      · exact ih (.inKey [c]) nofun
    | inKey key =>
      rw [scanAttributes]
      split
      · exact accept key
      · split
        · exact ih (.afterKey key) nofun
        · exact ih (.inKey (c :: key)) nofun
    | afterKey key =>
      rw [scanAttributes]
      split
      · exact accept key
      · split
        · exact ih (.afterKey key) nofun
        · exact ih (.inKey [c]) nofun
    | beforeValue key =>
      rw [scanAttributes]
      split
      · exact ih (.beforeValue key) hnew
      · split
        · exact ih (.inValue key c []) hnew
        -- A key whose value does not count stays taken.
        · have hrest : Fresh (key :: seen) (scanAttributes (key :: seen) .skipping cs) :=
            ih .skipping nofun
          exact hrest.of_cons
    | inValue key quote value =>
      have hkey : key ∉ seen := hnew key (List.mem_singleton.2 rfl)
      rw [scanAttributes]
      split
      · have hrest : Fresh (key :: seen) (scanAttributes (key :: seen) .between cs) :=
          ih .between nofun
        have hreverse : (String.ofList key.reverse).toList.reverse = key := by simp
        refine .cons ?_ ?_
        · rw [hreverse]
          exact hkey
        · rw [hreverse]
          exact hrest
      · exact ih (.inValue key quote (c :: value)) hnew
    | skipping =>
      rw [scanAttributes]
      split
      · exact ih .between nofun
      · exact ih .skipping nofun

theorem nodup_attributesOf (text : List Char) : ((attributesOf text).map (·.key)).Nodup :=
  (fresh_iff.1 (fresh_scanAttributes .between (fun _ _ => List.not_mem_nil) text)).1

/-! ## What is written is scanned -/

theorem scanAttributes_blank (seen : List (List Char)) {gap : List Char} (hgap : Blank gap)
    {state : AttributeState}
    (hstay : ∀ c cs, isBlank c = true →
      scanAttributes seen state (c :: cs) = scanAttributes seen state cs) (rest : List Char) :
    scanAttributes seen state (gap ++ rest) = scanAttributes seen state rest := by
  induction gap with
  | nil => rfl
  | cons c gap ih =>
    obtain ⟨hc, hgap⟩ := List.forall_mem_cons.1 hgap
    rw [List.cons_append, hstay c _ hc]
    exact ih hgap

theorem scanAttributes_inKey (seen : List (List Char)) (key : List Char) {cs : List Char}
    (h : ∀ c ∈ cs, c ≠ '=' ∧ isBlank c = false) (rest : List Char) :
    scanAttributes seen (.inKey key) (cs ++ rest) =
      scanAttributes seen (.inKey (cs.reverse ++ key)) rest := by
  induction cs generalizing key with
  | nil => rfl
  | cons c cs ih =>
    obtain ⟨⟨hne, hc⟩, hcs⟩ := List.forall_mem_cons.1 h
    rw [List.cons_append, scanAttributes, if_neg hne, hc, if_neg Bool.false_ne_true, ih _ hcs]
    simp

theorem scanAttributes_inValue (seen : List (List Char)) (key value : List Char) {quote : Char}
    {cs : List Char} (h : quote ∉ cs) (rest : List Char) :
    scanAttributes seen (.inValue key quote value) (cs ++ rest) =
      scanAttributes seen (.inValue key quote (cs.reverse ++ value)) rest := by
  induction cs generalizing value with
  | nil => rfl
  | cons c cs ih =>
    rw [List.mem_cons, not_or] at h
    rw [List.cons_append, scanAttributes, if_neg (Ne.symm h.1), ih _ h.2]
    simp

/-- After its key, an attribute is scanned up to its last quote. -/
theorem scanAttributes_value {key : List Char} {seen : List (List Char)} (hnew : key ∉ seen)
    {gap gap' : List Char} (hgap : Blank gap) (hgap' : Blank gap') {quote : Char}
    (hquote : IsQuote quote) {value : List Char} (hvalue : quote ∉ value) (rest : List Char) :
    scanAttributes seen (.inKey key) (gap ++ '=' :: (gap' ++ quote :: (value ++ quote :: rest))) =
      ⟨String.ofList key.reverse, String.ofList value⟩ ::
        scanAttributes (key :: seen) .between rest := by
  have hequals (state : AttributeState) (hstate : state = .inKey key ∨ state = .afterKey key)
      (cs : List Char) :
      scanAttributes seen state ('=' :: cs) =
        scanAttributes (key :: seen) (.beforeValue key) cs := by
    rcases hstate with rfl | rfl <;>
      rw [scanAttributes, if_pos rfl, acceptKey, if_neg (by simpa using hnew)]
  have hgapped (cs : List Char) :
      scanAttributes seen (.inKey key) (gap ++ '=' :: cs) =
        scanAttributes (key :: seen) (.beforeValue key) cs := by
    cases gap with
    | nil => exact hequals _ (.inl rfl) cs
    | cons c gap =>
      obtain ⟨hc, hgap⟩ := List.forall_mem_cons.1 hgap
      have hne : c ≠ '=' := by rintro rfl; cases hc
      rw [List.cons_append, scanAttributes, if_neg hne, if_pos hc,
        scanAttributes_blank seen hgap, hequals _ (.inr rfl)]
      intro c cs hc
      have hne : c ≠ '=' := by rintro rfl; cases hc
      rw [scanAttributes, if_neg hne, if_pos hc]
  have hopen (cs : List Char) :
      scanAttributes (key :: seen) (.beforeValue key) (quote :: cs) =
        scanAttributes (key :: seen) (.inValue key quote []) cs := by
    rcases hquote with rfl | rfl <;> rfl
  have hclose (cs : List Char) :
      scanAttributes (key :: seen) (.inValue key quote (value.reverse ++ [])) (quote :: cs) =
        ⟨String.ofList key.reverse, String.ofList value⟩ ::
          scanAttributes (key :: seen) .between cs := by
    rw [scanAttributes, if_pos rfl]
    simp
  rw [hgapped, scanAttributes_blank _ hgap', hopen, scanAttributes_inValue _ _ _ hvalue, hclose]
  intro c cs hc
  rw [scanAttributes, if_pos hc]

theorem scanAttributes_spelled {a : Attribute} {text : List Char} (ha : a.Spelled text)
    {seen : List (List Char)} (hnew : a.key.toList.reverse ∉ seen) (rest : List Char) :
    scanAttributes seen .between (text ++ rest) =
      a :: scanAttributes (a.key.toList.reverse :: seen) .between rest := by
  obtain @⟨gap, gap', quote, ⟨c, key, hkey, hc, hplain⟩, hgap, hgap', hquote, hvalue⟩ := ha
  have htext : a.key.toList ++
        (gap ++ '=' :: (gap' ++ quote :: (a.value.toList ++ [quote]))) ++ rest =
      c :: (key ++ (gap ++ '=' :: (gap' ++ quote :: (a.value.toList ++ quote :: rest)))) := by
    simp [hkey]
  have hreverse : key.reverse ++ [c] = a.key.toList.reverse := by rw [hkey, List.reverse_cons]
  have hfirst (cs : List Char) :
      scanAttributes seen .between (c :: cs) = scanAttributes seen (.inKey [c]) cs := by
    rw [scanAttributes, hc, if_neg Bool.false_ne_true]
  rw [htext, hfirst, scanAttributes_inKey seen [c] hplain, hreverse,
    scanAttributes_value hnew hgap hgap' hquote hvalue, List.reverse_reverse,
    String.ofList_toList, String.ofList_toList]

/-- Where nothing else is between them and no key is repeated, all attributes are scanned, whatever
follows. -/
theorem scanAttributes_of_holds {text : List Char} {as : List Attribute} (h : Holds Blank text as)
    {seen : List (List Char)} (hnew : Fresh seen as) (rest : List Char) :
    ∃ seen', scanAttributes seen .between (text ++ rest) =
      as ++ scanAttributes seen' .between rest := by
  have hskip (seen : List (List Char)) {gap : List Char} (hgap : Blank gap) (rest : List Char) :
      scanAttributes seen .between (gap ++ rest) = scanAttributes seen .between rest := by
    apply scanAttributes_blank seen hgap
    intro c cs hc
    rw [scanAttributes, if_pos hc]
  induction h generalizing seen with
  | nil hrest => exact ⟨seen, hskip seen hrest rest⟩
  | cons hbefore ha _ ih =>
    obtain _ | ⟨hkey, hnew⟩ := hnew
    obtain ⟨seen', hseen'⟩ := ih hnew
    refine ⟨seen', ?_⟩
    rw [List.append_assoc, List.append_assoc, hskip seen hbefore,
      scanAttributes_spelled ha hkey, hseen', List.cons_append]

section Distinct

variable {text : List Char} {as : List Attribute} (h : Holds Blank text as)
  (hnodup : (as.map (·.key)).Nodup)
include h hnodup

theorem exists_attributesOf_append (rest : List Char) :
    ∃ seen, attributesOf (text ++ rest) = as ++ scanAttributes seen .between rest :=
  scanAttributes_of_holds h (fresh_iff.2 ⟨hnodup, fun _ _ => List.not_mem_nil⟩) rest

theorem prefix_attributesOf (rest : List Char) : as <+: attributesOf (text ++ rest) := by
  obtain ⟨seen, hseen⟩ := exists_attributesOf_append h hnodup rest
  rw [hseen]
  exact List.prefix_append _ _

theorem attributesOf_of_holds : attributesOf text = as := by
  obtain ⟨seen, hseen⟩ := exists_attributesOf_append h hnodup []
  rw [List.append_nil] at hseen
  rw [hseen]
  exact List.append_nil as

end Distinct

end EditableFields.Markup
