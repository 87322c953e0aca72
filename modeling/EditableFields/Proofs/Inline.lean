import EditableFields.Factory.Source
import EditableFields.Proofs.Character

/-!
# Texts within a line

Of the two characters that end a line and that begin a comment neither is in a text that stays
within a line of code (`Inline`). Whatever is derived from such texts is such a text again: names
in every case and every name of a generated item (`Inline.factoryType`, `Inline.entryName`),
quoted labels (`Inline.quoted`), and the expressions that are built from them
(`inline_construct`, `inline_tuple`).
-/

namespace EditableFields

/-- A character that neither ends a line nor can begin a comment. -/
def InlineChar (c : Char) : Prop :=
  c ≠ '\n' ∧ c ≠ '/'

instance : DecidablePred InlineChar := fun _ => inferInstanceAs (Decidable (_ ∧ _))

/-- A text within one line of code, with no comment in it. -/
def Inline (s : String) : Prop :=
  ∀ c ∈ s.toList, InlineChar c

instance : DecidablePred Inline := fun s => List.decidableBAll InlineChar s.toList

/-! ## Characters -/

section Characters

variable {c d : Char}

/-- Both characters that are left out come before the digits. -/
theorem inlineChar_of_le (h : 48 ≤ c.toNat) : InlineChar c := by
  constructor <;> rintro rfl <;> exact absurd h (by decide)

theorem InlineChar.toUpper (h : InlineChar c) : InlineChar c.toUpper := by
  by_cases hascii : c.toNat < 128
  · exact Text.forall_ascii (P := fun c => InlineChar c → InlineChar c.toUpper) (by decide) hascii h
  · have hsame : c.toUpper = c := by
      refine dif_neg fun hletter => hascii ?_
      have : c.toNat ≤ 122 := hletter.2
      omega
    rwa [hsame]

/-- No character is lowered to one that is left out. -/
theorem InlineChar.lower (h : InlineChar c) : ∀ d ∈ Text.lower c, InlineChar d := by
  by_cases hascii : c.toNat < 128
  · rw [Text.lower_of_ascii hascii, List.forall_mem_singleton]
    exact Text.forall_ascii (P := fun c => InlineChar c → InlineChar c.toLower) (by decide) hascii h
  · exact fun d hd => inlineChar_of_le (Nat.le_trans (by decide) (Text.le_of_mem_lower hascii hd))

theorem inlineChar_of_mem_toDigits {b n : Nat} (hb : 1 < b) (hle : b ≤ 16) :
    ∀ c ∈ Nat.toDigits b n, InlineChar c := by
  have digits : ∀ n < 16, InlineChar n.digitChar := by decide
  induction n using Nat.strongRecOn with
  | _ n ih =>
    rcases Nat.lt_or_ge n b with hn | hn
    · rw [Nat.toDigits_of_lt_base hn, List.forall_mem_singleton]
      exact digits n (by omega)
    · rw [Nat.toDigits_of_base_le hb hn, List.forall_mem_append, List.forall_mem_singleton]
      have hlast : n % b < b := Nat.mod_lt _ (by omega)
      exact ⟨ih _ (Nat.div_lt_self (by omega) hb), digits _ (by omega)⟩

/-- What is written for a character inside quotes is an escape, or the character. -/
theorem InlineChar.quotedChar (h : InlineChar c) : ∀ d ∈ Text.quotedChar c, InlineChar d := by
  have escape : ∀ d ∈ Text.codePointEscape c, InlineChar d := by
    simp only [Text.codePointEscape, List.forall_mem_append]
    have digits := inlineChar_of_mem_toDigits (b := 16) (n := c.toNat) (by decide) (by decide)
    exact ⟨⟨Text.forall_mem_of_all rfl, digits⟩, Text.forall_mem_of_all rfl⟩
  unfold Text.quotedChar
  split_ifs
  -- Six characters have an escape of their own.
  iterate 6 exact Text.forall_mem_of_all rfl
  · exact escape
  · exact List.forall_mem_singleton.2 h

end Characters

/-! ## Texts -/

theorem inline_ofList {cs : List Char} : Inline (String.ofList cs) ↔ ∀ c ∈ cs, InlineChar c := by
  rw [Inline, String.toList_ofList]

/-- A fixed text is looked at character by character. -/
theorem Inline.literal {cs : List Char} (h : cs.all (fun c => decide (InlineChar c)) = true) :
    Inline (String.ofList cs) :=
  inline_ofList.2 (Text.forall_mem_of_all h)

theorem inline_append {s t : String} : Inline (s ++ t) ↔ Inline s ∧ Inline t := by
  rw [Inline, String.toList_append, List.forall_mem_append]
  rfl

theorem Inline.append {s t : String} (hs : Inline s) (ht : Inline t) : Inline (s ++ t) :=
  inline_append.2 ⟨hs, ht⟩

theorem Inline.intercalate {separator : String} {ts : List String} (hs : Inline separator)
    (hts : ∀ t ∈ ts, Inline t) : Inline (String.intercalate separator ts) := by
  induction ts with
  | nil => exact .literal rfl
  | cons t ts ih =>
    obtain ⟨ht, hts⟩ := List.forall_mem_cons.1 hts
    cases ts with
    | nil => rwa [String.intercalate_singleton]
    | cons u us =>
      rw [String.intercalate_cons_cons, inline_append, inline_append]
      exact ⟨⟨ht, hs⟩, ih hts⟩

theorem inline_toString (n : Nat) : Inline (toString n) := by
  rw [Nat.toString_eq_ofList_toDigits, inline_ofList]
  exact inlineChar_of_mem_toDigits (by decide) (by decide)

theorem Inline.quoted {s : String} (h : Inline s) : Inline (Text.quoted s) := by
  rw [Text.quoted, inline_ofList, List.forall_mem_cons, List.forall_mem_append]
  refine ⟨by decide, fun c hc => ?_, Text.forall_mem_of_all rfl⟩
  obtain ⟨d, hd, hc⟩ := List.mem_flatMap.1 hc
  exact (h d hd).quotedChar c hc

/-! ## Names -/

namespace Name

theorem afterLastSeparator_subset {cs tail : List Char} (h : afterLastSeparator cs = some tail) :
    tail ⊆ cs := by
  induction cs generalizing tail with
  | nil => cases h
  | cons c rest ih =>
    unfold afterLastSeparator at h
    cases hrest : afterLastSeparator rest with
    | some tail' =>
      simp only [hrest, Option.some_inj] at h
      exact List.subset_cons_of_subset c (ih (h ▸ hrest))
    | none =>
      simp only [hrest] at h
      split at h
      · cases h
        exact List.Subset.trans rest.tail_sublist.subset (List.subset_cons_self c rest)
      · cases h

theorem inlineChar_snakeFrom {cs : List Char} (h : ∀ c ∈ cs, InlineChar c)
    (previous : Option Char) : ∀ c ∈ snakeFrom previous cs, InlineChar c := by
  induction cs generalizing previous with
  | nil => exact nofun
  | cons c rest ih =>
    obtain ⟨hc, hrest⟩ := List.forall_mem_cons.1 h
    unfold snakeFrom
    split_ifs
    · exact List.forall_mem_cons.2 ⟨by decide, ih hrest _⟩
    · exact List.forall_mem_cons.2 ⟨by decide,
        List.forall_mem_append.2 ⟨hc.lower, ih hrest _⟩⟩
    · exact List.forall_mem_append.2 ⟨hc.lower, ih hrest _⟩

theorem inlineChar_pascalFrom {cs : List Char} (h : ∀ c ∈ cs, InlineChar c) (capitalise : Bool) :
    ∀ c ∈ pascalFrom capitalise cs, InlineChar c := by
  induction cs generalizing capitalise with
  | nil => exact nofun
  | cons c rest ih =>
    obtain ⟨hc, hrest⟩ := List.forall_mem_cons.1 h
    unfold pascalFrom
    split_ifs
    · exact ih hrest _
    · exact List.forall_mem_cons.2 ⟨hc.toUpper, ih hrest _⟩
    · exact List.forall_mem_cons.2 ⟨hc, ih hrest _⟩

end Name

namespace Inline

variable {s : String}

theorem simple (h : Inline s) : Inline (Name.simple s) := by
  unfold Name.simple
  split
  · next tail htail =>
    rw [inline_ofList]
    exact fun c hc => h c (Name.afterLastSeparator_subset htail hc)
  · exact h

theorem snake (h : Inline s) : Inline (Name.snake s) :=
  inline_ofList.2 (Name.inlineChar_snakeFrom h none)

theorem pascal (h : Inline s) : Inline (Name.pascal s) :=
  inline_ofList.2 (Name.inlineChar_pascalFrom h true)

theorem lowerCamel (h : Inline s) : Inline (Name.lowerCamel s) := by
  rw [Name.lowerCamel, inline_ofList]
  cases hcs : Name.pascalFrom true s.toList with
  | nil => exact nofun
  | cons c rest =>
    obtain ⟨hc, hrest⟩ := List.forall_mem_cons.1 (hcs ▸ Name.inlineChar_pascalFrom h true)
    exact List.forall_mem_append.2 ⟨hc.lower, hrest⟩

theorem escape (h : Inline s) : Inline (Name.escape s) := by
  unfold Name.escape
  split_ifs
  · exact .append h (.literal rfl)
  · exact .append (.literal rfl) h
  · exact h

theorem memberStem (h : Inline s) : Inline (Name.memberStem s) := by
  unfold Name.memberStem
  split_ifs
  · exact .append (.literal rfl) h
  · exact h.snake

theorem accessor (h : Inline s) : Inline (Name.accessor s) :=
  .append h.memberStem (.literal rfl)

theorem obligation (h : Inline s) : Inline (Name.obligation s) :=
  .append h.memberStem (.literal rfl)

theorem factoryType (h : Inline s) : Inline (Name.factoryType s) :=
  .append h.simple.pascal (.literal rfl)

theorem variantFactoryType {variant : String} (h : Inline s) (hvariant : Inline variant) :
    Inline (Name.variantFactoryType s variant) :=
  .append (.append h.simple.pascal hvariant.simple.pascal) (.literal rfl)

end Inline

theorem inline_binding (i : Nat) : Inline (Name.binding i) :=
  .append (.literal rfl) (inline_toString i)

/-- The function and the label of an entry point are named within a line. -/
theorem Inline.entryName {type : String} (h : Inline type) {explicit : Option String}
    (hexplicit : ∀ name, explicit = some name → Inline name) (case : NameCase) (autoLabel : Bool) :
    Inline (case.entryName type explicit autoLabel).function ∧
      ∀ label, (case.entryName type explicit autoLabel).label = some label → Inline label := by
  have name : Inline (explicit.getD (case.apply (Name.simple type))) := by
    cases explicit with
    | some name => exact hexplicit name rfl
    | none =>
      cases case with
      | snake => exact h.simple.snake
      | lowerCamel => exact h.simple.lowerCamel
  refine ⟨name.escape, fun label hlabel => ?_⟩
  cases autoLabel <;> cases hlabel
  exact name

/-! ## Expressions -/

section Expressions

variable {type : String}

theorem inline_construct (style : ConstructorStyle) {parts : List (String × String)}
    (htype : Inline type) (hparts : ∀ p ∈ parts, Inline p.1 ∧ Inline p.2) :
    Inline (construct type style parts) := by
  cases style with
  | named =>
    have items : ∀ t ∈ parts.map fun p => p.1 ++ ": " ++ p.2, Inline t := by
      rw [List.forall_mem_map]
      exact fun p hp => .append (.append (hparts p hp).1 (.literal rfl)) (hparts p hp).2
    exact .append (.append (.append htype (.literal rfl)) (.intercalate (.literal rfl) items))
      (.literal rfl)
  | positional =>
    have items : ∀ t ∈ parts.map (·.2), Inline t := by
      rw [List.forall_mem_map]
      exact fun p hp => (hparts p hp).2
    exact .append (.append (.append htype (.literal rfl)) (.intercalate (.literal rfl) items))
      (.literal rfl)

theorem inline_tuple {items : List String} (h : ∀ t ∈ items, Inline t) :
    Inline (tuple items) := by
  unfold tuple
  split
  · exact .append (.append (.literal rfl) (h _ (List.mem_singleton_self _))) (.literal rfl)
  · exact .append (.append (.literal rfl) (.intercalate (.literal rfl) h)) (.literal rfl)

theorem inline_derivedDefault (htype : Inline type) : Inline (derivedDefault type) :=
  .append (.append (.literal rfl) htype) (.literal rfl)

end Expressions

end EditableFields
