import EditableFields.Proofs.Name.Snake
import Mathlib.Data.Set.Function

/-!
# Names: words in every case

Names of words are in snake case, and each of their words is a letter with small letters or digits
behind it, at least one (`ofWords`). Without underscores and with a capital for each word, such a
name is in Pascal case (`pascalFrom_joined`). Snake case starts a word at every capital again, for
what stands before it is no capital (`snakeFrom_flatMap_capitalised`). So a name of words comes back
from Pascal case, and from lower camel case, where the first capital is missing
(`snake_undoes_camel`).
-/

namespace EditableFields.Name

/-! ## Words -/

/-- A small letter or a digit. -/
def IsSmall (c : Char) : Prop :=
  c.isLower ∨ c.isDigit

instance : DecidablePred IsSmall := fun _ => inferInstanceAs (Decidable (_ ∨ _))

/-- A small letter, and then small letters or digits, at least one of them. -/
def IsWord (w : String) : Prop :=
  ∃ first rest, w.toList = first :: rest ∧ first.isLower ∧ rest ≠ [] ∧ ∀ c ∈ rest, IsSmall c

/-- Names of words, with one underscore between words. -/
def ofWords : Set String :=
  {s | ∃ words : List String, words ≠ [] ∧ (∀ w ∈ words, IsWord w) ∧
    s = String.intercalate "_" words}

/-- A word with a capital. -/
def capitalised : List Char → List Char
  | [] => []
  | c :: rest => c.toUpper :: rest

section Characters

variable {c : Char}

theorem IsSmall.ascii (h : IsSmall c) : c.toNat < 128 := by
  have hle : c.val ≤ 'z'.val := by
    rcases h with h | h
    · exact of_decide_eq_true (Bool.and_eq_true_iff.1 h).2
    · exact UInt32.le_trans (of_decide_eq_true (Bool.and_eq_true_iff.1 h).2) (by decide)
  exact Nat.lt_of_le_of_lt (UInt32.le_iff_toNat_le.1 hle) (by decide)

theorem IsSmall.unchanged (h : IsSmall c) : Unchanged c := by
  refine unchanged_of_mem_image h.ascii ?_
  exact Text.forall_ascii (P := fun c => IsSmall c → c ∈ image c) (by decide +kernel) h.ascii h

/-- Names keep no separators in words. -/
theorem IsSmall.ne_separator (h : IsSmall c) : c ≠ '_' ∧ c ≠ '-' := by
  constructor <;> rintro rfl <;> exact absurd h (by decide)

theorem IsSmall.before_word (h : IsSmall c) : (Text.isLowercase c || c.isDigit) = true := by
  rw [Text.isLowercase, if_pos h.ascii]
  simpa [IsSmall] using h

/-- The capital of a letter is one character, which is lowered to the letter. -/
theorem toUpper_of_isLower (h : c.isLower) : c.toUpper ≠ '-' ∧
    Text.isUppercase c.toUpper = true ∧ Text.lower c.toUpper = [c] := by
  refine Text.forall_ascii (P := fun c => c.isLower → c.toUpper ≠ '-' ∧
    Text.isUppercase c.toUpper = true ∧ Text.lower c.toUpper = [c]) ?_ (IsSmall.ascii (.inl h)) h
  decide +kernel

end Characters

/-! ## Case by case -/

section Case

variable {w : String} {words : List String}

theorem IsWord.isSmall (h : IsWord w) : ∀ c ∈ w.toList, IsSmall c := by
  obtain ⟨first, rest, hw, hfirst, -, hrest⟩ := h
  rw [hw]
  exact List.forall_mem_cons.2 ⟨.inl hfirst, hrest⟩

theorem IsWord.unchanged (h : IsWord w) : ∀ c ∈ w.toList, Unchanged c :=
  fun c hc => (h.isSmall c hc).unchanged

/-- A word ends with a small letter or digit. -/
theorem IsWord.getLast? (h : IsWord w) : ∃ c, w.toList.getLast? = some c ∧ IsSmall c := by
  have hne : w.toList ≠ [] := by
    obtain ⟨first, rest, hw, -⟩ := h
    rw [hw]
    nofun
  exact ⟨_, List.getLast?_eq_some_getLast hne, h.isSmall _ (List.getLast_mem hne)⟩

/-- Words with separators between them are one word and the others, each behind a separator. -/
theorem intercalate_cons (sep cs : List Char) (css : List (List Char)) :
    sep.intercalate (cs :: css) = cs ++ css.flatMap (sep ++ ·) := by
  induction css generalizing cs with
  | nil => simp
  | cons ds css ih => rw [List.intercalate_cons_cons, ih, List.flatMap_cons, List.append_assoc,
      List.append_assoc]

theorem pascalFrom_small {cs : List Char} (h : ∀ c ∈ cs, IsSmall c) (rest : List Char) :
    pascalFrom false (cs ++ rest) = cs ++ pascalFrom false rest := by
  induction cs with
  | nil => rfl
  | cons c cs ih =>
    obtain ⟨hc, hcs⟩ := List.forall_mem_cons.1 h
    rw [List.cons_append, pascalFrom, if_neg (by simpa using hc.ne_separator), ih hcs]
    rfl

/-- A word at the start, or behind a separator, gets a capital. -/
theorem pascalFrom_word (h : IsWord w) (rest : List Char) :
    pascalFrom true (w.toList ++ rest) = capitalised w.toList ++ pascalFrom false rest := by
  obtain ⟨first, tail, hw, hfirst, -, htail⟩ := h
  have hfirst : IsSmall first := .inl hfirst
  rw [hw, List.cons_append, pascalFrom, if_neg (by simpa using hfirst.ne_separator),
    pascalFrom_small htail]
  rfl

theorem pascalFrom_flatMap (h : ∀ w ∈ words, IsWord w) :
    pascalFrom false (words.flatMap fun w => '_' :: w.toList) =
      words.flatMap fun w => capitalised w.toList := by
  induction words with
  | nil => rfl
  | cons w words ih =>
    obtain ⟨hw, hwords⟩ := List.forall_mem_cons.1 h
    rw [List.flatMap_cons, List.flatMap_cons, List.cons_append, pascalFrom, if_pos (by decide),
      pascalFrom_word hw, ih hwords]

/-- Snake case undoes the capital of a word, and separates the word from what stands before it. -/
theorem snakeFrom_capitalised (h : IsWord w) (previous : Option Char)
    (hprevious : ∀ p ∈ previous, IsSmall p) (rest : List Char) :
    snakeFrom previous (capitalised w.toList ++ rest) =
      (if previous.isSome then ['_'] else []) ++
        (w.toList ++ snakeFrom w.toList.getLast? rest) := by
  obtain ⟨first, tail, hw, hfirst, hne, htail⟩ := h
  obtain ⟨hdash, hupper, hlower⟩ := toUpper_of_isLower hfirst
  have hword (next : Option Char) :
      startsWord previous first.toUpper next = previous.isSome := by
    cases previous with
    | none => rfl
    | some p => simp [startsWord, hupper, (hprevious p rfl).before_word]
  have hlast : tail.getLast?.or (some first.toUpper) = (first :: tail).getLast? := by
    rw [List.getLast?_cons, List.getLast?_eq_some_getLast hne]
    rfl
  rw [hw, capitalised, List.cons_append, snakeFrom, if_neg hdash, hword, hlower,
    snakeFrom_append_of_unchanged fun c hc => (htail c hc).unchanged, hlast]
  split_ifs <;> rfl

theorem snakeFrom_flatMap_capitalised (h : ∀ w ∈ words, IsWord w) {p : Char} (hp : IsSmall p) :
    snakeFrom (some p) (words.flatMap fun w => capitalised w.toList) =
      words.flatMap fun w => '_' :: w.toList := by
  induction words generalizing p with
  | nil => rfl
  | cons w words ih =>
    obtain ⟨hw, hwords⟩ := List.forall_mem_cons.1 h
    obtain ⟨c, hlast, hc⟩ := hw.getLast?
    rw [List.flatMap_cons, List.flatMap_cons,
      snakeFrom_capitalised hw (some p) fun q hq => Option.mem_some_iff.1 hq ▸ hp, hlast,
      ih hwords hc]
    rfl

/-- Words joined as in the names of words. -/
theorem toList_intercalate_cons (w : String) (words : List String) :
    (String.intercalate "_" (w :: words)).toList =
      w.toList ++ words.flatMap fun w => '_' :: w.toList := by
  rw [String.toList_intercalate, List.map_cons, intercalate_cons, List.flatMap_map]
  rfl

theorem pascalFrom_joined (h : ∀ v ∈ w :: words, IsWord v) :
    pascalFrom true (String.intercalate "_" (w :: words)).toList =
      capitalised w.toList ++ words.flatMap fun w => capitalised w.toList := by
  obtain ⟨hw, hwords⟩ := List.forall_mem_cons.1 h
  rw [toList_intercalate_cons, pascalFrom_word hw, pascalFrom_flatMap hwords]

theorem snake_pascal (h : ∀ v ∈ w :: words, IsWord v) :
    snake (pascal (String.intercalate "_" (w :: words))) = String.intercalate "_" (w :: words) := by
  obtain ⟨hw, hwords⟩ := List.forall_mem_cons.1 h
  obtain ⟨c, hlast, hc⟩ := hw.getLast?
  have hfirst : ∀ p ∈ (none : Option Char), IsSmall p := fun p hp =>
    absurd hp (Option.not_mem_none p)
  rw [snake, pascal, String.toList_ofList, pascalFrom_joined h,
    snakeFrom_capitalised hw none hfirst, hlast, snakeFrom_flatMap_capitalised hwords hc,
    ← String.toList_inj, String.toList_ofList, toList_intercalate_cons]
  rfl

/-- The first word has no capital in lower camel case. -/
theorem lowerFirst_capitalised (h : IsWord w) (rest : List Char) :
    lowerFirst (capitalised w.toList ++ rest) = w.toList ++ rest := by
  obtain ⟨first, tail, hw, hfirst, -⟩ := h
  rw [hw, capitalised, List.cons_append, lowerFirst, (toUpper_of_isLower hfirst).2.2]
  rfl

theorem snake_lowerCamel (h : ∀ v ∈ w :: words, IsWord v) :
    snake (lowerCamel (String.intercalate "_" (w :: words))) =
      String.intercalate "_" (w :: words) := by
  obtain ⟨hw, hwords⟩ := List.forall_mem_cons.1 h
  obtain ⟨c, hlast, hc⟩ := hw.getLast?
  rw [snake, lowerCamel, String.toList_ofList, pascalFrom_joined h, lowerFirst_capitalised hw,
    snakeFrom_append_of_unchanged hw.unchanged, hlast, Option.some_or,
    snakeFrom_flatMap_capitalised hwords hc, ← String.toList_inj, String.toList_ofList,
    toList_intercalate_cons]

end Case

/-! ## Back and forth -/

/-- A name of words comes back from Pascal case and from lower camel case by snake case. So no two
of these names become one in either case. -/
theorem snake_undoes_camel :
    (∀ s ∈ ofWords, snake (pascal s) = s ∧ snake (lowerCamel s) = s) ∧
      Set.InjOn pascal ofWords ∧ Set.InjOn lowerCamel ofWords := by
  have undone : ∀ s ∈ ofWords, snake (pascal s) = s ∧ snake (lowerCamel s) = s := by
    rintro s ⟨words, hne, hwords, rfl⟩
    obtain ⟨w, words, rfl⟩ := List.exists_cons_of_ne_nil hne
    exact ⟨snake_pascal hwords, snake_lowerCamel hwords⟩
  have pascal_left : Set.LeftInvOn snake pascal ofWords := fun s hs => (undone s hs).1
  have lowerCamel_left : Set.LeftInvOn snake lowerCamel ofWords := fun s hs => (undone s hs).2
  exact ⟨undone, pascal_left.injOn, lowerCamel_left.injOn⟩

/-- A name of three words, two of them with digits at the end. -/
theorem snake_undoes_camel_street :
    "line2_of_a10" ∈ ofWords ∧ pascal "line2_of_a10" = "Line2OfA10" ∧
      lowerCamel "line2_of_a10" = "line2OfA10" ∧ snake "Line2OfA10" = "line2_of_a10" ∧
      snake "line2OfA10" = "line2_of_a10" := by
  have hname : "line2_of_a10" ∈ ofWords := by
    refine ⟨["line2", "of", "a10"], by decide, ?_, by decide +kernel⟩
    simp only [List.mem_cons, List.not_mem_nil, or_false]
    rintro w (rfl | rfl | rfl)
    · exact ⟨'l', ['i', 'n', 'e', '2'], rfl, rfl, nofun, Text.forall_mem_of_all rfl⟩
    · exact ⟨'o', ['f'], rfl, rfl, nofun, Text.forall_mem_of_all rfl⟩
    · exact ⟨'a', ['1', '0'], rfl, rfl, nofun, Text.forall_mem_of_all rfl⟩
  have hpascal : pascal "line2_of_a10" = "Line2OfA10" := by decide +kernel
  have hcamel : lowerCamel "line2_of_a10" = "line2OfA10" := by decide +kernel
  obtain ⟨hundone, hundone'⟩ := snake_undoes_camel.1 _ hname
  exact ⟨hname, hpascal, hcamel, hpascal ▸ hundone, hcamel ▸ hundone'⟩

end EditableFields.Name
