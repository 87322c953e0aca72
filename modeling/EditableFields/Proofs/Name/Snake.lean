import EditableFields.Name
import EditableFields.Proofs.Character
import Mathlib.Data.List.Chain

/-!
# Names: snake case

Snake case writes each character of a name for itself, lowered, and inserts underscores where words
start. The characters that are written are marked with those they stem from (`marksFrom`). A word
starts between two characters that are not written as underscores, so an inserted underscore stands
beside no other one (`isChain_marks`). Characters that are written as they are make up a name in
snake case already (`snakeFrom_of_unchanged`), and a name in ASCII is written with no others
(`unchanged_of_mem_snakeFrom`).
-/

namespace EditableFields

namespace Name

/-! ## What is written for a name -/

/-- What is written for a character in snake case, not looking at those around it. -/
def image (c : Char) : List Char :=
  if c = '-' then ['_'] else Text.lower c

/-- A character that is written for a name, with the one of the name that it stems from. One that
was inserted stems from none. -/
structure Mark where
  char : Char
  source : Option Char

/-- What is written for a character, marked with it. -/
def marks (c : Char) : List Mark :=
  (image c).map (⟨·, some c⟩)

/-- An inserted underscore. -/
def separator : Mark :=
  ⟨'_', none⟩

/-- All that is written for the rest of a name, marked. -/
def marksFrom (previous : Option Char) : List Char → List Mark
  | [] => []
  | c :: rest =>
    (if startsWord previous c rest.head? then [separator] else []) ++
      (marks c ++ marksFrom (some c) rest)

/-- Of two neighbours, none is an underscore if the other one was inserted. -/
def Mark.Apart (a b : Mark) : Prop :=
  (a.source = none → b.char ≠ '_') ∧ (b.source = none → a.char ≠ '_')

/-- The characters of a name are written in order, each for itself, and separated by underscores.
None of these is at the start or beside another underscore. -/
structure Separated (cs : List Char) (ms : List Mark) : Prop where
  /-- What was not inserted is what the characters of the name are written as. -/
  sources : ms.filter (·.source.isSome) = cs.flatMap marks
  inserted : ∀ m ∈ ms, m.source = none → m.char = '_'
  start : ∀ m ∈ ms.head?, m.source ≠ none
  apart : ms.IsChain Mark.Apart

theorem underscore_mem_image_iff {c : Char} : '_' ∈ image c ↔ c = '_' ∨ c = '-' := by
  unfold image
  split_ifs with hdash
  · simp [hdash]
  · refine ⟨fun h => .inl (Text.eq_of_underscore_mem_lower h), ?_⟩
    rintro (rfl | h)
    · decide
    · exact absurd h hdash

/-- A word starts neither at nor behind a character that is written as an underscore. -/
theorem underscore_not_mem_of_startsWord {p c : Char} {next : Option Char}
    (h : startsWord (some p) c next = true) : '_' ∉ image p ∧ '_' ∉ image c := by
  simp only [startsWord, Bool.and_eq_true, Bool.or_eq_true] at h
  obtain ⟨hc, hp⟩ := h
  simp only [underscore_mem_image_iff]
  constructor <;> rintro (rfl | rfl)
  · simp [Text.isLowercase, Text.isUppercase] at hp
  · simp [Text.isLowercase, Text.isUppercase] at hp
  · simp [Text.isUppercase] at hc
  · simp [Text.isUppercase] at hc

theorem startsWord_dash (previous next : Option Char) : startsWord previous '-' next = false := by
  cases previous <;> rfl

theorem map_char_marks (c : Char) : (marks c).map Mark.char = image c := by
  rw [marks, List.map_map]
  exact List.map_id _

theorem source_of_mem_marks {c : Char} {m : Mark} (h : m ∈ marks c) : m.source = some c := by
  obtain ⟨d, -, rfl⟩ := List.mem_map.1 h
  rfl

theorem marks_ne_nil (c : Char) : marks c ≠ [] := by
  rw [marks, ne_eq, List.map_eq_nil_iff, image]
  split_ifs
  · nofun
  · exact Text.lower_ne_nil c

/-- The marked characters are those of the name in snake case. -/
theorem map_char_marksFrom (previous : Option Char) (cs : List Char) :
    (marksFrom previous cs).map Mark.char = snakeFrom previous cs := by
  induction cs generalizing previous with
  | nil => rfl
  | cons c rest ih =>
    rw [marksFrom, snakeFrom, List.map_append, List.map_append, map_char_marks, ih, image]
    by_cases hdash : c = '-'
    · subst hdash
      rw [startsWord_dash]
      rfl
    · rw [if_neg hdash, if_neg hdash]
      split_ifs <;> rfl

/-! ## Inserted underscores -/

theorem filter_marksFrom (previous : Option Char) (cs : List Char) :
    (marksFrom previous cs).filter (·.source.isSome) = cs.flatMap marks := by
  induction cs generalizing previous with
  | nil => rfl
  | cons c rest ih =>
    have inserted : (if startsWord previous c rest.head? then [separator] else []).filter
        (·.source.isSome) = [] := by
      split_ifs <;> rfl
    have kept : (marks c).filter (·.source.isSome) = marks c :=
      List.filter_eq_self.2 fun m hm => by rw [source_of_mem_marks hm, Option.isSome_some]
    rw [marksFrom, List.filter_append, List.filter_append, inserted, kept, ih, List.flatMap_cons]
    rfl

theorem char_of_mem_marksFrom {previous : Option Char} {cs : List Char} {m : Mark}
    (h : m ∈ marksFrom previous cs) (hsource : m.source = none) : m.char = '_' := by
  induction cs generalizing previous with
  | nil => cases h
  | cons c rest ih =>
    rcases List.mem_append.1 h with h | h
    · split_ifs at h
      · cases List.mem_singleton.1 h
        rfl
      · cases h
    · rcases List.mem_append.1 h with h | h
      · rw [source_of_mem_marks h] at hsource
        cases hsource
      · exact ih h

theorem char_ne_of_mem_marks {c : Char} {m : Mark} (hc : '_' ∉ image c) (h : m ∈ marks c) :
    m.char ≠ '_' :=
  fun heq => hc (heq ▸ map_char_marks c ▸ List.mem_map_of_mem h)

theorem mem_marks_of_mem_head? {c : Char} {ms : List Mark} {m : Mark}
    (h : m ∈ (marks c ++ ms).head?) : m ∈ marks c := by
  rw [List.head?_append_of_ne_nil _ (marks_ne_nil c)] at h
  exact List.mem_of_mem_head? h

/-- Behind any character, inserted underscores stand beside no other one. -/
theorem isChain_marks (p : Char) (cs : List Char) :
    (marks p ++ marksFrom (some p) cs).IsChain Mark.Apart := by
  have own (c : Char) : (marks c).IsChain Mark.Apart := by
    refine (List.pairwise_iff_forall_sublist.2 fun {a b} hab => ?_).isChain
    have ha := source_of_mem_marks (hab.subset List.mem_cons_self)
    have hb := source_of_mem_marks (hab.subset (List.mem_cons_of_mem _ List.mem_cons_self))
    simp [Mark.Apart, ha, hb]
  induction cs generalizing p with
  | nil => simpa [marksFrom] using own p
  | cons c rest ih =>
    rw [marksFrom]
    by_cases hword : startsWord (some p) c rest.head? = true
    · obtain ⟨hp, hc⟩ := underscore_not_mem_of_startsWord hword
      rw [if_pos hword, List.singleton_append]
      refine (own p).append (List.isChain_cons.2 ⟨fun m hm => ?_, ih c⟩) fun m hm n hn => ?_
      · have hm := mem_marks_of_mem_head? hm
        exact ⟨fun _ => char_ne_of_mem_marks hc hm, by simp [source_of_mem_marks hm]⟩
      · have hm := List.mem_of_mem_getLast? hm
        cases Option.some_inj.1 hn
        exact ⟨by simp [source_of_mem_marks hm], fun _ => char_ne_of_mem_marks hp hm⟩
    · rw [if_neg hword, List.nil_append]
      refine (own p).append (ih c) fun m hm n hn => ?_
      have hm := List.mem_of_mem_getLast? hm
      have hn := mem_marks_of_mem_head? hn
      constructor <;> simp [source_of_mem_marks hm, source_of_mem_marks hn]

theorem separated_marksFrom (cs : List Char) : Separated cs (marksFrom none cs) where
  sources := filter_marksFrom none cs
  inserted _ := char_of_mem_marksFrom
  start m hm := by
    cases cs with
    | nil => cases hm
    | cons c rest =>
      rw [source_of_mem_marks (mem_marks_of_mem_head? hm)]
      nofun
  apart := by
    cases cs with
    | nil => exact .nil
    | cons c rest => exact isChain_marks c rest

/-! ## Letters -/

/-- Without underscores, what is left of a name in snake case are its letters, lowered. -/
theorem filter_snakeFrom (previous : Option Char) (cs : List Char) :
    (snakeFrom previous cs).filter (· ≠ '_') =
      (cs.filter fun c => c ≠ '_' ∧ c ≠ '-').flatMap Text.lower := by
  induction cs generalizing previous with
  | nil => rfl
  | cons c rest ih =>
    rw [snakeFrom]
    by_cases hdash : c = '-'
    · simpa [hdash] using ih _
    · by_cases hunderscore : c = '_'
      · have lowered : Text.lower '_' = ['_'] := rfl
        split_ifs <;> simpa [hunderscore, lowered] using ih _
      · have letters : (Text.lower c).filter (· ≠ '_') = Text.lower c := by
          refine List.filter_eq_self.2 fun d hd => decide_eq_true ?_
          rintro rfl
          exact hunderscore (Text.eq_of_underscore_mem_lower hd)
        split_ifs <;> simp_all [List.filter_append]

/-- A character that snake case writes as it is, wherever it stands. -/
structure Unchanged (c : Char) : Prop where
  ne_dash : c ≠ '-'
  not_isUppercase : Text.isUppercase c = false
  lower_eq : Text.lower c = [c]

theorem snakeFrom_append_of_unchanged {cs : List Char} (h : ∀ c ∈ cs, Unchanged c)
    (previous : Option Char) (rest : List Char) :
    snakeFrom previous (cs ++ rest) = cs ++ snakeFrom (cs.getLast?.or previous) rest := by
  induction cs generalizing previous with
  | nil => rfl
  | cons c cs ih =>
    obtain ⟨hc, hcs⟩ := List.forall_mem_cons.1 h
    have hword (next : Option Char) : startsWord previous c next = false := by
      cases previous <;> simp [startsWord, hc.not_isUppercase]
    rw [List.cons_append, snakeFrom, if_neg hc.ne_dash, hword, if_neg (by decide), hc.lower_eq,
      ih hcs, List.getLast?_cons, List.singleton_append, List.cons_append]
    cases cs.getLast? <;> rfl

theorem snakeFrom_of_unchanged {cs : List Char} (h : ∀ c ∈ cs, Unchanged c)
    (previous : Option Char) : snakeFrom previous cs = cs := by
  simpa [snakeFrom] using snakeFrom_append_of_unchanged h previous []

/-- What is written for a character of ASCII is unchanged by snake case. -/
theorem unchanged_of_mem_image {c d : Char} (h : c.toNat < 128) (hd : d ∈ image c) :
    Unchanged d := by
  have letters : (image c).all fun d => d != '-' && !Text.isUppercase d && Text.lower d == [d] :=
    Text.forall_ascii (P := fun c => (image c).all fun d =>
      d != '-' && !Text.isUppercase d && Text.lower d == [d]) (by decide +kernel) h
  have hletter := List.all_eq_true.1 letters d hd
  simp only [Bool.and_eq_true, bne_iff_ne, Bool.not_eq_true', beq_iff_eq] at hletter
  exact ⟨hletter.1.1, hletter.1.2, hletter.2⟩

theorem unchanged_of_mem_snakeFrom {cs : List Char} (h : ∀ c ∈ cs, c.toNat < 128)
    (previous : Option Char) : ∀ d ∈ snakeFrom previous cs, Unchanged d := by
  intro d hd
  rw [← map_char_marksFrom] at hd
  obtain ⟨m, hm, rfl⟩ := List.mem_map.1 hd
  cases hsource : m.source with
  | none =>
    rw [char_of_mem_marksFrom hm hsource]
    exact ⟨by decide, by decide, by decide⟩
  | some c =>
    -- What was not inserted is written for a character of the name.
    have hm : m ∈ cs.flatMap marks := by
      rw [← filter_marksFrom previous]
      exact List.mem_filter.2 ⟨hm, by rw [hsource, Option.isSome_some]⟩
    obtain ⟨c, hc, hm⟩ := List.mem_flatMap.1 hm
    exact unchanged_of_mem_image (h c hc) (map_char_marks c ▸ List.mem_map_of_mem hm)

/-- Snake case does no more to a name than to lower its letters, to write dashes as underscores, and
to insert underscores, none of them at the start or beside another one. A name in ASCII has neither
capitals nor dashes then, and stays as it is from then on. -/
theorem snake_lowers_and_separates (s : String) :
    (snake s).toList.filter (· ≠ '_') =
        (s.toList.filter fun c => c ≠ '_' ∧ c ≠ '-').flatMap Text.lower ∧
      (∃ ms, Separated s.toList ms ∧ (snake s).toList = ms.map Mark.char) ∧
      ((∀ c ∈ s.toList, c.toNat < 128) →
        (∀ c ∈ (snake s).toList, Text.isUppercase c = false ∧ c ≠ '-') ∧
          snake (snake s) = snake s) := by
  have written : (snake s).toList = snakeFrom none s.toList := String.toList_ofList
  refine ⟨?_, ⟨marksFrom none s.toList, separated_marksFrom _, ?_⟩, fun hascii => ?_⟩
  · rw [written, filter_snakeFrom]
  · rw [written, map_char_marksFrom]
  · have unchanged := unchanged_of_mem_snakeFrom hascii none
    refine ⟨fun c hc => ?_, ?_⟩
    · obtain ⟨hdash, hupper, -⟩ := unchanged c (written ▸ hc)
      exact ⟨hupper, hdash⟩
    · rw [snake, written, snakeFrom_of_unchanged unchanged, snake]

/-- A name with an acronym, digits, a dash, and underscores of its own. -/
theorem snake_lowers_and_separates_acronym :
    snake "MDEntryPx2Id-Raw__X" = "md_entry_px2_id_raw__x" ∧
      (∀ c ∈ "MDEntryPx2Id-Raw__X".toList, c.toNat < 128) ∧
      snake "md_entry_px2_id_raw__x" = "md_entry_px2_id_raw__x" := by
  have written : snake "MDEntryPx2Id-Raw__X" = "md_entry_px2_id_raw__x" := by decide +kernel
  have ascii : ∀ c ∈ "MDEntryPx2Id-Raw__X".toList, c.toNat < 128 :=
    Text.forall_mem_of_all (by decide)
  have fixed := ((snake_lowers_and_separates "MDEntryPx2Id-Raw__X").2.2 ascii).2
  exact ⟨written, ascii, written ▸ fixed⟩

end Name

end EditableFields
