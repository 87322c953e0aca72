import EditableFields.Text.Letter
import Mathlib.Tactic.SplitIfs

/-!
# Characters

What holds of the characters of ASCII is told by looking at them (`Text.forall_ascii`). Those beyond
are lowered by runs of code points, to nothing before the small letters (`Text.le_of_mem_lower`).
-/

namespace EditableFields.Text

/-- The characters of ASCII are looked at one by one. -/
theorem forall_ascii {P : Char → Prop} (h : ∀ n < 128, P (Char.ofNat n)) {c : Char}
    (hc : c.toNat < 128) : P c :=
  Char.ofNat_toNat c ▸ h c.toNat hc

/-- Fixed characters are looked at one by one. -/
theorem forall_mem_of_all {P : Char → Prop} [DecidablePred P] {cs : List Char}
    (h : cs.all (fun c => decide (P c)) = true) : ∀ c ∈ cs, P c := by
  simpa using h

/-- A character is lowered to one character at least. -/
theorem lower_ne_nil (c : Char) : lower c ≠ [] := by
  unfold lower
  split_ifs
  · exact List.cons_ne_nil _ _
  · exact List.cons_ne_nil _ _
  · split <;> exact List.cons_ne_nil _ _

theorem lower_of_ascii {c : Char} (h : c.toNat < 128) : lower c = [c.toLower] :=
  if_pos h

/-- A character beyond ASCII is lowered to characters from the small letters on. -/
theorem le_of_mem_lower {c d : Char} (h : ¬ c.toNat < 128) (hd : d ∈ lower c) : 97 ≤ d.toNat := by
  have runs : ∀ r ∈ loweringRuns, 97 ≤ r.run.first + r.shift ∧
      (r.run.last + r.shift < 0xD800 ∨
        0xE000 ≤ r.run.first + r.shift ∧ r.run.last + r.shift < 0x110000) := by
    decide +kernel
  unfold lower at hd
  rw [if_neg h] at hd
  split_ifs at hd
  · have dotted : ∀ d ∈ ['i', Char.ofNat 0x307], 97 ≤ d.toNat := forall_mem_of_all rfl
    exact dotted d hd
  · split at hd
    · next r hr =>
      -- A code point of the run is lowered by its shift, to a code point that is a character's.
      cases List.mem_singleton.1 hd
      obtain ⟨hletter, hvalid⟩ := runs r (List.mem_of_find?_eq_some hr)
      have hrun := List.find?_some hr
      simp only [CodeRun.contains, Bool.and_eq_true, decide_eq_true_eq] at hrun
      obtain ⟨⟨hfirst, hlast⟩, -⟩ := hrun
      have hchar : (c.toNat + r.shift).toNat.isValidChar := by
        unfold Nat.isValidChar
        omega
      rw [Char.ofNat, dif_pos hchar]
      change 97 ≤ (c.toNat + r.shift).toNat
      omega
    · cases List.mem_singleton.1 hd
      omega

/-- No other character is lowered to an underscore. -/
theorem eq_of_underscore_mem_lower {c : Char} (h : '_' ∈ lower c) : c = '_' := by
  by_cases hascii : c.toNat < 128
  · rw [lower_of_ascii hascii, List.mem_singleton] at h
    exact forall_ascii (P := fun c => c.toLower = '_' → c = '_') (by decide) hascii h.symm
  · exact absurd (le_of_mem_lower hascii h) (by decide)

end EditableFields.Text
