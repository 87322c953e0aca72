import EditableFields.Proofs.Planning.Comparison

/-!
# Planning: tolerance only rescues

Whether members that cannot be edited are left to the caller is looked at in one place, where such
a member is met. So a run that leaves nothing to the caller and one that does go the same way until
the first run stops at such a member (`Rescues`), and what they come to is written alike
(`source_tolerating`). `generate_tolerating` says it of all that is generated.
-/

namespace EditableFields

/-- The settings, with members that cannot be edited left to the caller or not. -/
def Configuration.tolerating (c : Configuration) (tolerant : Bool) : Configuration :=
  { c with tolerant }

/-- The second result is the first, unless the first is that a member cannot be edited. -/
def Rescues {α : Type} (x y : Except GenerationError α) : Prop :=
  x = y ∨ ∃ owner member reason, x = .error (.unsupportedMember owner member reason)

namespace Rescues

variable {α β : Type}

theorem refl (x : Except GenerationError α) : Rescues x x := .inl rfl

theorem bind {x y : Except GenerationError α} {f g : α → Except GenerationError β}
    (h : Rescues x y) (hfg : ∀ a, Rescues (f a) (g a)) : Rescues (x >>= f) (y >>= g) := by
  rcases h with rfl | ⟨owner, member, reason, rfl⟩
  · cases x with
    | error e => exact refl _
    | ok a => exact hfg a
  · exact .inr ⟨owner, member, reason, rfl⟩

end Rescues

namespace Planning

/-- A member that cannot be edited is where tolerance makes a difference. -/
theorem comparison_rescues (c : Configuration) :
    Comparison (c.tolerating false) (c.tolerating true) Rescues where
  runtime_eq := rfl
  nameCase_eq := rfl
  refl := .refl
  bind := .bind
  obligation owner member _ reason := .inr ⟨owner, member, reason, rfl⟩

theorem planRequests_rescues {c : Configuration} (catalog : Catalog) (rs : List Request)
    (s : Planning) :
    Rescues (planRequests (c.tolerating false) catalog rs s)
      (planRequests (c.tolerating true) catalog rs s) :=
  (comparison_rescues c).planRequests catalog rs s

theorem source_tolerating (c : Configuration) (tolerant : Bool) (s : Planning) :
    s.source (c.tolerating tolerant) = s.source c := by
  have runtime : (c.tolerating tolerant).runtime = c.runtime := rfl
  have written : s.lines (c.tolerating tolerant) = s.lines c := lines_congr runtime s
  rw [source, source, written]
  rfl

/-- To leave members that cannot be edited to the caller changes nothing but the error that reports
such a member: without it, what is generated and any other error stay the same. -/
theorem generate_tolerating (catalog : Catalog) (c : Configuration) (requests : List Request) :
    catalog.generate { c with tolerant := true } requests =
        catalog.generate { c with tolerant := false } requests ∨
      ∃ owner member reason, catalog.generate { c with tolerant := false } requests =
        .error (.unsupportedMember owner member reason) := by
  have planned : Rescues (planRequests (c.tolerating false) catalog requests .fresh)
      (planRequests (c.tolerating true) catalog requests .fresh) := planRequests_rescues _ _ _
  have generated : Rescues (catalog.generate (c.tolerating false) requests)
      (catalog.generate (c.tolerating true) requests) := by
    refine planned.bind fun s => ?_
    rw [source_tolerating, source_tolerating]
    exact .refl _
  exact generated.imp Eq.symm id

end Planning

end EditableFields
