import EditableFields.Field.Factory
import EditableFields.Proofs.Field.Operation

/-!
# Fields: optional values

A field of an optional value is the field inside and whether a value is there, and the two do not
meet. What is done to the whole is done to the field inside as `projected` says, and whether a value
is there is as the last operation has left it that decides it (`run_nullable`). So the field inside
is always what it would be by itself (`nullable_after`): no edit is lost while the value is hidden,
and none that is made meanwhile.
-/

namespace EditableFields

namespace Operation

/-- What an operation on a field of an optional value does to the field inside. -/
def projected : Operation → List Operation
  | set (.present content) => [set content]
  | reset => [reset]
  | editInner edits => edits
  | _ => []

/-- Whether a value is there after an operation that decides it. `initially` says whether there was
one at first. -/
def decides? (initially : Bool) : Operation → Option Bool
  | set v => some v.isPresent
  | setPresent present => some present
  | reset => some initially
  | _ => none

/-- What an operation makes of a field of an optional value. -/
theorem run_nullable (op : Operation) (h : Header) (now : Bool) (inner : Field) :
    ∃ h', h'.initial = h.initial ∧ (op.run (.nullable h now inner)).1 =
      .nullable h' ((op.decides? h.initial.isPresent).getD now) (inner.after op.projected) := by
  cases op with
  | set v => cases v <;> exact ⟨h, rfl, rfl⟩
  | setPresent present =>
    refine ⟨h, rfl, ?_⟩
    rw [run, Field.setPresent]
    by_cases heq : now = present
    · rw [if_pos heq, heq]
      rfl
    · rw [if_neg heq]
      rfl
  | subscribe | unsubscribe => exact ⟨_, by rfl, rfl⟩
  | reset | select | selectVariant | editChildren | editActive | editInner => exact ⟨h, rfl, rfl⟩

end Operation

namespace Field

open Operation

theorem exists_nullable_after (ops : List Operation) (h : Header) (now : Bool) (inner : Field) :
    ∃ h', (nullable h now inner).after ops =
      nullable h' ((ops.filterMap (·.decides? h.initial.isPresent)).getLastD now)
        (inner.after (ops.flatMap projected)) := by
  -- Observers come and go, so the header is any that has the initial value of the first.
  induction ops generalizing h now inner with
  | nil => exact ⟨h, rfl⟩
  | cons op ops ih =>
    obtain ⟨h', hinitial, hrun⟩ := op.run_nullable h now inner
    obtain ⟨h'', hafter⟩ :=
      ih h' ((op.decides? h.initial.isPresent).getD now) (inner.after op.projected)
    refine ⟨h'', ?_⟩
    rw [hinitial] at hafter
    have hfirst : (nullable h now inner).after (op :: ops) =
        ((op.run (nullable h now inner)).1).after ops := rfl
    rw [hfirst, hrun, hafter, List.flatMap_cons, after_append]
    cases hdecides : op.decides? h.initial.isPresent with
    | none => rw [List.filterMap_cons_none hdecides, Option.getD_none]
    | some present =>
      rw [List.filterMap_cons_some hdecides, List.getLastD_cons, Option.getD_some]

/-- The field of the content of an optional value by itself, made with the content or else with
`fallback`, after what operations on the whole do to it. -/
def contentAfter (inner : FieldFactory) (fallback : Value) (label : String) (v : Value)
    (ops : List Operation) : Field :=
  (inner label (v.content?.getD fallback)).after (ops.flatMap projected)

/-- Whether an optional value that was `v` at first is there after operations: the last that decides
it does so. -/
def presentAfter (v : Value) (ops : List Operation) : Bool :=
  (ops.filterMap (·.decides? v.isPresent)).getLastD v.isPresent

/-- A field of an optional value is the field of its content, as it would be by itself, and whether
the value is there. Even what is edited while the value is hidden is seen when it is shown again. -/
theorem nullable_after (inner : FieldFactory) (fallback : Value) (label : String) (v : Value)
    (ops : List Operation) :
    ((FieldFactory.nullable inner fallback label v).after ops).inner? =
        some (contentAfter inner fallback label v ops) ∧
      ((FieldFactory.nullable inner fallback label v).after ops).isPresent = presentAfter v ops ∧
      ((FieldFactory.nullable inner fallback label v).after ops).value =
        (if presentAfter v ops then .present (contentAfter inner fallback label v ops).value
          else .absent) ∧
      ∀ edits, ((FieldFactory.nullable inner fallback label v).after
          (ops ++ [.setPresent false, .editInner edits, .setPresent true])).value =
        .present ((contentAfter inner fallback label v ops).after edits).value := by
  have made (ops : List Operation) : ∃ h',
      (FieldFactory.nullable inner fallback label v).after ops =
        nullable h' (presentAfter v ops) (contentAfter inner fallback label v ops) :=
    exists_nullable_after ops _ _ _
  obtain ⟨h, hafter⟩ := made ops
  refine ⟨by rw [hafter]; rfl, by rw [hafter]; rfl, by rw [hafter]; rfl, fun edits => ?_⟩
  obtain ⟨h', hafter'⟩ := made (ops ++ [.setPresent false, .editInner edits, .setPresent true])
  have hshown : presentAfter v
      (ops ++ [.setPresent false, .editInner edits, .setPresent true]) = true := by
    simp [presentAfter, decides?]
  have hcontent : contentAfter inner fallback label v
      (ops ++ [.setPresent false, .editInner edits, .setPresent true]) =
        (contentAfter inner fallback label v ops).after edits := by
    simp [contentAfter, projected, after_append]
  rw [hafter', hshown, hcontent]
  rfl

end Field

end EditableFields
