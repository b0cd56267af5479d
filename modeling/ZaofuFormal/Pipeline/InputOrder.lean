import Mathlib.Data.List.Perm.Basic
import ZaofuFormal.Pipeline.DispatchPlan

/-!
# The order of the inputs

Tasks, operations and attempts are sorted by keys that end in their ids, so
that a pass over distinct ids depends on what it is given and not on the order
in which the stores list it.
-/

namespace ZaofuFormal.Pipeline

open Foundation Foundation.Sorting

variable {rows : List TaskRow} {first second : ReconcileInput}

theorem nodup_taskOrder (distinct : (rows.map TaskRow.id).Nodup) : (rows.map taskOrder).Nodup := by
  refine List.Nodup.of_map (fun key => (ofLex (ofLex key).2).2) ?_
  rw [List.map_map]
  exact distinct

theorem nodup_operationSortKey {operations : List PipelineOperation}
    (distinct : (operations.map PipelineOperation.operationId).Nodup) :
    (operations.map operationSortKey).Nodup := by
  refine List.Nodup.of_map (fun key => (ofLex (ofLex (ofLex key).2).2).2) ?_
  rw [List.map_map]
  exact distinct

/-- The rows of permuted tasks are permuted rows. -/
theorem rows_perm {first second : List Json} (perm : first.Perm second)
    (read : first.mapM taskRow = .ok rows) :
    ∃ others, second.mapM taskRow = .ok others ∧ rows.Perm others := by
  have related := (Fallible.mapM_eq_ok_iff taskRow first rows).mp read
  obtain ⟨others, relatedOthers, permOthers⟩ := List.perm_comp_forall₂ perm.symm related
  exact ⟨others, (Fallible.mapM_eq_ok_iff taskRow second others).mpr relatedOthers, permOthers.symm⟩

/-- The same inputs in another order. -/
structure Reordered (first second : ReconcileInput) : Prop where
  tasks : first.tasks.Perm second.tasks
  operations : first.operations.Perm second.operations
  attempts : first.attempts.Perm second.attempts
  others : second = { first with
    tasks := second.tasks, operations := second.operations, attempts := second.attempts }

theorem Reordered.symm {first second : ReconcileInput} (reordered : Reordered first second) :
    Reordered second first where
  tasks := reordered.tasks.symm
  operations := reordered.operations.symm
  attempts := reordered.attempts.symm
  others := by rw [reordered.others]

/-- The ids by which a pass sorts its inputs are distinct. -/
structure DistinctIds (input : ReconcileInput) : Prop where
  tasks : (input.tasks.map rawTaskId).Nodup
  operations : (input.operations.map PipelineOperation.operationId).Nodup
  attempts : (input.attempts.map attemptId).Nodup

theorem DistinctIds.reordered (distinct : DistinctIds first)
    (reordered : Reordered first second) : DistinctIds second where
  tasks := (reordered.tasks.map _).nodup_iff.mp distinct.tasks
  operations := (reordered.operations.map _).nodup_iff.mp distinct.operations
  attempts := (reordered.attempts.map _).nodup_iff.mp distinct.attempts

/-- Normalization forgets the order of the inputs. -/
theorem normalize_reordered {others : List TaskRow}
    (distinct : DistinctIds first) (reordered : Reordered first second) (perm : rows.Perm others)
    (rowsDistinct : (rows.map TaskRow.id).Nodup) :
    normalize first rows = normalize second others := by
  have tasks := sortedBy_eq_of_perm perm (nodup_taskOrder rowsDistinct)
  have operations := sortedBy_eq_of_perm reordered.operations
    (nodup_operationSortKey distinct.operations)
  have attempts := sortedBy_eq_of_perm reordered.attempts distinct.attempts
  rw [reordered.others]
  simp only [normalize, tasks, operations, attempts]

theorem reconcile_reordered {digests : Digests}
    {projection : Projection} (distinct : DistinctIds first) (reordered : Reordered first second)
    (planned : reconcile digests first = .ok projection) :
    reconcile digests second = .ok projection := by
  obtain ⟨rows, read, rfl⟩ := reconcile_ok planned
  obtain ⟨others, readOthers, perm⟩ := rows_perm reordered.tasks read
  have rowsDistinct : (rows.map TaskRow.id).Nodup := by
    rw [rows_ids read]
    exact distinct.tasks
  rw [reconcile, readOthers, normalize_reordered distinct reordered perm rowsDistinct]

/-- A pass returns a projection for one order of its inputs exactly when it
returns the same projection for every other order. -/
theorem plan_order_independent (digests : Digests) {first second : ReconcileInput}
    (distinct : DistinctIds first) (reordered : Reordered first second)
    (projection : Projection) :
    reconcile digests first = .ok projection ↔ reconcile digests second = .ok projection := by
  constructor
  · exact reconcile_reordered distinct reordered
  · exact reconcile_reordered (distinct.reordered reordered) reordered.symm

/-- The contended tasks, listed the other way round. -/
def swappedInput : ReconcileInput :=
  { contendedInput with tasks := contendedInput.tasks.reverse }

theorem swapped_plan_same :
    swappedInput.tasks ≠ contendedInput.tasks ∧
      ∃ projection, reconcile sampleDigests contendedInput = .ok projection ∧
        reconcile sampleDigests swappedInput = .ok projection := by
  refine ⟨by decide +kernel, ?_⟩
  have tasks : (reconcile sampleDigests contendedInput).toOption.map Projection.orderedTaskIds =
      some ["T1", "T2"] := by
    decide +kernel
  have reordered : Reordered contendedInput swappedInput :=
    ⟨(List.reverse_perm _).symm, List.Perm.refl _, List.Perm.refl _, rfl⟩
  have distinct : DistinctIds contendedInput := by
    constructor <;> decide +kernel
  obtain ⟨projection, planned, _⟩ := Fallible.ok_of_toOption_map tasks
  exact ⟨projection, planned,
    (plan_order_independent sampleDigests distinct reordered projection).mp planned⟩

end ZaofuFormal.Pipeline
