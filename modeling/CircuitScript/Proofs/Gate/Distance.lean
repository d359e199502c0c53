import CircuitScript.Gate.Distance
import CircuitScript.Proofs.Decimal.Order
/-!
How much the verdicts on matrices say. Two matrices are within a tolerance of each other exactly
when no distance between their entries is a number above it. A distance that is no number is not
above anything, so where there is one the verdict does not say that the matrices are close.
-/
namespace CircuitScript

open Decimal

section

variable {x y tolerance : Float}

theorem isNaN_larger (hx : x.isNaN = false) : (larger x y).isNaN = false := by
  unfold larger
  rw [hx, if_neg Bool.false_ne_true]
  split
  · exact hx
  · rename_i hy
    split
    · exact Bool.eq_false_iff.2 hy
    · exact hx

theorem larger_le_iff (hx : x.isNaN = false) :
    larger x y ≤ tolerance ↔ x ≤ tolerance ∧ (y.isNaN = false → y ≤ tolerance) := by
  unfold larger
  rw [hx, if_neg Bool.false_ne_true]
  cases hy : y.isNaN with
  | true => simp
  | false =>
    rw [if_neg Bool.false_ne_true]
    by_cases hlt : x < y
    · rw [if_pos hlt]
      constructor
      · intro h
        exact ⟨Double.le_trans (Double.le_of_lt hx hy hlt) h, fun _ => h⟩
      · rintro ⟨-, h⟩
        exact h rfl
    · rw [if_neg hlt]
      constructor
      · intro h
        exact ⟨h, fun _ => Double.le_trans (Double.le_of_not_lt hx hy hlt) h⟩
      · rintro ⟨h, -⟩
        exact h

theorem foldl_larger_le_iff {distances : List Float} (hx : x.isNaN = false) :
    distances.foldl larger x ≤ tolerance ↔
      x ≤ tolerance ∧ ∀ d ∈ distances, d.isNaN = false → d ≤ tolerance := by
  induction distances generalizing x with
  | nil => simp
  | cons d distances ih =>
    rw [List.foldl_cons, ih (isNaN_larger hx), larger_le_iff hx, List.forall_mem_cons, and_assoc]

end

namespace Square

def distances (m n : Square (Amplitude Float)) : List Float :=
  [(m.a.sub n.a).norm, (m.b.sub n.b).norm, (m.c.sub n.c).norm, (m.d.sub n.d).norm]

variable {m n : Square (Amplitude Float)} {tolerance : Float}

theorem isWithin_iff :
    m.isWithin n tolerance = true ↔
      0.0 ≤ tolerance ∧ ∀ d ∈ m.distances n, d.isNaN = false → d ≤ tolerance := by
  have hzero : (0.0 : Float).isNaN = false := by decide +kernel
  rw [isWithin, decide_eq_true_iff, ← foldl_larger_le_iff hzero]
  rfl

theorem forall_le_iff_of_isWithin (h : m.isWithin n tolerance = true) :
    (∀ d ∈ m.distances n, d ≤ tolerance) ↔ ∀ d ∈ m.distances n, d.isNaN = false := by
  constructor
  · intro hle d hd
    exact (Double.isNaN_of_le (hle d hd)).1
  · intro hnumbers d hd
    exact (isWithin_iff.1 h).2 d hd (hnumbers d hd)

/-- Matrices are found to be close, and a matrix to be unitary, exactly when the tolerance is not
negative and each distance that is a number is within it. So of a pair of matrices found to be close
each distance is within the tolerance exactly when none of them is no number. -/
theorem isWithin_iff_forall_number_le (m n : Square (Amplitude Float)) (tolerance : Float) :
    (m.isWithin n tolerance = true ↔
      0.0 ≤ tolerance ∧ ∀ d ∈ m.distances n, d.isNaN = false → d ≤ tolerance) ∧
    (m.isUnitary tolerance = true ↔
      0.0 ≤ tolerance ∧
        ∀ d ∈ (m.mul m.adjoint).distances identity, d.isNaN = false → d ≤ tolerance) ∧
    (m.isWithin n tolerance = true →
      ((∀ d ∈ m.distances n, d ≤ tolerance) ↔ ∀ d ∈ m.distances n, d.isNaN = false)) :=
  ⟨isWithin_iff, isWithin_iff, forall_le_iff_of_isWithin⟩

/-- A matrix whose phases are no numbers is found to be unitary. -/
theorem isUnitary_diagonal_nan :
    let phase : Amplitude Float := ⟨0.0 / 0.0, 0.0 / 0.0⟩
    let m := diagonal phase phase
    m.isUnitary unitaryTolerance = true ∧
      ∃ d ∈ (m.mul m.adjoint).distances identity, d.isNaN = true ∧ ¬d ≤ unitaryTolerance := by
  decide +kernel

end Square

end CircuitScript
