import CircuitScript.Proofs.Gate.Exact
import CircuitScript.Gate.Strategy
/-!
Rotations by an angle about a direction. Turning the other way is the adjoint, and the formula for a
vector is a turn by its length, of either sign, unless the vector is short but not zero.
-/
namespace CircuitScript

structure Direction where
  x : ℝ
  y : ℝ
  z : ℝ
  sq_add : x ^ 2 + y ^ 2 + z ^ 2 = 1

def Axis.direction : Axis → Direction
  | .x => ⟨1, 0, 0, by norm_num⟩
  | .y => ⟨0, 1, 0, by norm_num⟩
  | .z => ⟨0, 0, 1, by norm_num⟩

/-- The exponential of `i angle (x X + y Y + z Z)` for a direction `(x, y, z)`. -/
noncomputable def turn (angle : ℝ) (d : Direction) : Square (Amplitude ℝ) :=
  ⟨⟨Real.cos angle, Real.sin angle * d.z⟩, ⟨Real.sin angle * d.y, Real.sin angle * d.x⟩,
   ⟨-Real.sin angle * d.y, Real.sin angle * d.x⟩, ⟨Real.cos angle, -Real.sin angle * d.z⟩⟩

section

variable (a b : ℝ) (d : Direction)

@[simp] theorem turn_zero : turn 0 d = .identity := by
  ext <;> simp [turn, Square.identity, Square.diagonal]

theorem turn_mul_turn : (turn a d).mul (turn b d) = turn (a + b) d := by
  have hd := d.sq_add
  ext <;> simp [turn, Square.mul, Real.cos_add, Real.sin_add]
  · linear_combination -Real.sin a * Real.sin b * hd
  · ring
  · ring
  · ring
  · ring
  · ring
  · linear_combination -Real.sin a * Real.sin b * hd
  · ring

theorem adjoint_turn : (turn a d).adjoint = turn (-a) d := by
  ext <;> simp [turn, Square.adjoint]

theorem isUnitary_turn : (turn a d).IsUnitary := by
  rw [Square.IsUnitary, adjoint_turn, turn_mul_turn, add_neg_cancel, turn_zero]

end

namespace ClosedForm

theorem rotationVector_of_lt {x y z : ℝ} (h : √(x * x + y * y + z * z) < 1e-8) :
    rotationVector x y z = .identity :=
  if_pos (by simpa using h)

theorem rotationVector_of_le {x y z : ℝ} (h : 1e-8 ≤ √(x * x + y * y + z * z)) :
    rotationVector x y z =
      let n := √(x * x + y * y + z * z)
      let s := Real.sin n
      let c := Real.cos n
      ⟨⟨c, s * (z / n)⟩, ⟨s * (y / n), s * (x / n)⟩, ⟨-s * (y / n), s * (x / n)⟩,
       ⟨c, -s * (z / n)⟩⟩ :=
  if_neg (by simpa using h)

end ClosedForm

theorem Direction.norm_mul (d : Direction) (r : ℝ) :
    √(r * d.x * (r * d.x) + r * d.y * (r * d.y) + r * d.z * (r * d.z)) = |r| := by
  rw [← Real.sqrt_sq_eq_abs]
  congr 1
  linear_combination r ^ 2 * d.sq_add

theorem sin_abs_mul_div {r : ℝ} (hr : r ≠ 0) (u : ℝ) :
    Real.sin |r| * (r * u / |r|) = Real.sin r * u := by
  obtain h | h := abs_choice r
  · rw [h]
    field_simp
  · rw [h, Real.sin_neg]
    field_simp

theorem ClosedForm.rotationVector_mul (d : Direction) {r : ℝ} (h : r = 0 ∨ 1e-8 ≤ |r|) :
    rotationVector (r * d.x) (r * d.y) (r * d.z) = turn r d := by
  have hnorm := d.norm_mul r
  obtain rfl | h := h
  · rw [turn_zero, rotationVector_of_lt]
    rw [hnorm]
    norm_num
  · have hr : r ≠ 0 := by
      rintro rfl
      norm_num at h
    rw [rotationVector_of_le (by rwa [hnorm])]
    simp only [hnorm, turn, neg_mul, sin_abs_mul_div hr, Real.cos_abs]

theorem ClosedForm.exists_turn (x y z : ℝ) :
    ∃ r d, rotationVector x y z = turn r d ∧ rotationVector (-x) (-y) (-z) = turn (-r) d := by
  obtain h | h := lt_or_ge √(x * x + y * y + z * z) 1e-8
  · refine ⟨0, Axis.x.direction, ?_, ?_⟩
    · rw [turn_zero, rotationVector_of_lt h]
    · rw [neg_zero, turn_zero, rotationVector_of_lt]
      simpa using h
  · have hpos : 0 < √(x * x + y * y + z * z) := lt_of_lt_of_le (by norm_num) h
    have hsq := Real.mul_self_sqrt (Real.sqrt_pos.1 hpos).le
    set n := √(x * x + y * y + z * z)
    let d : Direction := ⟨x / n, y / n, z / n, by field_simp; linarith⟩
    have hx : n * d.x = x := mul_div_cancel₀ x hpos.ne'
    have hy : n * d.y = y := mul_div_cancel₀ y hpos.ne'
    have hz : n * d.z = z := mul_div_cancel₀ z hpos.ne'
    have habs : 1e-8 ≤ |n| := by rwa [abs_of_pos hpos]
    refine ⟨n, d, ?_, ?_⟩
    · rw [← rotationVector_mul d (.inr habs), hx, hy, hz]
    · rw [← rotationVector_mul d (.inr (by rwa [abs_neg])), neg_mul, neg_mul, neg_mul, hx, hy, hz]

theorem ClosedForm.rotationAxis_eq (angle : ℝ) (axis : Axis) :
    rotationAxis angle axis = turn angle axis.direction := by
  cases axis <;> ext <;> simp [rotationAxis, turn, Axis.direction, Square.diagonal]

end CircuitScript
