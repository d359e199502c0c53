import Mathlib.Analysis.SpecialFunctions.Trigonometric.Basic
import Mathlib.Tactic.LinearCombination
import CircuitScript.Gate.Matrix
/-!
Gates in exact arithmetic: scalars are real numbers, and every constant is the number it names.
Amplitudes then are complex numbers, and matrices obey the laws of products and adjoints.
-/
namespace CircuitScript

noncomputable instance : Scalar ℝ where
  zero := 0
  one := 1
  two := 2
  sqrt := Real.sqrt
  sin := Real.sin
  cos := Real.cos
  quarterTurn := Real.pi / 2
  eighthTurn := Real.pi / 4
  sqrtTwo := √2
  invSqrtTwo := 1 / √2
  degenerateNorm := 1e-8
  isBelow x y := decide (x < y)

attribute [ext] Amplitude Square

namespace Scalar

@[simp] theorem zero_real : (zero : ℝ) = 0 := rfl
@[simp] theorem one_real : (one : ℝ) = 1 := rfl
@[simp] theorem two_real : (two : ℝ) = 2 := rfl
@[simp] theorem quarterTurn_real : (quarterTurn : ℝ) = Real.pi / 2 := rfl
@[simp] theorem eighthTurn_real : (eighthTurn : ℝ) = Real.pi / 4 := rfl
@[simp] theorem sqrtTwo_real : (sqrtTwo : ℝ) = √2 := rfl
@[simp] theorem invSqrtTwo_real : (invSqrtTwo : ℝ) = 1 / √2 := rfl
@[simp] theorem degenerateNorm_real : (degenerateNorm : ℝ) = 1e-8 := rfl

variable (x y : ℝ)

@[simp] theorem sqrt_real : sqrt x = √x := rfl
@[simp] theorem sin_real : sin x = Real.sin x := rfl
@[simp] theorem cos_real : cos x = Real.cos x := rfl
@[simp] theorem isBelow_real : isBelow x y = true ↔ x < y := decide_eq_true_iff

end Scalar

namespace Amplitude

@[simp] theorem re_zero : (zero : Amplitude ℝ).re = 0 := rfl
@[simp] theorem im_zero : (zero : Amplitude ℝ).im = 0 := rfl
@[simp] theorem re_one : (one : Amplitude ℝ).re = 1 := rfl
@[simp] theorem im_one : (one : Amplitude ℝ).im = 0 := rfl

section

variable (x : ℝ) (a b : Amplitude ℝ)

@[simp] theorem re_ofReal : (ofReal x).re = x := rfl
@[simp] theorem im_ofReal : (ofReal x).im = 0 := rfl
@[simp] theorem re_add : (a.add b).re = a.re + b.re := rfl
@[simp] theorem im_add : (a.add b).im = a.im + b.im := rfl
@[simp] theorem re_mul : (a.mul b).re = a.re * b.re - a.im * b.im := rfl
@[simp] theorem im_mul : (a.mul b).im = a.re * b.im + a.im * b.re := rfl
@[simp] theorem re_conj : a.conj.re = a.re := rfl
@[simp] theorem im_conj : a.conj.im = -a.im := rfl

@[simp] theorem re_unit : (unit x).re = Real.cos x := one_mul _
@[simp] theorem im_unit : (unit x).im = Real.sin x := one_mul _

end

variable (x y : ℝ)

@[simp] theorem unit_zero : unit (0 : ℝ) = one := by
  ext <;> simp

theorem unit_mul_unit : (unit x).mul (unit y) = unit (x + y) := by
  ext
  · simp [Real.cos_add]
  · simp [Real.sin_add]
    ring

@[simp] theorem conj_unit : (unit x).conj = unit (-x) := by
  ext <;> simp

end Amplitude

namespace Square

variable (m n : Square (Amplitude ℝ))

@[simp] theorem scale_one : m.scale .one = m := by
  ext <;> simp [scale, map]

theorem scale_mul_scale (u v : Amplitude ℝ) :
    (m.scale u).mul (n.scale v) = (m.mul n).scale (u.mul v) := by
  ext <;> simp [scale, map, mul] <;> ring

theorem adjoint_scale (u : Amplitude ℝ) : (m.scale u).adjoint = m.adjoint.scale u.conj := by
  ext <;> simp [scale, map, adjoint] <;> ring

def IsUnitary : Prop := m.mul m.adjoint = identity

variable {m}

theorem IsUnitary.scale_unit (h : m.IsUnitary) (phase : ℝ) :
    (m.scale (.unit phase)).IsUnitary := by
  unfold IsUnitary at h ⊢
  rw [adjoint_scale, scale_mul_scale, h, Amplitude.conj_unit, Amplitude.unit_mul_unit,
    add_neg_cancel, Amplitude.unit_zero, scale_one]

end Square

end CircuitScript
