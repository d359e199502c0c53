import CircuitScript.Proofs.Decimal.Double
import Mathlib.Data.Prod.Lex
/-!
The order of doubles. Numbers stand on a line, on which both zeros have one place, and they are
compared by their places; what is no number is compared with nothing.
-/
namespace CircuitScript.Decimal

open Float.Model

/-- Where a number stands: its class first, from one infinity to the other, then its exponent and
its significand, which count down below zero. -/
def place : UnpackedFloat → ℤ ×ₗ ℤ ×ₗ ℤ
  | .infinity .negative => toLex (-2, toLex (0, 0))
  | .finite .negative mantissa exponent _ => toLex (-1, toLex (-exponent, -mantissa))
  | .zero _ | .notANumber => toLex (0, toLex (0, 0))
  | .finite .positive mantissa exponent _ => toLex (1, toLex (exponent, mantissa))
  | .infinity .positive => toLex (2, toLex (0, 0))

theorem compare_toLex (a b c a' b' c' : ℤ) :
    compare (toLex (a, toLex (b, c))) (toLex (a', toLex (b', c'))) =
      (compare a a').then ((compare b b').then (compare c c')) := by
  simp only [Prod.Lex.compare_def, compareLex, compareOn, ofLex_toLex]

theorem compare_neg_neg (a b : ℤ) : compare (-a) (-b) = (compare a b).swap := by
  have hanti : StrictAnti (fun n : ℤ => -n) := fun _ _ => neg_lt_neg
  rw [← cmp_eq_compare, ← cmp_eq_compare, hanti.cmp_map_eq, cmp_swap]

theorem compare_natCast (m n : ℕ) : compare (m : ℤ) (n : ℤ) = compare m n := by
  rw [← cmp_eq_compare, ← cmp_eq_compare, Nat.strictMono_cast.cmp_map_eq]

theorem compare_eq_compare_place {x y : UnpackedFloat} (hx : x ≠ .notANumber)
    (hy : y ≠ .notANumber) : x.compare y = some (compare (place x) (place y)) := by
  cases x with
  | notANumber => exact absurd rfl hx
  | infinity sign | zero sign =>
    cases y with
    | notANumber => exact absurd rfl hy
    | infinity other | finite other => cases sign <;> cases other <;> rfl
    | zero => cases sign <;> rfl
  | finite sign =>
    cases y with
    | notANumber => exact absurd rfl hy
    | infinity other => cases sign <;> cases other <;> rfl
    | zero => cases sign <;> rfl
    | finite other =>
      -- Only two numbers on the same side of zero differ in more than their class.
      cases sign with
      | negative =>
        cases other with
        | negative =>
          simp [place, compare_toLex, UnpackedFloat.compare, compare_neg_neg, compare_natCast,
            Ordering.swap_then]
        | positive => rfl
      | positive =>
        cases other with
        | negative => rfl
        | positive => simp [place, compare_toLex, UnpackedFloat.compare, compare_natCast]

namespace Double

variable {x y z : Float}

theorem le_iff_unpack : x ≤ y ↔ x.toModel.unpack.le y.toModel.unpack = true := decide_eq_true_iff

theorem lt_iff_unpack : x < y ↔ x.toModel.unpack.lt y.toModel.unpack = true := decide_eq_true_iff

theorem compare_unpack (hx : x.isNaN = false) (hy : y.isNaN = false) :
    x.toModel.unpack.compare y.toModel.unpack =
      some (compare (place x.toModel.unpack) (place y.toModel.unpack)) :=
  compare_eq_compare_place (unpack_ne_notANumber_iff.2 hx) (unpack_ne_notANumber_iff.2 hy)

theorem le_iff_place_le (hx : x.isNaN = false) (hy : y.isNaN = false) :
    x ≤ y ↔ place x.toModel.unpack ≤ place y.toModel.unpack := by
  rw [le_iff_unpack, UnpackedFloat.le, compare_unpack hx hy, Option.any_some,
    Ordering.isLE_iff_ne_gt]
  exact compare_le_iff_le

theorem lt_iff_place_lt (hx : x.isNaN = false) (hy : y.isNaN = false) :
    x < y ↔ place x.toModel.unpack < place y.toModel.unpack := by
  rw [lt_iff_unpack, UnpackedFloat.lt, compare_unpack hx hy, beq_iff_eq, Option.some.injEq,
    compare_lt_iff_lt]

theorem isNaN_of_le (h : x ≤ y) : x.isNaN = false ∧ y.isNaN = false := by
  rw [le_iff_unpack] at h
  rw [← unpack_ne_notANumber_iff, ← unpack_ne_notANumber_iff]
  constructor
  · intro hx
    rw [hx] at h
    cases h
  · intro hy
    have hnone : x.toModel.unpack.compare .notANumber = none := by
      cases x.toModel.unpack <;> rfl
    rw [hy, UnpackedFloat.le, hnone] at h
    cases h

theorem le_trans (hxy : x ≤ y) (hyz : y ≤ z) : x ≤ z := by
  obtain ⟨hx, hy⟩ := isNaN_of_le hxy
  have hz := (isNaN_of_le hyz).2
  rw [le_iff_place_le hx hy] at hxy
  rw [le_iff_place_le hy hz] at hyz
  rw [le_iff_place_le hx hz]
  exact hxy.trans hyz

theorem le_of_lt (hx : x.isNaN = false) (hy : y.isNaN = false) (h : x < y) : x ≤ y := by
  rw [lt_iff_place_lt hx hy] at h
  rw [le_iff_place_le hx hy]
  exact h.le

theorem le_of_not_lt (hx : x.isNaN = false) (hy : y.isNaN = false) (h : ¬x < y) : y ≤ x := by
  rw [lt_iff_place_lt hx hy] at h
  rw [le_iff_place_le hy hx]
  exact not_lt.1 h

end Double

end CircuitScript.Decimal
