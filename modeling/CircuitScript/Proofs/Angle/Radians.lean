import CircuitScript.Proofs.Decimal.Written
/-!
Numbers of radians as angles. The number of degrees is rounded in small units, and whether the text
of the angle is a number depends on the number of these units alone: it has to be finite.
-/
namespace CircuitScript

namespace Decimal

open Float.Model Float.Model.UnpackedFloat

theorem isFinite_pack_infinity (sign : Sign) :
    (Float.ofModel (Float.Model.pack (.infinity sign))).isFinite = false := by
  rw [Bool.eq_false_iff, Ne, isFinite_iff_unpackExponent_ne, not_not]
  exact unpackExponent_packComponents

theorem isFinite_pack_notANumber :
    (Float.ofModel (Float.Model.pack .notANumber)).isFinite = false := by
  rw [Bool.eq_false_iff, Ne, isFinite_iff_unpackExponent_ne, not_not]
  exact unpackExponent_packComponents

theorem isFinite_div_isScale {x y : Float} (hy : IsScale y.toModel.unpack) :
    (x / y).isFinite = x.isFinite := by
  have hfinite (h : x.isFinite = true) : (x / y).isFinite = true :=
    isFinite_pack (fitsExponent_div_isScale (by decide) (isFinite_iff.1 h) hy)
  cases hx : x.isFinite with
  | true => exact hfinite hx
  | false =>
    change x.toModel.unpack.isFinite = false at hx
    change (Float.ofModel (Float.Model.pack (UnpackedFloat.div .binary64 x.toModel.unpack
      y.toModel.unpack))).isFinite = false
    generalize x.toModel.unpack = left at hx ⊢
    generalize y.toModel.unpack = right at hy ⊢
    cases right with
    | infinity | zero | notANumber => cases hy
    | finite =>
      cases left with
      | zero | finite => cases hx
      | infinity => exact isFinite_pack_infinity _
      | notANumber => exact isFinite_pack_notANumber

theorem fitsExponent_ofNat_toModel {n : ℕ} (h : n < 2 ^ 64) :
    FitsExponent 75 (Float.ofNat n).toModel.unpack := by
  have hlt : (n : ℚ) * 10 ^ (0 : ℤ) < roundingLimit 75 := by
    have hn : (n : ℚ) < 2 ^ 64 := by exact_mod_cast h
    rw [roundingLimit, zpow_zero]
    norm_num
    linarith
  have hscientific : Float.ofNat n = (Magnitude.finite n (Int.ofNat 0)).toFloat := rfl
  rw [hscientific]
  exact fitsExponent_toFloat le_rfl (by decide) hlt

theorem isFinite_roundToWhole (x : Float) : (roundToWhole x).isFinite = x.isFinite := by
  unfold roundToWhole
  split
  · rename_i negative significand exponent h
    have hx := isFinite_iff_ofFloat.2 ⟨_, _, _, h⟩
    obtain ⟨hs, -⟩ := ofFloat_eq_finite h
    split
    · rfl
    · rename_i hneg
      dsimp only
      have hwhole : (Float.ofNat ((2 * (ratio significand exponent).1 +
          (ratio significand exponent).2) / (2 * (ratio significand exponent).2))).isFinite =
          true := by
        rw [ratio, if_neg hneg]
        apply isFinite_iff.2 ((fitsExponent_ofNat_toModel _).mono (by decide))
        have hden : 0 < Nat.pow 2 exponent.natAbs := Nat.two_pow_pos _
        generalize Nat.pow 2 exponent.natAbs = den at hden
        have hle : 2 * significand ≤ 2 ^ 54 * den :=
          (by omega : 2 * significand ≤ 2 ^ 54).trans (Nat.le_mul_of_pos_right _ hden)
        rw [Nat.div_lt_iff_lt_mul (by omega)]
        dsimp only
        omega
      rw [hx]
      split
      · exact isFinite_neg hwhole
      · exact hwhole
  · rfl
  · rfl

theorem isFinite_of_beq_zero {x : Float} (h : (x == 0.0) = true) : x.isFinite = true := by
  have hzero : (0.0 : Float).toModel.unpack = .zero .positive := by rfl
  change x.toModel.unpack.beq (0.0 : Float).toModel.unpack = true at h
  rw [hzero] at h
  change x.toModel.unpack.isFinite = true
  cases hx : x.toModel.unpack with
  | zero | finite => rfl
  | infinity sign =>
    rw [hx] at h
    cases sign <;> cases h
  | notANumber =>
    rw [hx] at h
    cases h

end Decimal

namespace Angle

theorem isScale_unitsPerDegree : Decimal.IsScale unitsPerDegree.toModel.unpack := by
  decide +kernel

/-- The angle of a number of radians is a number of degrees exactly when the smaller units of that
number do not overflow. -/
theorem isFiniteNumber_ofRadians (radians : Float) :
    isFiniteNumber (ofRadians radians).text = (toDegrees radians * unitsPerDegree).isFinite := by
  have hrounded : (Decimal.roundToWhole (toDegrees radians * unitsPerDegree) /
      unitsPerDegree).isFinite = (toDegrees radians * unitsPerDegree).isFinite := by
    rw [Decimal.isFinite_div_isScale isScale_unitsPerDegree, Decimal.isFinite_roundToWhole]
  change isFiniteNumber (Decimal.Layout.plain.text _) = _
  rw [Decimal.isFiniteNumber_text, ← hrounded]
  split
  · rename_i hzero
    rw [Decimal.isFinite_of_beq_zero hzero]
    decide +kernel
  · rfl

end Angle

end CircuitScript
