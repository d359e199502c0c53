import CircuitScript.Proofs.Decimal.Rounding
/-!
Decimals that fit a double. A decimal below the half of a unit above the largest double is rounded
to a finite one, whichever way its double is computed.
-/
namespace CircuitScript.Decimal

open Float.Model Float.Model.UnpackedFloat

theorem fitsExponent_ofNat {n : ℕ} {k : ℤ} (hk : 0 ≤ k) (h : (n : ℚ) < roundingLimit k) :
    FitsExponent k (UnpackedFloat.ofNat .binary64 n) := by
  unfold UnpackedFloat.ofNat UnpackedFloat.ofInt UnpackedFloat.normalize
  split
  · rename_i hneg
    rw [Int.compare_eq_lt] at hneg
    omega
  · trivial
  · unfold UnpackedFloat.round
    dsimp only [decreaseExponent]
    generalize Format.binary64.targetExponent _ = target
    apply fitsExponent_roundWithAccuracy (locates_exact _) (by omega) (by omega)
    convert h using 1
    rw [zero_sub, zero_sub, Nat.shiftLeft_eq, zpow_neg, zpow_natCast]
    push_cast
    rw [mul_assoc, mul_inv_cancel₀ (by positivity), mul_one]
    simp

theorem exponent_lt_of_lt_roundingLimit {digits : ℕ} {exponent k : ℤ} (hdigits : digits ≠ 0)
    (hk : -53 ≤ k) (h : (digits : ℚ) * 10 ^ exponent < roundingLimit k) : exponent < 53 + k := by
  by_cases hneg : exponent < 0
  · omega
  have hone : (1 : ℚ) ≤ digits := by exact_mod_cast Nat.one_le_iff_ne_zero.2 hdigits
  have hpow : (2 : ℚ) ^ exponent < 2 ^ (53 + k) :=
    calc (2 : ℚ) ^ exponent ≤ 10 ^ exponent :=
          zpow_le_zpow_left₀ (not_lt.1 hneg) two_pos.le (by norm_num)
      _ ≤ digits * 10 ^ exponent := le_mul_of_one_le_left (by positivity) hone
      _ < 2 ^ 53 * 2 ^ k := h.trans_le (roundingLimit_le k)
      _ = 2 ^ (53 + k) := by rw [zpow_add₀ two_ne_zero]; rfl
  exact (zpow_lt_zpow_iff_right₀ one_lt_two).1 hpow

theorem fitsExponent_ofScientific {digits : ℕ} {exponent k : ℤ} (hk : -53 ≤ k) (hk' : k ≤ 971)
    (h : (digits : ℚ) * 10 ^ exponent < roundingLimit k) :
    FitsExponent k (UnpackedFloat.ofScientific .binary64 digits exponent) := by
  unfold UnpackedFloat.ofScientific
  split
  · trivial
  rename_i hdigits
  have hexponent := exponent_lt_of_lt_roundingLimit hdigits hk h
  have hpowers : ¬exponent > 2 ^ Format.binary64.exponentBits := by
    change ¬exponent > 2048
    omega
  rw [if_neg hpowers]
  split
  · trivial
  split
  · rename_i hnonneg
    obtain ⟨n, rfl⟩ := Int.eq_ofNat_of_zero_le hnonneg
    apply fitsExponent_roundWithAccuracy (locates_exact _) (by omega) hk
    convert h using 1
    change ((digits <<< 53 * 10 ^ n : ℕ) : ℚ) * 2 ^ (-(53 : ℤ) + 0) = _
    rw [Nat.shiftLeft_eq, zpow_natCast]
    push_cast
    norm_num
    ring
  · rename_i hneg
    obtain ⟨n, hn⟩ : ∃ n : ℕ, exponent = -n := ⟨(-exponent).toNat, by omega⟩
    subst hn
    apply fitsExponent_div _ _ (by omega)
    convert h using 1
    rw [neg_neg, Int.toNat_natCast, zpow_neg, zpow_natCast]
    push_cast
    norm_num
    ring

theorem isScale_of_mem_powers :
    ∀ power ∈ Float.exactlyRepresentablePowersOfTen, IsScale power.toModel.unpack := by
  decide +kernel

theorem fitsExponent_toUInt64_toFloat {digits : ℕ} (h : digits < 2 ^ 53) :
    FitsExponent 0 digits.toUInt64.toFloat.toModel.unpack := by
  apply fitsExponent_unpack_pack (by decide) (by decide)
  apply fitsExponent_ofNat le_rfl
  have hle : digits.toUInt64.toNat + 1 ≤ 2 ^ 53 := (Nat.mod_le _ _).trans_lt h
  have hle' : (digits.toUInt64.toNat : ℚ) + 1 ≤ 2 ^ 53 := by exact_mod_cast hle
  rw [roundingLimit, zpow_zero]
  linarith

theorem fitsExponent_toFloat {digits : ℕ} {exponent k : ℤ} (hk : 75 ≤ k) (hk' : k ≤ 971)
    (h : (digits : ℚ) * 10 ^ exponent < roundingLimit k) :
    FitsExponent k (Magnitude.finite digits exponent).toFloat.toModel.unpack := by
  have hmodel := fitsExponent_unpack_pack (by omega) hk'
    (fitsExponent_ofScientific (by omega) hk' h)
  cases exponent with
  | ofNat n =>
    change FitsExponent k (Float.ofScientific digits false n).toModel.unpack
    unfold Float.ofScientific
    split
    · rename_i hsmall
      have hindex : n < Float.exactlyRepresentablePowersOfTen.size := Nat.lt_succ_of_le hsmall.2
      have hpower := isScale_of_mem_powers _ (Array.getElem_mem hindex)
      exact fitsExponent_unpack_pack (by omega) hk' (fitsExponent_mul
        (fitsExponent_toUInt64_toFloat hsmall.1) hpower.fitsExponent (by omega) (by omega))
    · exact hmodel
  | negSucc n =>
    change FitsExponent k (Float.ofScientific digits true (n + 1)).toModel.unpack
    unfold Float.ofScientific
    split
    · rename_i hsmall
      have hindex : n + 1 < Float.exactlyRepresentablePowersOfTen.size :=
        Nat.lt_succ_of_le hsmall.2
      have hpower := isScale_of_mem_powers _ (Array.getElem_mem hindex)
      have hdigits := fitsExponent_toUInt64_toFloat hsmall.1
      exact fitsExponent_unpack_pack (by omega) hk' (fitsExponent_div_isScale (by omega)
        (hdigits.mono (by omega)) hpower)
    · exact hmodel

theorem cast_pow_sub_pow {top half : ℕ} {k : ℤ} (htop : top = half + 54) (hk : k = half + 1) :
    ((Nat.pow 2 top - Nat.pow 2 half : ℕ) : ℚ) = roundingLimit k := by
  subst htop hk
  have hle : 2 ^ half ≤ 2 ^ (half + 54) := Nat.pow_le_pow_right two_pos (Nat.le_add_right half 54)
  rw [Nat.pow_eq, Nat.pow_eq, Nat.cast_sub hle, Nat.cast_pow, Nat.cast_pow, Nat.cast_ofNat,
    roundingLimit, zpow_add_one₀ two_ne_zero, zpow_natCast, pow_add]
  ring

theorem overflowBound_eq : (overflowBound : ℚ) = roundingLimit 971 := by
  rw [overflowBound]
  apply cast_pow_sub_pow
  · rfl
  · rfl

/-- Whether a decimal fits a double is whether it lies below the half of a unit above the largest
one. -/
theorem fitsDouble_iff {digits : ℕ} {exponent : ℤ} :
    fitsDouble digits exponent = true ↔ (digits : ℚ) * 10 ^ exponent < roundingLimit 971 := by
  rw [← overflowBound_eq]
  unfold fitsDouble
  split
  · rename_i hzero
    have hpos : (0 : ℚ) < overflowBound := overflowBound_eq ▸ roundingLimit_pos 971
    simp only [hzero, Nat.cast_zero, zero_mul, hpos]
  rename_i hdigits
  have hone : 1 ≤ digits := Nat.one_le_iff_ne_zero.2 hdigits
  split
  · rename_i hnonneg
    obtain ⟨n, rfl⟩ := Int.eq_ofNat_of_zero_le hnonneg
    have hsmall (h : digits * 10 ^ n < overflowBound) : n < 309 := by
      rw [← not_le]
      intro hn
      have hpow : 10 ^ 309 ≤ digits * 10 ^ n :=
        (pow_le_pow_right₀ (by decide) hn).trans (Nat.le_mul_of_pos_left _ hone)
      exact absurd (hpow.trans_lt h) (by decide +kernel)
    have hcast : (digits : ℚ) * 10 ^ (n : ℤ) < overflowBound ↔ digits * 10 ^ n < overflowBound := by
      rw [zpow_natCast]
      exact_mod_cast Iff.rfl
    have hfits : ((n : ℤ) < 309) ↔ n < 309 := by omega
    rw [hcast, Bool.and_eq_true, decide_eq_true_eq, decide_eq_true_eq, hfits]
    exact ⟨And.right, fun h => ⟨hsmall h, h⟩⟩
  · rename_i hneg
    obtain ⟨n, hn⟩ : ∃ n : ℕ, exponent = -n := ⟨(-exponent).toNat, by omega⟩
    subst hn
    have hlog (h : digits.log2 < n) : digits < overflowBound * 10 ^ n := by
      have hpow : digits < 10 ^ n := by
        calc digits < 2 ^ (digits.log2 + 1) := Nat.lt_log2_self
          _ ≤ 2 ^ n := Nat.pow_le_pow_right two_pos h
          _ ≤ 10 ^ n := Nat.pow_le_pow_left (by decide) n
      exact hpow.trans_le (Nat.le_mul_of_pos_left _ (by decide +kernel))
    have hcast : (digits : ℚ) * 10 ^ (-(n : ℤ)) < overflowBound ↔
        digits < overflowBound * 10 ^ n := by
      rw [zpow_neg, zpow_natCast, ← div_eq_mul_inv, div_lt_iff₀ (by positivity)]
      exact_mod_cast Iff.rfl
    rw [hcast, Bool.or_eq_true, decide_eq_true_eq, decide_eq_true_eq, Int.natAbs_neg,
      Int.natAbs_natCast]
    exact ⟨fun h => h.elim hlog id, .inr⟩

theorem Magnitude.isFinite_toFloat {magnitude : Magnitude} (h : magnitude.isFinite = true) :
    magnitude.toFloat.isFinite = true := by
  cases magnitude with
  | infinite | notANumber => cases h
  | finite => exact isFinite_iff.2 (fitsExponent_toFloat (by decide) le_rfl (fitsDouble_iff.1 h))

theorem isFinite_neg {x : Float} (h : x.isFinite = true) : (-x).isFinite = true :=
  isFinite_pack (fitsExponent_neg (isFinite_iff.1 h))

theorem Literal.isFinite_toFloat {literal : Literal} (h : literal.isFinite = true) :
    literal.toFloat.isFinite = true := by
  have hmagnitude := Magnitude.isFinite_toFloat h
  unfold Literal.toFloat
  split
  · exact isFinite_neg hmagnitude
  · exact hmagnitude

end CircuitScript.Decimal
