import CircuitScript.Proofs.Decimal.Double
import Mathlib
/-!
The size of doubles. A result is rounded to the nearest double by dropping digits below the width of
a mantissa, so a number below the half of a unit above the largest mantissa keeps its exponent. Sums
over exponents then tell which products and quotients stay finite.
-/
namespace CircuitScript.Decimal

open Float.Model Float.Model.UnpackedFloat

/-- Where an exact number lies, counted in units of the mantissa's last place. -/
structure Locates (em : ExtendedMantissa) (r : ℚ) : Prop where
  le : em.mantissa ≤ r
  lt : r < em.mantissa + 1
  half_le : em.roundBit = true → em.mantissa + 1 / 2 ≤ r

section

variable {em : ExtendedMantissa} {r : ℚ}

theorem Locates.shiftRightOne (h : Locates em r) : Locates em.shiftRightOne (r / 2) := by
  obtain ⟨hle, hlt, -⟩ := h
  have hdiv : (em.mantissa : ℚ) = 2 * (em.mantissa / 2 : ℕ) + (em.mantissa % 2 : ℕ) := by
    exact_mod_cast (Nat.div_add_mod em.mantissa 2).symm
  have hodd : em.mantissa % 2 = 0 ∨ em.mantissa % 2 = 1 := Nat.mod_two_eq_zero_or_one _
  constructor
  · change ((em.mantissa / 2 : ℕ) : ℚ) ≤ _
    have hnonneg : (0 : ℚ) ≤ (em.mantissa % 2 : ℕ) := Nat.cast_nonneg _
    linarith
  · change _ < ((em.mantissa / 2 : ℕ) : ℚ) + 1
    have hone : ((em.mantissa % 2 : ℕ) : ℚ) ≤ 1 := by
      exact_mod_cast Nat.le_of_lt_succ (Nat.mod_lt _ two_pos)
    linarith
  · intro hbit
    have hone : em.mantissa % 2 = 1 := by
      simpa [ExtendedMantissa.shiftRightOne] using hbit
    change ((em.mantissa / 2 : ℕ) : ℚ) + 1 / 2 ≤ _
    rw [hone, Nat.cast_one] at hdiv
    linarith

theorem Locates.shiftRight (h : Locates em r) (n : ℕ) : Locates (em >>> n) (r / 2 ^ n) := by
  change Locates (n.repeat ExtendedMantissa.shiftRightOne em) _
  induction n with
  | zero => simpa [Nat.repeat] using h
  | succ n ih =>
    rw [Nat.repeat, pow_succ, ← div_div]
    exact ih.shiftRightOne

theorem roundedMantissa_le (em : ExtendedMantissa) : em.roundedMantissa ≤ em.mantissa + 1 := by
  obtain ⟨mantissa, roundBit, stickyBit⟩ := em
  cases roundBit <;> cases stickyBit <;>
    simp [ExtendedMantissa.roundedMantissa, ExtendedMantissa.accuracy,
      Accuracy.roundToNearestEven]
  omega

theorem Locates.roundedMantissa_eq (h : Locates em r) (hr : r < em.mantissa + 1 / 2) :
    em.roundedMantissa = em.mantissa := by
  have hbit : em.roundBit = false := by
    rw [← Bool.not_eq_true]
    intro hbit
    exact absurd (h.half_le hbit) (not_le.2 hr)
  obtain ⟨mantissa, roundBit, stickyBit⟩ := em
  cases hbit
  cases stickyBit <;> rfl

theorem locates_exact (m : ℕ) : Locates (ExtendedMantissa.ofMantissaAndAccuracy m .exact) m where
  le := le_rfl
  lt := lt_add_one _
  half_le h := by cases h

end

theorem mantissa_shiftRight (em : ExtendedMantissa) (n : ℕ) :
    (em >>> n).mantissa = em.mantissa / 2 ^ n := by
  change (n.repeat ExtendedMantissa.shiftRightOne em).mantissa = _
  induction n with
  | zero => simp [Nat.repeat]
  | succ n ih =>
    rw [Nat.repeat, pow_succ, ← Nat.div_div_eq_div_mul, ← ih]
    rfl

theorem mantissa_ofMantissaAndAccuracy (m : ℕ) (accuracy : Accuracy) :
    (ExtendedMantissa.ofMantissaAndAccuracy m accuracy).mantissa = m := by
  cases accuracy with
  | exact => rfl
  | inexact half => cases half <;> rfl

theorem shiftToTargetExponent_eq (m : ℕ) (e : ℤ) (accuracy : Accuracy) :
    ∃ n : ℕ, shiftToTargetExponent .binary64 m e accuracy =
        (ExtendedMantissa.ofMantissaAndAccuracy m accuracy >>> n, e + n) ∧
      e + n = max e (max (m.log2 + e - 52) (-1074)) ∧ m / 2 ^ n < 2 ^ 53 := by
  refine ⟨_, rfl, ?_, ?_⟩
  · simp [Format.targetExponent, totalExponent, Format.mantissaBits, Format.minExponent]
    omega
  · rw [Nat.div_lt_iff_lt_mul (Nat.two_pow_pos _), ← pow_add]
    refine Nat.lt_log2_self.trans_le (Nat.pow_le_pow_right two_pos ?_)
    simp [Format.targetExponent, totalExponent, Format.mantissaBits, Format.minExponent]
    omega

/-- A number of at most 53 binary digits whose last place is at most this power of two. -/
def FitsExponent (k : ℤ) : UnpackedFloat → Prop
  | .zero _ => True
  | .finite _ mantissa exponent _ => mantissa < 2 ^ 53 ∧ exponent ≤ k
  | .infinity _ | .notANumber => False

instance (k : ℤ) : DecidablePred (FitsExponent k)
  | .zero _ => .isTrue trivial
  | .finite .. => inferInstanceAs (Decidable (_ ∧ _))
  | .infinity _ | .notANumber => .isFalse id

theorem FitsExponent.mono {value : UnpackedFloat} {a b : ℤ} (h : FitsExponent a value)
    (hab : a ≤ b) : FitsExponent b value := by
  cases value with
  | infinity | notANumber => cases h
  | zero => trivial
  | finite => exact ⟨h.1, h.2.trans hab⟩

/-- The least number that is rounded to a larger exponent: half a unit above the largest
mantissa. -/
def roundingLimit (k : ℤ) : ℚ := (2 ^ 53 - 1 / 2) * 2 ^ k

theorem roundingLimit_le (k : ℤ) : roundingLimit k ≤ 2 ^ 53 * 2 ^ k :=
  mul_le_mul_of_nonneg_right (by norm_num) (zpow_pos two_pos k).le

theorem roundingLimit_pos (k : ℤ) : 0 < roundingLimit k :=
  mul_pos (by norm_num) (zpow_pos two_pos k)

theorem mul_le_largest {m : ℕ} {e k : ℤ} (hm : m < 2 ^ 53) (he : e ≤ k) :
    (m : ℚ) * 2 ^ e ≤ (2 ^ 53 - 1) * 2 ^ k := by
  have hle : (m : ℚ) ≤ 2 ^ 53 - 1 := by
    rw [le_sub_iff_add_le]
    exact_mod_cast hm
  exact mul_le_mul hle (zpow_le_zpow_right₀ one_le_two he) (by positivity) (by norm_num)

theorem largest_lt_roundingLimit (k : ℤ) : (2 ^ 53 - 1) * 2 ^ k < roundingLimit k :=
  mul_lt_mul_of_pos_right (by norm_num) (zpow_pos two_pos k)

theorem mul_lt_roundingLimit {m : ℕ} {e k : ℤ} (hm : m < 2 ^ 53) (he : e ≤ k) :
    (m : ℚ) * 2 ^ e < roundingLimit k :=
  (mul_le_largest hm he).trans_lt (largest_lt_roundingLimit k)

theorem zpow_log2_add_le {m : ℕ} (hm : m ≠ 0) (e : ℤ) :
    (2 : ℚ) ^ ((m.log2 : ℤ) + e) ≤ m * 2 ^ e := by
  rw [zpow_add₀ two_ne_zero, zpow_natCast]
  gcongr
  exact_mod_cast Nat.log2_self_le hm

theorem log2_add_le {m : ℕ} {e k : ℤ} (he : e ≤ k) (h : (m : ℚ) * 2 ^ e < 2 ^ 53 * 2 ^ k) :
    (m.log2 : ℤ) + e - 52 ≤ k := by
  obtain rfl | hm := Nat.eq_zero_or_pos m
  · rw [Nat.log2_zero]
    omega
  have hpow : (2 : ℚ) ^ ((m.log2 : ℤ) + e) < 2 ^ (53 + k) := by
    calc (2 : ℚ) ^ ((m.log2 : ℤ) + e)
        ≤ m * 2 ^ e := zpow_log2_add_le hm.ne' e
      _ < 2 ^ 53 * 2 ^ k := h
      _ = 2 ^ (53 + k) := by rw [zpow_add₀ two_ne_zero]; rfl
  have := (zpow_lt_zpow_iff_right₀ one_lt_two).1 hpow
  omega

theorem roundedMantissa_lt {em : ExtendedMantissa} {s : ℚ} (h : Locates em s)
    (hwidth : em.mantissa < 2 ^ 53) (hs : s < 2 ^ 53 - 1 / 2) : em.roundedMantissa < 2 ^ 53 := by
  have hle := roundedMantissa_le em
  by_cases htop : em.mantissa + 1 < 2 ^ 53
  · omega
  have hmax : (em.mantissa : ℚ) = 2 ^ 53 - 1 := by
    rw [eq_sub_iff_add_eq]
    exact_mod_cast (by omega : em.mantissa + 1 = 2 ^ 53)
  rw [h.roundedMantissa_eq (by linarith)]
  exact hwidth

theorem fitsExponent_roundWithAccuracy {sign : Sign} {m : ℕ} {e k : ℤ} {accuracy : Accuracy} {r : ℚ}
    (hr : Locates (ExtendedMantissa.ofMantissaAndAccuracy m accuracy) r) (hk : -1074 ≤ k)
    (he : e ≤ k) (hlt : r * 2 ^ e < roundingLimit k) :
    FitsExponent k (roundWithAccuracy .binary64 sign m e accuracy) := by
  have hpos (k : ℤ) : (0 : ℚ) < 2 ^ k := zpow_pos two_pos k
  have hm : (m : ℚ) ≤ r := by
    have hle := hr.le
    rwa [mantissa_ofMantissaAndAccuracy] at hle
  have hlog : (m.log2 : ℤ) + e - 52 ≤ k := by
    apply log2_add_le he
    calc (m : ℚ) * 2 ^ e ≤ r * 2 ^ e := by gcongr
      _ < roundingLimit k := hlt
      _ ≤ 2 ^ 53 * 2 ^ k := roundingLimit_le k
  obtain ⟨n, hshift, hfirst, hwidth⟩ := shiftToTargetExponent_eq m e accuracy
  set em := ExtendedMantissa.ofMantissaAndAccuracy m accuracy >>> n with hem
  have hmantissa : em.mantissa < 2 ^ 53 := by
    rwa [hem, mantissa_shiftRight, mantissa_ofMantissaAndAccuracy]
  have hrounded : em.roundedMantissa < 2 ^ 53 ∨ em.roundedMantissa = 2 ^ 53 ∧ e + n < k := by
    have hle := roundedMantissa_le em
    by_cases htop : e + n = k
    · left
      apply roundedMantissa_lt (hr.shiftRight n) hmantissa
      rw [roundingLimit, ← htop, zpow_add₀ two_ne_zero, zpow_natCast, mul_comm (2 ^ e) (2 ^ n),
        ← mul_assoc] at hlt
      exact (div_lt_iff₀ (by positivity)).2 (lt_of_mul_lt_mul_right hlt (hpos e).le)
    · omega
  obtain ⟨n', hshift', hsecond, hwidth'⟩ :=
    shiftToTargetExponent_eq em.roundedMantissa (e + n) .exact
  have hlast : e + n + n' ≤ k := by
    obtain hlt | ⟨heq, hlt⟩ := hrounded
    · have hlog' : em.roundedMantissa.log2 < 53 := by
        rw [Nat.log2_eq_log_two]
        exact Nat.log_lt_of_lt_pow' (by decide) hlt
      omega
    · rw [heq, Nat.log2_two_pow] at hsecond
      omega
  unfold roundWithAccuracy
  simp only [hshift, hshift']
  split
  · trivial
  · refine ⟨?_, hlast⟩
    rwa [mantissa_shiftRight]

/-! Doubles. -/

theorem fitsExponent_unpack {b : BitVec Format.binary64.numBits} {k : ℤ} (hk : -1074 ≤ k)
    (h : ((unpackExponent b).toNat : ℤ) ≤ k + 1075) (hones : unpackExponent b ≠ -1#11) :
    FitsExponent k (UnpackedFloat.unpack .binary64 b) := by
  have hmantissa := (unpackMantissa b).isLt
  unfold UnpackedFloat.unpack
  dsimp only
  rw [if_neg hones]
  split
  · rename_i hzero
    split
    · trivial
    · refine ⟨hmantissa.trans (by decide), ?_⟩
      rw [hzero]
      exact hk
  · refine ⟨(1#1 ++ unpackMantissa b).isLt, ?_⟩
    change ((unpackExponent b).toNat : ℤ) - (1023 + 52 : ℕ) ≤ k
    omega

theorem pack_finite {sign : Sign} {mantissa : ℕ} {exponent : ℤ} (hpos : 0 < mantissa)
    (h : exponent ≤ 971) :
    UnpackedFloat.pack .binary64 (.finite sign mantissa exponent hpos) =
      packComponents .binary64 sign
        (if mantissa.log2 = 52 then BitVec.ofNat 11 (exponent + 1075).toNat else 0#11)
        (BitVec.ofNat 52 mantissa) := by
  have hfield : exponent + (Format.binary64.exponentBias : ℕ) +
      (Format.binary64.mantissaBitsWithoutImplicit : ℕ) = exponent + 1075 := by
    change exponent + (1023 : ℕ) + (52 : ℕ) = _
    omega
  have hbits : mantissa.log2 + 1 = Format.binary64.mantissaBits ↔ mantissa.log2 = 52 := by
    change _ + 1 = 53 ↔ _
    omega
  have hsmall : ¬2 ^ Format.binary64.exponentBits ≤ (exponent + 1075).toNat + 1 := by
    change ¬2048 ≤ _
    omega
  rw [UnpackedFloat.pack]
  simp only [hfield, hbits, if_neg hsmall]
  split <;> rfl

theorem toNat_unpackExponent_pack {sign : Sign} {mantissa : ℕ} {exponent : ℤ} (hpos : 0 < mantissa)
    (h : exponent ≤ 971) :
    (unpackExponent (UnpackedFloat.pack .binary64 (.finite sign mantissa exponent hpos))).toNat =
      if mantissa.log2 = 52 then (exponent + 1075).toNat else 0 := by
  have hword : (exponent + 1075).toNat < 2 ^ 11 := by omega
  rw [pack_finite hpos h, unpackExponent_packComponents]
  split
  · exact (BitVec.toNat_ofNat ..).trans (Nat.mod_eq_of_lt hword)
  · rfl

theorem fitsExponent_unpack_pack {value : UnpackedFloat} {k : ℤ} (hk : -1074 ≤ k) (hk' : k ≤ 971)
    (h : FitsExponent k value) :
    FitsExponent k (UnpackedFloat.unpack .binary64 (UnpackedFloat.pack .binary64 value)) := by
  cases value with
  | infinity | notANumber => cases h
  | zero sign =>
    apply fitsExponent_unpack hk
    · rw [UnpackedFloat.pack, packedZero, unpackExponent_packComponents]
      change (0 : ℤ) ≤ _
      omega
    · rw [UnpackedFloat.pack, packedZero, unpackExponent_packComponents]
      decide
  | finite sign mantissa exponent hpos =>
    have he := h.2
    have hfield := @toNat_unpackExponent_pack sign _ _ hpos (he.trans hk')
    apply fitsExponent_unpack hk
    · rw [hfield]
      split <;> omega
    · intro hones
      have htop := congrArg BitVec.toNat hones
      rw [hfield] at htop
      change _ = 2047 at htop
      split at htop <;> omega

theorem isFinite_iff_unpackExponent_ne {x : Float} :
    x.isFinite = true ↔ @unpackExponent .binary64 x.toModel.toBits.toBitVec ≠ -1#11 := by
  change UnpackedFloat.isFinite (UnpackedFloat.unpack _ _) = true ↔ _
  unfold UnpackedFloat.unpack
  dsimp only
  constructor
  · intro h hones
    rw [if_pos hones] at h
    split at h <;> cases h
  · intro hones
    rw [if_neg hones]
    split
    · split <;> rfl
    · rfl

theorem isFinite_iff {x : Float} : x.isFinite = true ↔ FitsExponent 971 x.toModel.unpack := by
  constructor
  · intro h
    have hones := isFinite_iff_unpackExponent_ne.1 h
    apply fitsExponent_unpack (by decide) _ hones
    have hlt := (@unpackExponent .binary64 x.toModel.toBits.toBitVec).isLt
    have hne := mt BitVec.eq_of_toNat_eq hones
    change _ ≠ 2047 at hne
    change _ < 2048 at hlt
    omega
  · intro h
    change x.toModel.unpack.isFinite = true
    cases hx : x.toModel.unpack with
    | infinity | notANumber =>
      rw [hx] at h
      cases h
    | zero | finite => rfl

theorem isFinite_pack {value : UnpackedFloat} (h : FitsExponent 971 value) :
    (Float.ofModel (Float.Model.pack value)).isFinite = true :=
  isFinite_iff.2 (fitsExponent_unpack_pack (by decide) le_rfl h)

/-! Operations. -/

theorem fitsExponent_neg {value : UnpackedFloat} {k : ℤ} (h : FitsExponent k value) :
    FitsExponent k value.neg := by
  cases value with
  | infinity | notANumber => cases h
  | zero => trivial
  | finite => exact h

theorem fitsExponent_mul {left right : UnpackedFloat} {a b k : ℤ} (hl : FitsExponent a left)
    (hr : FitsExponent b right) (hk : -1074 ≤ k) (h : a + b + 53 ≤ k) :
    FitsExponent k (UnpackedFloat.mul .binary64 left right) := by
  cases left with
  | infinity | notANumber => cases hl
  | zero =>
    cases right with
    | infinity | notANumber => cases hr
    | zero | finite => trivial
  | finite s₁ m₁ e₁ h₁ =>
    cases right with
    | infinity | notANumber => cases hr
    | zero => trivial
    | finite s₂ m₂ e₂ h₂ =>
      apply fitsExponent_roundWithAccuracy (locates_exact _) hk (by linarith [hl.2, hr.2])
      calc ((m₁ * m₂ : ℕ) : ℚ) * 2 ^ (e₁ + e₂)
          = (m₁ * 2 ^ e₁) * (m₂ * 2 ^ e₂) := by
            rw [zpow_add₀ two_ne_zero]
            push_cast
            ring
        _ ≤ ((2 ^ 53 - 1) * 2 ^ a) * ((2 ^ 53 - 1) * 2 ^ b) := by
            have hleft := mul_le_largest hl.1 hl.2
            have hright := mul_le_largest hr.1 hr.2
            exact mul_le_mul hleft hright (by positivity) ((by positivity : _ ≤ _).trans hleft)
        _ = (2 ^ 53 - 1) * ((2 ^ 53 - 1) * 2 ^ (a + b)) := by
            rw [zpow_add₀ two_ne_zero a]
            ring
        _ ≤ (2 ^ 53 - 1) * (2 ^ 53 * 2 ^ (a + b)) := by
            have hpos : (0 : ℚ) ≤ 2 ^ (a + b) := (zpow_pos two_pos _).le
            have hone : (0 : ℚ) ≤ 2 ^ 53 - 1 := by norm_num
            gcongr
            norm_num
        _ = (2 ^ 53 - 1) * 2 ^ (a + b + 53) := by
            rw [zpow_add₀ two_ne_zero (a + b), mul_comm (2 ^ 53) (2 ^ (a + b))]
            rfl
        _ ≤ (2 ^ 53 - 1) * 2 ^ k :=
            mul_le_mul_of_nonneg_left (zpow_le_zpow_right₀ one_le_two h) (by norm_num)
        _ < roundingLimit k := largest_lt_roundingLimit k

theorem locates_quotient {num den : ℕ} (hden : 0 < den) :
    Locates (ExtendedMantissa.ofMantissaAndAccuracy (num / den)
      (accuracyOfFraction (num % den) den)) ((num : ℚ) / den) := by
  have hpos : (0 : ℚ) < den := Nat.cast_pos.2 hden
  have hnum : (num : ℚ) = den * (num / den : ℕ) + (num % den : ℕ) := by
    exact_mod_cast (Nat.div_add_mod num den).symm
  have hrest : ((num % den : ℕ) : ℚ) < den := Nat.cast_lt.2 (Nat.mod_lt num hden)
  have hrest' : (0 : ℚ) ≤ (num % den : ℕ) := Nat.cast_nonneg _
  constructor
  · rw [mantissa_ofMantissaAndAccuracy, le_div_iff₀ hpos]
    linarith
  · rw [mantissa_ofMantissaAndAccuracy, div_lt_iff₀ hpos]
    linarith
  · rw [mantissa_ofMantissaAndAccuracy, le_div_iff₀ hpos]
    intro hbit
    have hhalf : den ≤ 2 * (num % den) := by
      rw [← not_lt]
      intro hlt
      rw [accuracyOfFraction] at hbit
      split at hbit
      · cases hbit
      · rw [Nat.compare_eq_lt.2 hlt] at hbit
        cases hbit
    have hhalf' : (den : ℚ) ≤ 2 * (num % den : ℕ) := by exact_mod_cast hhalf
    linarith

theorem log2_sub_log2_le {m₁ m₂ : ℕ} {e₁ e₂ k : ℤ} (h₁ : 0 < m₁) (h₂ : 0 < m₂)
    (h : (m₁ : ℚ) * 2 ^ e₁ / (m₂ * 2 ^ e₂) < 2 ^ 53 * 2 ^ k) :
    (m₁.log2 : ℤ) + e₁ - (m₂.log2 + e₂) - 53 ≤ k := by
  have hden : (m₂ : ℚ) * 2 ^ e₂ ≤ 2 ^ ((m₂.log2 : ℤ) + 1 + e₂) := by
    rw [zpow_add₀ two_ne_zero]
    gcongr
    exact_mod_cast Nat.lt_log2_self.le
  have hnum : (2 : ℚ) ^ ((m₁.log2 : ℤ) + e₁) ≤ m₁ * 2 ^ e₁ := by
    rw [zpow_add₀ two_ne_zero, zpow_natCast]
    gcongr
    exact_mod_cast Nat.log2_self_le h₁.ne'
  have hpos : (0 : ℚ) < m₂ * 2 ^ e₂ := by positivity
  have hpow : (2 : ℚ) ^ ((m₁.log2 : ℤ) + e₁) < 2 ^ (53 + k + ((m₂.log2 : ℤ) + 1 + e₂)) := by
    rw [div_lt_iff₀ hpos] at h
    rw [zpow_add₀ two_ne_zero (53 + k), zpow_add₀ two_ne_zero 53]
    exact hnum.trans_lt (h.trans_le (mul_le_mul_of_nonneg_left hden (by positivity)))
  have := (zpow_lt_zpow_iff_right₀ one_lt_two).1 hpow
  omega

theorem fitsExponent_div {s₁ s₂ : Sign} {m₁ m₂ : ℕ} {e₁ e₂ k : ℤ} (h₁ : 0 < m₁) (h₂ : 0 < m₂)
    (hk : -1074 ≤ k) (h : (m₁ : ℚ) * 2 ^ e₁ / (m₂ * 2 ^ e₂) < roundingLimit k) :
    FitsExponent k (UnpackedFloat.div .binary64 (.finite s₁ m₁ e₁ h₁) (.finite s₂ m₂ e₂ h₂)) := by
  have hlog := log2_sub_log2_le h₁ h₂ (h.trans_le (roundingLimit_le k))
  rw [UnpackedFloat.div]
  dsimp only [divCore]
  set target := min (e₁ - e₂)
    (Format.binary64.targetExponent (totalExponent m₁ e₁ - totalExponent m₂ e₂)) with htarget
  have hle : target ≤ e₁ - e₂ := min_le_left _ _
  have hlek : target ≤ k := by
    refine (min_le_right _ _).trans ?_
    simp [Format.targetExponent, totalExponent, Format.mantissaBits, Format.minExponent]
    omega
  apply fitsExponent_roundWithAccuracy (locates_quotient h₂) hk hlek
  convert h using 1
  obtain ⟨n, hn⟩ : ∃ n : ℕ, e₁ - e₂ - target = n := ⟨(e₁ - e₂ - target).toNat, by omega⟩
  have he : e₁ - e₂ = n + target := by omega
  rw [hn, Int.toNat_natCast, Nat.shiftLeft_eq, mul_div_mul_comm, ← zpow_sub₀ two_ne_zero, he,
    zpow_add₀ two_ne_zero, zpow_natCast]
  push_cast
  ring

/-- At least one, and of an exponent that no power of ten that is a double exceeds. -/
def IsScale : UnpackedFloat → Prop
  | .finite _ mantissa exponent _ =>
    mantissa < 2 ^ 53 ∧ exponent ≤ 21 ∧ 0 ≤ mantissa.log2 + exponent
  | .infinity _ | .zero _ | .notANumber => False

instance : DecidablePred IsScale
  | .finite .. => inferInstanceAs (Decidable (_ ∧ _ ∧ _))
  | .infinity _ | .zero _ | .notANumber => .isFalse id

theorem IsScale.fitsExponent {value : UnpackedFloat} (h : IsScale value) :
    FitsExponent 21 value := by
  cases value with
  | finite => exact ⟨h.1, h.2.1⟩
  | _ => cases h

theorem fitsExponent_div_isScale {left right : UnpackedFloat} {k : ℤ} (hk : -1074 ≤ k)
    (hl : FitsExponent k left) (hr : IsScale right) :
    FitsExponent k (UnpackedFloat.div .binary64 left right) := by
  cases right with
  | infinity | zero | notANumber => cases hr
  | finite s₂ m₂ e₂ h₂ =>
    cases left with
    | infinity | notANumber => cases hl
    | zero => trivial
    | finite s₁ m₁ e₁ h₁ =>
      apply fitsExponent_div h₁ h₂ hk
      have hone : (1 : ℚ) ≤ m₂ * 2 ^ e₂ :=
        calc (1 : ℚ) ≤ 2 ^ ((m₂.log2 : ℤ) + e₂) := one_le_zpow₀ one_le_two hr.2.2
          _ ≤ m₂ * 2 ^ e₂ := zpow_log2_add_le h₂.ne' e₂
      exact (div_le_self (by positivity) hone).trans_lt (mul_lt_roundingLimit hl.1 hl.2)

end CircuitScript.Decimal
