import CircuitScript.Proofs.Decimal.Written
/-!
Products that overflow. A mantissa of full width keeps its width when it is rounded, so a product
has the exponents of its factors together and a width more at least. Above the greatest exponent it
is packed as an infinity.
-/
namespace CircuitScript.Decimal

open Float.Model Float.Model.UnpackedFloat

/-- A number of 53 binary digits whose last place is at least this power of two, or an infinity. -/
def ReachesExponent (k : ℤ) : UnpackedFloat → Prop
  | .infinity _ => True
  | .finite _ mantissa exponent _ => 2 ^ 52 ≤ mantissa ∧ mantissa < 2 ^ 53 ∧ k ≤ exponent
  | .zero _ | .notANumber => False

instance (k : ℤ) : DecidablePred (ReachesExponent k)
  | .infinity _ => .isTrue trivial
  | .finite .. => inferInstanceAs (Decidable (_ ∧ _ ∧ _))
  | .zero _ | .notANumber => .isFalse id

theorem mantissa_le_roundedMantissa (em : ExtendedMantissa) : em.mantissa ≤ em.roundedMantissa := by
  obtain ⟨mantissa, roundBit, stickyBit⟩ := em
  cases roundBit <;> cases stickyBit <;>
    simp [ExtendedMantissa.roundedMantissa, ExtendedMantissa.accuracy,
      Accuracy.roundToNearestEven]

theorem shiftToTargetExponent_of_le {m : ℕ} {e : ℤ} (accuracy : Accuracy) (hm : 2 ^ 52 ≤ m)
    (he : -1074 ≤ m.log2 + e - 52) :
    ∃ n : ℕ, shiftToTargetExponent .binary64 m e accuracy =
        (ExtendedMantissa.ofMantissaAndAccuracy m accuracy >>> n, m.log2 + e - 52) ∧
      2 ^ 52 ≤ m / 2 ^ n ∧ m / 2 ^ n < 2 ^ 53 := by
  obtain ⟨n, hshift, hexponent, hwidth⟩ := shiftToTargetExponent_eq m e accuracy
  have hne : m ≠ 0 := by omega
  have hlog : 52 ≤ m.log2 := (Nat.le_log2 hne).2 hm
  have hn : 52 + n = m.log2 := by omega
  refine ⟨n, ?_, ?_, hwidth⟩
  · rw [hshift]
    congr 1
    omega
  · rw [Nat.le_div_iff_mul_le (Nat.two_pow_pos n), ← pow_add, hn]
    exact Nat.log2_self_le hne

theorem reachesExponent_roundWithAccuracy {sign : Sign} {m : ℕ} {e k : ℤ} {accuracy : Accuracy}
    (hm : 2 ^ 52 ≤ m) (hk : -1074 ≤ k) (h : k ≤ m.log2 + e - 52) :
    ReachesExponent k (roundWithAccuracy .binary64 sign m e accuracy) := by
  obtain ⟨n, hshift, hle, -⟩ := shiftToTargetExponent_of_le accuracy hm (hk.trans h)
  set em := ExtendedMantissa.ofMantissaAndAccuracy m accuracy >>> n with hem
  have hrounded : 2 ^ 52 ≤ em.roundedMantissa := by
    refine le_trans ?_ (mantissa_le_roundedMantissa em)
    rwa [hem, mantissa_shiftRight, mantissa_ofMantissaAndAccuracy]
  have hlog : 52 ≤ em.roundedMantissa.log2 := (Nat.le_log2 (by omega)).2 hrounded
  obtain ⟨n', hshift', hle', hlt'⟩ :=
    @shiftToTargetExponent_of_le em.roundedMantissa (m.log2 + e - 52) .exact hrounded (by omega)
  have hmantissa : ∀ r : ℕ, (ExtendedMantissa.ofMantissaAndAccuracy r .exact >>> n').mantissa =
      r / 2 ^ n' := by
    intro r
    rw [mantissa_shiftRight, mantissa_ofMantissaAndAccuracy]
  unfold roundWithAccuracy
  simp only [hshift, hshift', hmantissa]
  rw [dif_neg (by omega)]
  exact ⟨hle', hlt', by omega⟩

theorem log2_mul_ge {m n : ℕ} (hm : 2 ^ 52 ≤ m) (hn : 2 ^ 52 ≤ n) : 104 ≤ (m * n).log2 := by
  have hmul : 2 ^ 52 * 2 ^ 52 ≤ m * n := Nat.mul_le_mul hm hn
  exact (Nat.le_log2 (by omega)).2 hmul

theorem reachesExponent_mul {left right : UnpackedFloat} {a b k : ℤ} (hl : ReachesExponent a left)
    (hr : ReachesExponent b right) (hk : -1074 ≤ k) (h : k ≤ a + b + 52) :
    ReachesExponent k (UnpackedFloat.mul .binary64 left right) := by
  cases left with
  | zero | notANumber => cases hl
  | infinity =>
    cases right with
    | zero | notANumber => cases hr
    | infinity | finite => trivial
  | finite s₁ m₁ e₁ h₁ =>
    cases right with
    | zero | notANumber => cases hr
    | infinity => trivial
    | finite s₂ m₂ e₂ h₂ =>
      obtain ⟨hm₁, -, he₁⟩ := hl
      obtain ⟨hm₂, -, he₂⟩ := hr
      have hlog := log2_mul_ge hm₁ hm₂
      have hwide : 2 ^ 52 ≤ m₁ * m₂ := hm₁.trans (Nat.le_mul_of_pos_right _ h₂)
      exact reachesExponent_roundWithAccuracy hwide hk (by omega)

theorem reachesExponent_unpack {b : BitVec Format.binary64.numBits} {k : ℤ}
    (h : k + 1075 ≤ ((unpackExponent b).toNat : ℤ)) (hones : unpackExponent b ≠ -1#11)
    (hzero : unpackExponent b ≠ 0#11) :
    ReachesExponent k (UnpackedFloat.unpack .binary64 b) := by
  unfold UnpackedFloat.unpack
  dsimp only
  rw [if_neg hones, if_neg hzero]
  refine ⟨?_, (1#1 ++ unpackMantissa b).isLt, ?_⟩
  · rw [BitVec.toNat_append]
    exact Nat.left_le_or
  · change k ≤ ((unpackExponent b).toNat : ℤ) - (1023 + 52 : ℕ)
    omega

theorem reachesExponent_packedInfinity (k : ℤ) (sign : Sign) :
    ReachesExponent k (UnpackedFloat.unpack .binary64 (packedInfinity .binary64 sign)) := by
  have hunpack : ∃ other, UnpackedFloat.unpack .binary64 (packedInfinity .binary64 sign) =
      .infinity other := by
    simp [UnpackedFloat.unpack, packedInfinity]
  obtain ⟨other, hother⟩ := hunpack
  rw [hother]
  trivial

theorem pack_of_lt {sign : Sign} {mantissa : ℕ} {exponent : ℤ} (hpos : 0 < mantissa)
    (h : 971 < exponent) :
    UnpackedFloat.pack .binary64 (.finite sign mantissa exponent hpos) =
      packedInfinity .binary64 sign := by
  rw [UnpackedFloat.pack]
  dsimp only
  rw [if_pos]
  change 2048 ≤ (exponent + (1023 : ℕ) + (52 : ℕ)).toNat + 1
  omega

theorem reachesExponent_unpack_pack {value : UnpackedFloat} {k : ℤ} (hk : -1074 ≤ k)
    (h : ReachesExponent k value) :
    ReachesExponent k (UnpackedFloat.unpack .binary64 (UnpackedFloat.pack .binary64 value)) := by
  cases value with
  | zero | notANumber => cases h
  | infinity sign => exact reachesExponent_packedInfinity k sign
  | finite sign mantissa exponent hpos =>
    obtain ⟨hle, hlt, hk'⟩ := h
    by_cases hsmall : exponent ≤ 971
    · have hlog : mantissa.log2 = 52 := (Nat.log2_eq_iff hpos.ne').2 ⟨hle, hlt⟩
      have hfield := @toNat_unpackExponent_pack sign _ _ hpos hsmall
      rw [if_pos hlog] at hfield
      apply reachesExponent_unpack
      · rw [hfield]
        omega
      · intro hones
        have htop := congrArg BitVec.toNat hones
        rw [hfield] at htop
        change _ = 2047 at htop
        omega
      · intro hzero
        have hbottom := congrArg BitVec.toNat hzero
        rw [hfield] at hbottom
        change _ = 0 at hbottom
        omega
    · rw [pack_of_lt hpos (not_le.1 hsmall)]
      exact reachesExponent_packedInfinity k sign

theorem isFinite_eq_false_of_reachesExponent {x : Float}
    (h : ReachesExponent 972 x.toModel.unpack) : x.isFinite = false := by
  rw [Bool.eq_false_iff]
  intro hfinite
  have hfits := isFinite_iff.1 hfinite
  cases hx : x.toModel.unpack with
  | infinity | notANumber =>
    rw [hx] at hfits
    cases hfits
  | zero =>
    rw [hx] at h
    cases h
  | finite =>
    rw [hx] at h hfits
    exact absurd (h.2.2.trans hfits.2) (by decide)

theorem reachesExponent_of_ofFloat {x : Float} {negative : Bool} {significand : ℕ}
    {exponent k : ℤ} (hk : -1074 ≤ k) (h : Binary.ofFloat x = .finite negative significand exponent)
    (hle : (2 : ℚ) ^ (52 + k) ≤ significand * 2 ^ exponent) :
    ReachesExponent k x.toModel.unpack := by
  have hones := isFinite_iff_unpackExponent_ne.1 (isFinite_iff_ofFloat.2 ⟨_, _, _, h⟩)
  have hbiased := toNat_unpackExponent x
  unfold Binary.ofFloat at h
  dsimp only at h
  have hfraction : x.toBits.toNat % hiddenBit < 2 ^ 52 := Nat.mod_lt _ (by decide)
  generalize x.toBits.toNat % hiddenBit = fraction at h hfraction
  generalize x.toBits.toNat / hiddenBit % exponentFields = biased at h hbiased
  -- Few digits on the least exponent are below all the powers in question.
  have hexponent {bits : ℕ} (hbits : significand < 2 ^ bits) : 52 + k < bits + exponent := by
    have hlt : (significand : ℚ) < 2 ^ bits := by exact_mod_cast hbits
    have hpow : (2 : ℚ) ^ (52 + k) < 2 ^ (bits + exponent) :=
      calc (2 : ℚ) ^ (52 + k) ≤ significand * 2 ^ exponent := hle
        _ < 2 ^ bits * 2 ^ exponent := by gcongr
        _ = 2 ^ (bits + exponent) := by rw [zpow_add₀ two_ne_zero, zpow_natCast]
    exact (zpow_lt_zpow_iff_right₀ one_lt_two).1 hpow
  split at h
  · split at h <;> cases h
  split at h
  · cases h
    have hlt := hexponent hfraction
    rw [leastExponent] at hlt
    omega
  · rename_i hnonzero
    cases h
    have hwidth : hiddenBit + fraction < 2 ^ 53 := by
      change 2 ^ 52 + fraction < 2 ^ 53
      omega
    have hlt := hexponent hwidth
    rw [leastExponent] at hlt
    refine reachesExponent_unpack ?_ hones ?_
    · rw [hbiased]
      omega
    · intro hzero
      rw [hzero] at hbiased
      exact hnonzero hbiased.symm

end CircuitScript.Decimal
