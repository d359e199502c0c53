import CircuitScript.Decimal.Shortest
import CircuitScript.Proofs.Decimal.Rounding
/-!
The digits of a double stand for a number that rounds to it, so they never stand for one that is too
large for a double.
-/
namespace CircuitScript.Decimal

theorem ratio_value (significand : ℕ) (exponent : ℤ) :
    ((ratio significand exponent).1 : ℚ) / (ratio significand exponent).2 =
      significand * 2 ^ exponent := by
  unfold ratio
  split
  · rename_i hnonneg
    obtain ⟨n, rfl⟩ := Int.eq_ofNat_of_zero_le hnonneg
    simp [Nat.pow_eq]
  · rename_i hneg
    obtain ⟨n, hn⟩ : ∃ n : ℕ, exponent = -n := ⟨(-exponent).toNat, by omega⟩
    subst hn
    simp [Nat.pow_eq, div_eq_mul_inv]

theorem ratio_pos (significand : ℕ) (exponent : ℤ) : 0 < (ratio significand exponent).2 := by
  unfold ratio
  split
  · exact one_pos
  · exact Nat.two_pow_pos _

theorem tenFactors_value (exponent : ℤ) :
    ((tenFactors exponent).1 : ℚ) / (tenFactors exponent).2 = 10 ^ exponent := by
  unfold tenFactors
  split
  · rename_i hnonneg
    obtain ⟨n, rfl⟩ := Int.eq_ofNat_of_zero_le hnonneg
    simp [Nat.pow_eq]
  · rename_i hneg
    obtain ⟨n, hn⟩ : ∃ n : ℕ, exponent = -n := ⟨(-exponent).toNat, by omega⟩
    subst hn
    simp [Nat.pow_eq]

theorem tenFactors_pos (exponent : ℤ) : 0 < (tenFactors exponent).2 := by
  unfold tenFactors
  split
  · exact one_pos
  · exact Nat.pow_pos (by decide)

namespace Interval

variable {i : Interval} {n : ℕ} {k : ℤ}

theorem le_div_iff (hden : 0 < i.denominator) (top : ℕ) :
    (n : ℚ) * 10 ^ k ≤ top / i.denominator ↔
      n * (tenFactors k).1 * i.denominator ≤ top * (tenFactors k).2 := by
  have hdown : (0 : ℚ) < (tenFactors k).2 := Nat.cast_pos.2 (tenFactors_pos k)
  have hden' : (0 : ℚ) < i.denominator := Nat.cast_pos.2 hden
  rw [← tenFactors_value, ← mul_div_assoc, div_le_div_iff₀ hdown hden']
  exact_mod_cast Iff.rfl

theorem lt_div_iff (hden : 0 < i.denominator) (top : ℕ) :
    (n : ℚ) * 10 ^ k < top / i.denominator ↔
      n * (tenFactors k).1 * i.denominator < top * (tenFactors k).2 := by
  have hdown : (0 : ℚ) < (tenFactors k).2 := Nat.cast_pos.2 (tenFactors_pos k)
  have hden' : (0 : ℚ) < i.denominator := Nat.cast_pos.2 hden
  rw [← tenFactors_value, ← mul_div_assoc, div_lt_div_iff₀ hdown hden']
  exact_mod_cast Iff.rfl

theorem le_upper (hden : 0 < i.denominator) (h : i.holds n k = true) :
    (n : ℚ) * 10 ^ k ≤ i.upper / i.denominator ∧
      (i.closed = false → (n : ℚ) * 10 ^ k < i.upper / i.denominator) := by
  rw [le_div_iff hden, lt_div_iff hden]
  simp only [holds] at h
  split at h
  · rename_i hclosed
    simp only [Bool.and_eq_true, decide_eq_true_eq] at h
    exact ⟨h.2, fun hopen => by rw [hopen] at hclosed; cases hclosed⟩
  · simp only [Bool.and_eq_true, decide_eq_true_eq] at h
    exact ⟨h.2.le, fun _ => h.2⟩

theorem around_denominator_pos (significand : ℕ) (exponent : ℤ) :
    0 < (around significand exponent).denominator :=
  ratio_pos 1 (exponent - 2)

theorem around_upper (significand : ℕ) (exponent : ℤ) :
    ((around significand exponent).upper : ℚ) / (around significand exponent).denominator =
      (significand + 1 / 2) * 2 ^ exponent := by
  change (((4 * significand + 2) * (ratio 1 (exponent - 2)).1 : ℕ) : ℚ) /
    (ratio 1 (exponent - 2)).2 = _
  rw [Nat.cast_mul, mul_div_assoc, ratio_value, zpow_sub₀ two_ne_zero]
  push_cast
  ring

/-- The number whose interval reaches furthest is odd, so the end of the interval is outside. -/
theorem lt_roundingLimit {significand : ℕ} {exponent limit : ℤ} (hs : significand < 2 ^ 53)
    (he : exponent ≤ limit) (h : (around significand exponent).holds n k = true) :
    (n : ℚ) * 10 ^ k < roundingLimit limit := by
  obtain ⟨hle, hlt⟩ := le_upper (around_denominator_pos significand exponent) h
  rw [around_upper] at hle hlt
  have hpow : (2 : ℚ) ^ exponent ≤ 2 ^ limit := zpow_le_zpow_right₀ one_le_two he
  by_cases hmax : significand + 1 < 2 ^ 53
  · have hsize : (significand : ℚ) + 1 / 2 < 2 ^ 53 - 1 / 2 := by
      have : (significand : ℚ) + 1 < 2 ^ 53 := by exact_mod_cast hmax
      linarith
    calc (n : ℚ) * 10 ^ k ≤ (significand + 1 / 2) * 2 ^ exponent := hle
      _ ≤ (significand + 1 / 2) * 2 ^ limit := by gcongr
      _ < roundingLimit limit := mul_lt_mul_of_pos_right hsize (zpow_pos two_pos _)
  · obtain rfl : significand = 2 ^ 53 - 1 := by omega
    have hopen : (around (2 ^ 53 - 1) exponent).closed = false := by rfl
    calc (n : ℚ) * 10 ^ k < ((2 ^ 53 - 1 : ℕ) + 1 / 2) * 2 ^ exponent := hlt hopen
      _ ≤ ((2 ^ 53 - 1 : ℕ) + 1 / 2) * 2 ^ limit := by gcongr
      _ = roundingLimit limit := by
        rw [roundingLimit, Nat.cast_sub (Nat.one_le_two_pow)]
        push_cast
        ring

theorem holds_of_nearest? (h : i.nearest? k = some n) : i.holds n k = true := by
  simp only [nearest?] at h
  split at h
  · rename_i hbelow habove
    split at h
    · cases h
      exact hbelow
    · cases h
      exact habove
  · rename_i hbelow _
    cases h
    exact hbelow
  · rename_i _ habove
    cases h
    exact habove
  · cases h

end Interval

theorem expansion_value (significand : ℕ) (exponent : ℤ) :
    ((expansion significand exponent).1 : ℚ) * 10 ^ (expansion significand exponent).2 =
      significand * 2 ^ exponent := by
  unfold expansion
  split
  · rename_i hnonneg
    obtain ⟨n, rfl⟩ := Int.eq_ofNat_of_zero_le hnonneg
    simp [Nat.pow_eq]
  · rename_i hneg
    obtain ⟨n, hn⟩ : ∃ n : ℕ, exponent = -n := ⟨(-exponent).toNat, by omega⟩
    subst hn
    have hten : (10 : ℚ) ^ n = 5 ^ n * 2 ^ n := by rw [← mul_pow]; norm_num
    simp only [Int.natAbs_neg, Int.natAbs_natCast, Nat.pow_eq, zpow_neg, zpow_natCast, hten]
    push_cast
    field_simp

theorem shortest_lt_roundingLimit {significand : ℕ} {exponent limit : ℤ}
    (hs : significand < 2 ^ 53) (he : exponent ≤ limit) :
    ((shortest significand exponent).1 : ℚ) * 10 ^ (shortest significand exponent).2 <
      roundingLimit limit := by
  unfold shortest
  dsimp only
  generalize hgrids : (List.range 17).map _ = grids
  cases hfound : grids.findSome? _ with
  | none =>
    rw [Option.getD_none, expansion_value]
    exact mul_lt_roundingLimit hs he
  | some found =>
    obtain ⟨grid, -, hgrid⟩ := List.exists_of_findSome?_eq_some hfound
    obtain ⟨n, hn, rfl⟩ := Option.map_eq_some_iff.1 hgrid
    exact Interval.lt_roundingLimit hs he (Interval.holds_of_nearest? hn)

end CircuitScript.Decimal
