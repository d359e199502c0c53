import CircuitScript.Proofs.Angle
import CircuitScript.Proofs.Decimal.Finite
import CircuitScript.Proofs.Decimal.Shortest
import CircuitScript.Proofs.Format
/-!
Written doubles, read back. The digits of a finite double are laid out around a point, and reading
the layout gives a number that is finite again; the words for the other doubles name no finite one.
-/
namespace CircuitScript.Decimal

def IsDecimal (text : List Char) (value : ℚ) : Prop :=
  ∃ (digits : ℕ) (exponent : ℤ),
    IsNumber text (.finite digits exponent) ∧ (digits : ℚ) * 10 ^ exponent = value

theorem isDecimal_whole {whole : List Char} (hw : ∀ c ∈ whole, c.isDigit = true)
    (hne : whole ≠ []) : IsDecimal whole (Nat.ofDigitChars 10 whole 0) := by
  have hnumber := IsNumber.of hw .none (by simpa using hne) .none
  exact ⟨_, 0, by simpa using hnumber, by simp⟩

theorem isDecimal_point {whole fraction : List Char} (hw : ∀ c ∈ whole, c.isDigit = true)
    (hf : ∀ c ∈ fraction, c.isDigit = true) (hne : whole ≠ []) :
    IsDecimal (whole ++ '.' :: fraction)
      (Nat.ofDigitChars 10 (whole ++ fraction) 0 * 10 ^ (-fraction.length : ℤ)) := by
  have hnumber := IsNumber.of hw (.point hf) (by simp [hne]) .none
  exact ⟨_, _, by simpa using hnumber, rfl⟩

namespace Digits

def value (d : Digits) : ℚ := Nat.ofDigitChars 10 d.digits 0 * 10 ^ (d.point - d.digits.length)

theorem value_of (n : ℕ) (exponent : ℤ) : (Digits.of n exponent).value = n * 10 ^ exponent := by
  set kept := ((Nat.toDigits 10 n).reverse.dropWhile (· = '0')).reverse with hkept
  obtain ⟨zeros, hall⟩ : ∃ zeros, Nat.toDigits 10 n = kept ++ List.replicate zeros '0' := by
    have hzeros : ∀ c ∈ (Nat.toDigits 10 n).reverse.takeWhile (· = '0'), c = '0' := by
      intro c hc
      simpa using List.mem_takeWhile_imp hc
    refine ⟨((Nat.toDigits 10 n).reverse.takeWhile (· = '0')).length, ?_⟩
    rw [← List.reverse_inj, List.reverse_append, hkept, List.reverse_reverse,
      List.reverse_replicate, ← List.eq_replicate_of_mem hzeros, List.takeWhile_append_dropWhile]
  have hn : (n : ℚ) = 10 ^ zeros * Nat.ofDigitChars 10 kept 0 := by
    have hvalue := congrArg (Nat.ofDigitChars 10 · 0) hall
    simp only [Nat.ofDigitChars_ten_toDigits, Nat.ofDigitChars_append,
      Nat.ofDigitChars_replicate_zero] at hvalue
    exact_mod_cast hvalue
  have hlength :
      (((Nat.toDigits 10 n).length : ℤ) + exponent) - kept.length = zeros + exponent := by
    rw [hall, List.length_append, List.length_replicate]
    push_cast
    ring
  change (Nat.ofDigitChars 10 kept 0 : ℚ) *
    10 ^ ((((Nat.toDigits 10 n).length : ℤ) + exponent) - kept.length) = _
  rw [hlength, hn, zpow_add₀ (by norm_num), zpow_natCast]
  ring

theorem isDecimal_positional {d : Digits} (hd : ∀ c ∈ d.digits, c.isDigit = true) :
    IsDecimal (d.positional "").toList d.value := by
  have hzeros (n : ℕ) : ∀ c ∈ List.replicate n '0', c.isDigit = true := fun c hc =>
    isDigit_of_mem_replicate hc
  unfold positional value
  dsimp only
  split
  · rename_i hpoint
    have habs : (d.point.natAbs : ℤ) = -d.point := Int.ofNat_natAbs_of_nonpos hpoint
    have hfraction : ∀ c ∈ List.replicate d.point.natAbs '0' ++ d.digits, c.isDigit = true :=
      List.forall_mem_append.2 ⟨hzeros _, hd⟩
    have hvalue : Nat.ofDigitChars 10 (['0'] ++ (List.replicate d.point.natAbs '0' ++ d.digits)) 0 =
        Nat.ofDigitChars 10 d.digits 0 := by
      rw [Nat.ofDigitChars_append, Nat.ofDigitChars_append, Nat.ofDigitChars_replicate_zero]
      rfl
    have hexponent : -((List.replicate d.point.natAbs '0' ++ d.digits).length : ℤ) =
        d.point - d.digits.length := by
      rw [List.length_append, List.length_replicate, Nat.cast_add, habs]
      ring
    rw [String.toList_append, String.toList_ofList, String.toList_ofList, ← hvalue, ← hexponent]
    exact isDecimal_point (hzeros 1) hfraction (List.cons_ne_nil _ _)
  · obtain ⟨places, hplaces⟩ : ∃ places : ℕ, d.point = places := ⟨d.point.toNat, by omega⟩
    rw [hplaces, Int.toNat_natCast]
    split
    · have hne : d.digits ++ List.replicate (places - d.digits.length) '0' ≠ [] := by
        rw [← List.length_pos_iff_ne_nil, List.length_append, List.length_replicate]
        omega
      have hvalue : (Nat.ofDigitChars 10 (d.digits ++ List.replicate (places - d.digits.length) '0')
          0 : ℚ) = Nat.ofDigitChars 10 d.digits 0 * 10 ^ (places - d.digits.length) := by
        rw [Nat.ofDigitChars_append, Nat.ofDigitChars_replicate_zero]
        push_cast
        ring
      have hexponent : (places - d.digits.length : ℤ) = (places - d.digits.length : ℕ) := by omega
      rw [String.toList_append, String.toList_ofList, String.toList_empty, List.append_nil,
        hexponent, zpow_natCast, ← hvalue]
      exact isDecimal_whole (List.forall_mem_append.2 ⟨hd, hzeros _⟩) hne
    · have hne : d.digits.take places ≠ [] := by
        rw [← List.length_pos_iff_ne_nil, List.length_take]
        omega
      have hexponent : (places - d.digits.length : ℤ) = -((d.digits.drop places).length : ℤ) := by
        rw [List.length_drop]
        omega
      have hbefore : ∀ c ∈ d.digits.take places, c.isDigit = true := fun c hc =>
        hd c (List.mem_of_mem_take hc)
      have hbehind : ∀ c ∈ d.digits.drop places, c.isDigit = true := fun c hc =>
        hd c (List.mem_of_mem_drop hc)
      have hpoint := isDecimal_point hbefore hbehind hne
      rw [List.take_append_drop] at hpoint
      rw [String.toList_append, String.toList_append, String.toList_ofList, String.toList_ofList,
        String.toList_ofList, List.append_assoc, hexponent]
      exact hpoint

end Digits

open Float.Model Float.Model.UnpackedFloat

theorem toNat_unpackExponent (x : Float) :
    (@unpackExponent .binary64 x.toModel.toBits.toBitVec).toNat =
      x.toBits.toNat / hiddenBit % exponentFields := by
  rw [unpackExponent, BitVec.toNat_cast, BitVec.extractLsb_toNat, Nat.shiftRight_eq_div_pow]
  rfl

theorem ofFloat_eq_finite {x : Float} {negative : Bool} {significand : ℕ} {exponent : ℤ}
    (h : Binary.ofFloat x = .finite negative significand exponent) :
    significand < 2 ^ 53 ∧ exponent ≤ 971 := by
  have hfraction : x.toBits.toNat % hiddenBit < 2 ^ 52 := Nat.mod_lt _ (by decide)
  have hbiased : x.toBits.toNat / hiddenBit % exponentFields < 2048 := Nat.mod_lt _ (by decide)
  have hhidden : hiddenBit = 2 ^ 52 := rfl
  unfold Binary.ofFloat at h
  dsimp only at h
  generalize x.toBits.toNat % hiddenBit = fraction at h hfraction
  generalize x.toBits.toNat / hiddenBit % exponentFields = biased at h hbiased
  split at h
  · split at h <;> cases h
  · rename_i hlast
    change biased ≠ 2047 at hlast
    split at h
    · cases h
      exact ⟨hfraction.trans (by decide), by decide⟩
    · cases h
      rw [leastExponent]
      omega

theorem isFinite_iff_ofFloat {x : Float} :
    x.isFinite = true ↔ ∃ negative significand exponent,
      Binary.ofFloat x = .finite negative significand exponent := by
  have hones : @unpackExponent .binary64 x.toModel.toBits.toBitVec = -1#11 ↔
      x.toBits.toNat / hiddenBit % exponentFields = exponentFields - 1 := by
    rw [← toNat_unpackExponent, ← BitVec.toNat_inj]
    rfl
  rw [isFinite_iff_unpackExponent_ne, Ne, hones]
  unfold Binary.ofFloat
  dsimp only
  split
  · rename_i hlast
    split <;> simp [hlast]
  · rename_i hlast
    split <;> simp [hlast]

theorem fitsExponent_of_ofFloat {x : Float} {negative : Bool} {significand : ℕ} {exponent k : ℤ}
    (hk : -1074 ≤ k) (h : Binary.ofFloat x = .finite negative significand exponent)
    (hlt : (significand : ℚ) * 2 ^ exponent < 2 ^ (53 + k)) :
    FitsExponent k x.toModel.unpack := by
  have hones := isFinite_iff_unpackExponent_ne.1 (isFinite_iff_ofFloat.2 ⟨_, _, _, h⟩)
  refine fitsExponent_unpack hk ?_ hones
  rw [toNat_unpackExponent]
  unfold Binary.ofFloat at h
  dsimp only at h
  generalize x.toBits.toNat % hiddenBit = fraction at h
  generalize x.toBits.toNat / hiddenBit % exponentFields = biased at h ⊢
  split at h
  · split at h <;> cases h
  split at h
  · rename_i hzero
    omega
  · cases h
    have htop : (2 : ℚ) ^ (52 : ℤ) ≤ (hiddenBit + fraction : ℕ) := by
      exact_mod_cast Nat.le_add_right (2 ^ 52) fraction
    have hpow : (2 : ℚ) ^ (52 + (leastExponent + biased - 1)) < 2 ^ (53 + k) :=
      calc (2 : ℚ) ^ (52 + (leastExponent + biased - 1))
          = 2 ^ 52 * 2 ^ (leastExponent + biased - 1) := zpow_add₀ two_ne_zero _ _
        _ ≤ (hiddenBit + fraction : ℕ) * 2 ^ (leastExponent + biased - 1) := by gcongr
        _ < 2 ^ (53 + k) := hlt
    have hexponent := (zpow_lt_zpow_iff_right₀ one_lt_two).1 hpow
    rw [leastExponent] at hexponent
    omega

theorem isFinite_eq_false_of_ofFloat {x : Float}
    (h : ∀ negative significand exponent,
      Binary.ofFloat x ≠ .finite negative significand exponent) : x.isFinite = false := by
  rw [Bool.eq_false_iff]
  intro hfinite
  obtain ⟨negative, significand, exponent, hx⟩ := isFinite_iff_ofFloat.1 hfinite
  exact h _ _ _ hx

theorem IsDecimal.isFiniteNumber {text : String} {value : ℚ} (h : IsDecimal text.toList value)
    (hlt : value < roundingLimit 971) : Angle.isFiniteNumber text = true := by
  obtain ⟨digits, exponent, hnumber, rfl⟩ := h
  exact Angle.isFiniteNumber_iff.2 ⟨_, hnumber.readLiteral?_eq_some, fitsDouble_iff.2 hlt⟩

theorem IsDecimal.isFiniteNumber_minus {text : String} {value : ℚ} (h : IsDecimal text.toList value)
    (hlt : value < roundingLimit 971) : Angle.isFiniteNumber ("-" ++ text) = true := by
  have hminus : Angle.toggleMinus text.toList = '-' :: text.toList := by
    obtain ⟨digits, exponent, hnumber, -⟩ := h
    obtain ⟨c, hc, hhead⟩ := hnumber.head
    apply Angle.toggleMinus_of_head
    intro other hother
    obtain rfl := Option.mem_unique hc hother
    constructor <;> rintro rfl <;> exact absurd hhead (by decide)
  have htoggled := Angle.isFiniteNumber_toggleMinus (h.isFiniteNumber hlt)
  rw [hminus] at htoggled
  convert htoggled using 2
  rw [← String.toList_inj]
  simp

theorem isDecimal_magnitude {significand : ℕ} {exponent : ℤ} (hs : significand < 2 ^ 53)
    (he : exponent ≤ 971) :
    ∃ value, IsDecimal (Layout.plain.magnitude significand exponent).toList value ∧
      value < roundingLimit 971 := by
  unfold Layout.magnitude
  split
  · have hzero := isDecimal_whole (List.forall_mem_singleton.2 (by decide : '0'.isDigit = true))
      (List.cons_ne_nil '0' [])
    refine ⟨_, hzero, ?_⟩
    change ((0 : ℕ) : ℚ) < _
    rw [Nat.cast_zero]
    exact roundingLimit_pos 971
  · refine ⟨_, Digits.isDecimal_positional fun c hc => isDigit_of_mem_digits hc, ?_⟩
    rw [Digits.value_of]
    exact shortest_lt_roundingLimit hs he

/-- The text of a double is a number that fits a double exactly when the double is finite. -/
theorem isFiniteNumber_text (x : Float) :
    Angle.isFiniteNumber (Layout.plain.text x) = x.isFinite := by
  cases h : Binary.ofFloat x with
  | finite negative significand exponent =>
    have hfinite := isFinite_iff_ofFloat.2 ⟨_, _, _, h⟩
    obtain ⟨hs, he⟩ := ofFloat_eq_finite h
    obtain ⟨value, hdecimal, hlt⟩ := isDecimal_magnitude hs he
    rw [hfinite, Layout.text, h]
    cases negative with
    | false => exact hdecimal.isFiniteNumber hlt
    | true => exact hdecimal.isFiniteNumber_minus hlt
  | infinite negative =>
    rw [isFinite_eq_false_of_ofFloat (by simp [h]), Layout.text, h]
    cases negative <;> decide
  | notANumber =>
    rw [isFinite_eq_false_of_ofFloat (by simp [h]), Layout.text, h]
    decide

end CircuitScript.Decimal
