import CircuitScript.Decimal.Literal
import Mathlib
/-!
The sign of a double. It stands in a bit of its own, which negation flips; only what is no number
has no negative. Reading decimal digits always gives a number, so the sign in front of a literal is
the sign bit of its double.
-/
namespace CircuitScript.Decimal

open Float.Model Float.Model.UnpackedFloat

def signBit : UInt64 := 0x8000000000000000

theorem packComponents_neg (sign : Sign) (exponent : BitVec 11) (mantissa : BitVec 52) :
    packComponents .binary64 (-sign) exponent mantissa =
      packComponents .binary64 sign exponent mantissa ^^^ signBit.toBitVec := by
  have hsign : (-sign).toBitVec = sign.toBitVec ^^^ 1#1 := by cases sign <;> decide
  have hbit : signBit.toBitVec = 1#1 ++ 0#11 ++ 0#52 := by decide +kernel
  rw [hbit]
  change (-sign).toBitVec ++ exponent ++ mantissa =
    (sign.toBitVec ++ exponent ++ mantissa) ^^^ (1#1 ++ 0#11 ++ 0#52)
  rw [BitVec.xor_append, BitVec.xor_append, hsign, BitVec.xor_zero, BitVec.xor_zero]

theorem pack_neg {value : UnpackedFloat} (h : value ≠ .notANumber) :
    UnpackedFloat.pack .binary64 value.neg =
      UnpackedFloat.pack .binary64 value ^^^ signBit.toBitVec := by
  cases value with
  | notANumber => exact absurd rfl h
  | infinity sign | zero sign => exact packComponents_neg sign _ _
  | finite sign mantissa exponent hpos =>
    simp only [UnpackedFloat.neg, UnpackedFloat.pack, packedInfinity]
    split
    · exact packComponents_neg sign _ _
    · split <;> exact packComponents_neg sign _ _

theorem unpack_ne_notANumber_iff {x : Float} :
    x.toModel.unpack ≠ .notANumber ↔ x.isNaN = false := by
  rw [Ne, ← isNaN_iff, Bool.not_eq_true]
  rfl

theorem toBits_neg {x : Float} (h : x.isNaN = false) : (-x).toBits = x.toBits ^^^ signBit := by
  have hbits : UnpackedFloat.pack .binary64 x.toModel.unpack = x.toBits.toBitVec :=
    pack_unpack_of_valid x.toModel.valid
  rw [← UInt64.toBitVec_inj, UInt64.toBitVec_xor, ← hbits]
  exact pack_neg (unpack_ne_notANumber_iff.2 h)

/-! Operations that give a number. -/

theorem packComponents_ne_packedNaN {sign : Sign} {exponent : BitVec 11} {mantissa : BitVec 52}
    (h : exponent ≠ -1#11 ∨ mantissa = 0#52) :
    packComponents .binary64 sign exponent mantissa ≠ packedNaN .binary64 := by
  intro heq
  have hexponent := congrArg unpackExponent heq
  have hmantissa := congrArg unpackMantissa heq
  rw [packedNaN, unpackExponent_packComponents, unpackExponent_packComponents] at hexponent
  rw [packedNaN, unpackMantissa_packComponents, unpackMantissa_packComponents] at hmantissa
  obtain h | rfl := h
  · exact h hexponent
  · exact absurd hmantissa (by decide)

theorem isNaN_pack {value : UnpackedFloat} (h : value ≠ .notANumber) :
    (Float.ofModel (Float.Model.pack value)).isNaN = false := by
  rw [← unpack_ne_notANumber_iff]
  change UnpackedFloat.unpack .binary64 (UnpackedFloat.pack .binary64 value) ≠ .notANumber
  rw [Ne, unpack_eq_notANumber_iff_of_valid valid_pack]
  cases value with
  | notANumber => exact absurd rfl h
  | infinity sign | zero sign => exact packComponents_ne_packedNaN (.inr rfl)
  | finite sign mantissa exponent hpos =>
    simp only [UnpackedFloat.pack, packedInfinity]
    split
    · exact packComponents_ne_packedNaN (.inr rfl)
    · rename_i hlt
      split
      · apply packComponents_ne_packedNaN (.inl _)
        intro hones
        have hfull := congrArg BitVec.toNat hones
        rw [BitVec.toNat_ofNat, Nat.mod_eq_of_lt (by omega)] at hfull
        change _ = 2047 at hfull
        omega
      · exact packComponents_ne_packedNaN (.inl (by decide))

theorem roundWithAccuracy_ne_notANumber (format : Format) (sign : Sign) (mantissa : Nat)
    (exponent : Int) (accuracy : Accuracy) :
    roundWithAccuracy format sign mantissa exponent accuracy ≠ .notANumber := by
  unfold roundWithAccuracy
  split
  dsimp only
  split <;> simp

def IsRegular : UnpackedFloat → Prop
  | .finite .. => True
  | _ => False

instance : DecidablePred IsRegular
  | .finite .. => .isTrue trivial
  | .infinity _ | .zero _ | .notANumber => .isFalse id

section

variable {format : Format} {left right : UnpackedFloat}

theorem mul_ne_notANumber (hl : left ≠ .notANumber) (hr : IsRegular right) :
    UnpackedFloat.mul format left right ≠ .notANumber := by
  cases right with
  | finite =>
    cases left with
    | notANumber => exact absurd rfl hl
    | infinity | zero => simp [UnpackedFloat.mul]
    | finite => exact roundWithAccuracy_ne_notANumber _ _ _ _ _
  | _ => cases hr

theorem div_ne_notANumber (hl : left ≠ .notANumber) (hr : IsRegular right) :
    UnpackedFloat.div format left right ≠ .notANumber := by
  cases right with
  | finite =>
    cases left with
    | notANumber => exact absurd rfl hl
    | infinity | zero => simp [UnpackedFloat.div]
    | finite => exact roundWithAccuracy_ne_notANumber _ _ _ _ _
  | _ => cases hr

end

theorem ofNat_ne_notANumber (format : Format) (n : Nat) :
    UnpackedFloat.ofNat format n ≠ .notANumber := by
  unfold UnpackedFloat.ofNat UnpackedFloat.ofInt UnpackedFloat.normalize
  split
  · exact roundWithAccuracy_ne_notANumber _ _ _ _ _
  · simp
  · exact roundWithAccuracy_ne_notANumber _ _ _ _ _

theorem ofScientific_ne_notANumber (format : Format) (digits : Nat) (exponent : Int) :
    UnpackedFloat.ofScientific format digits exponent ≠ .notANumber := by
  unfold UnpackedFloat.ofScientific
  split_ifs
  · simp
  · simp
  · simp
  · exact mul_ne_notANumber (by simp) trivial
  · exact div_ne_notANumber (by simp) trivial

theorem isRegular_of_mem_powers :
    ∀ power ∈ Float.exactlyRepresentablePowersOfTen, IsRegular power.toModel.unpack := by
  decide +kernel

theorem isNaN_ofScientific (digits : Nat) (negative : Bool) (exponent : Nat) :
    (Float.ofScientific digits negative exponent).isNaN = false := by
  unfold Float.ofScientific
  split
  · rename_i hsmall
    have hindex : exponent < Float.exactlyRepresentablePowersOfTen.size :=
      Nat.lt_succ_of_le hsmall.2
    have hpower := isRegular_of_mem_powers _ (Array.getElem_mem hindex)
    have hdigits := unpack_ne_notANumber_iff.2
      (isNaN_pack (ofNat_ne_notANumber .binary64 digits.toUInt64.toNat))
    dsimp only
    split
    · exact isNaN_pack (div_ne_notANumber hdigits hpower)
    · exact isNaN_pack (mul_ne_notANumber hdigits hpower)
  · exact isNaN_pack (ofScientific_ne_notANumber _ _ _)

theorem Magnitude.isNaN_toFloat {magnitude : Magnitude} (h : magnitude.isFinite = true) :
    magnitude.toFloat.isNaN = false := by
  cases magnitude with
  | finite digits exponent => cases exponent <;> exact isNaN_ofScientific ..
  | infinite | notANumber => cases h

/-- The same magnitude with the other sign has the same double but for the sign bit. -/
theorem Literal.toBits_toFloat_not_negative {literal : Literal} (h : literal.isFinite = true) :
    (Literal.toFloat { literal with negative := !literal.negative }).toBits =
      literal.toFloat.toBits ^^^ signBit := by
  have hneg := toBits_neg (Magnitude.isNaN_toFloat h)
  unfold Literal.toFloat
  cases literal.negative with
  | false => exact hneg
  | true =>
    change literal.magnitude.toFloat.toBits = (-literal.magnitude.toFloat).toBits ^^^ signBit
    rw [hneg, UInt64.xor_assoc, UInt64.xor_self, UInt64.xor_zero]

end CircuitScript.Decimal
