/-!
Doubles as exact numbers: a sign and a whole significand times a power of two.
-/
namespace CircuitScript.Decimal

inductive Binary where
  /-- The number `significand * 2 ^ exponent` with a sign; zero has the significand zero. -/
  | finite (negative : Bool) (significand : Nat) (exponent : Int)
  | infinite (negative : Bool)
  | notANumber
  deriving DecidableEq, Repr

def leastExponent : Int := -1074

def hiddenBit : Nat := Nat.pow 2 52

def exponentFields : Nat := Nat.pow 2 11

def Binary.ofFloat (x : Float) : Binary :=
  let bits := x.toBits.toNat
  let negative := hiddenBit * exponentFields ≤ bits
  let biased : Nat := bits / hiddenBit % exponentFields
  let fraction : Nat := bits % hiddenBit
  if biased = exponentFields - 1 then
    if fraction = 0 then .infinite negative else .notANumber
  else if biased = 0 then .finite negative fraction leastExponent
  else .finite negative (hiddenBit + fraction) (leastExponent + biased - 1)

/-- Numerator and denominator of `significand * 2 ^ exponent`. -/
def ratio (significand : Nat) (exponent : Int) : Nat × Nat :=
  if 0 ≤ exponent then (significand * Nat.pow 2 exponent.toNat, 1)
  else (significand, Nat.pow 2 exponent.natAbs)

/-- The nearest whole number; a half goes away from zero. Whole numbers, infinities and what is no
number stay as they are, and the sign is kept when the result is zero. -/
def roundToWhole (x : Float) : Float :=
  match Binary.ofFloat x with
  | .finite negative significand exponent =>
    if 0 ≤ exponent then x
    else
      let (num, den) := ratio significand exponent
      let whole := Float.ofNat ((2 * num + den) / (2 * den))
      if negative then -whole else whole
  | .infinite _ | .notANumber => x

end CircuitScript.Decimal
