import CircuitScript.Decimal.Shortest
/-!
The length of the hypotenuse of a right triangle, rounded once.
-/
namespace CircuitScript.Decimal

/-- The whole part of the square root, found one binary digit after the other; `bits` pairs of
binary digits are looked at. -/
def rootOfBits : Nat → Nat → Nat
  | 0, _ => 0
  | bits + 1, n =>
    let root := 2 * rootOfBits bits (n / 4)
    if (root + 1) * (root + 1) ≤ n then root + 1 else root

def wholeRoot (n : Nat) : Nat := rootOfBits (n.log2 / 2 + 1) n

def rootDigits : Nat := 64

def nearest (n : Nat) (exponent : Int) : Float :=
  let (digits, tens) := expansion n exponent
  if 0 ≤ tens then Float.ofScientific digits false tens.toNat
  else Float.ofScientific digits true tens.natAbs

/-- The double nearest to the square root of `n * 4 ^ exponent`. A last binary digit stands for all
that the whole root leaves out. -/
def nearestRoot (n : Nat) (exponent : Int) : Float :=
  let scaled := n * Nat.pow 4 rootDigits
  let root := wholeRoot scaled
  let sticky := if root * root = scaled then 0 else 1
  nearest (2 * root + sticky) (exponent - rootDigits - 1)

def hypotenuse (x y : Float) : Float :=
  match Binary.ofFloat x, Binary.ofFloat y with
  | .infinite _, _ | _, .infinite _ => 1.0 / 0.0
  | .notANumber, _ | _, .notANumber => 0.0 / 0.0
  | .finite _ m p, .finite _ n q =>
    let least := min p q
    let a := m * Nat.pow 2 (p - least).toNat
    let b := n * Nat.pow 2 (q - least).toNat
    nearestRoot (a * a + b * b) least

end CircuitScript.Decimal
