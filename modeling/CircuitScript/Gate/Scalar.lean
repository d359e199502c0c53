/-!
The numbers that gates are made of. The formulas ask only for arithmetic, roots, sine and cosine,
and for a few constants, so that they can be read over doubles, which the program computes with,
and over the reals.
-/
namespace CircuitScript

class Scalar (K : Type) extends Add K, Sub K, Mul K, Div K, Neg K where
  zero : K
  one : K
  two : K
  sqrt : K → K
  sin : K → K
  cos : K → K
  quarterTurn : K
  eighthTurn : K
  sqrtTwo : K
  invSqrtTwo : K
  /-- Rotation vectors shorter than this are no rotation. -/
  degenerateNorm : K
  isBelow : K → K → Bool

instance : Scalar Float where
  zero := 0.0
  one := 1.0
  two := 2.0
  sqrt := Float.sqrt
  sin := Float.sin
  cos := Float.cos
  quarterTurn := 1.5707963267948966
  eighthTurn := 0.7853981633974483
  sqrtTwo := 1.4142135623730951
  invSqrtTwo := 0.7071067811865476
  degenerateNorm := 1e-8
  isBelow x y := x < y

end CircuitScript
