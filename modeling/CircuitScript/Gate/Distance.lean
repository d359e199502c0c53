import CircuitScript.Decimal.Hypotenuse
import CircuitScript.Gate.Matrix
/-!
How far matrices of doubles are apart, and whether a matrix is unitary within a tolerance.
-/
namespace CircuitScript

/-- The larger of two numbers; one that is no number loses to any other. -/
def larger (x y : Float) : Float :=
  if x.isNaN then y
  else if y.isNaN then x
  else if x < y then y
  else x

def Amplitude.norm (a : Amplitude Float) : Float := Decimal.hypotenuse a.re a.im

namespace Square

def distance (m n : Square (Amplitude Float)) : Float :=
  (m.entries.zipWith (fun a b => (a.sub b).norm) n.entries).foldl larger 0.0

def isWithin (m n : Square (Amplitude Float)) (tolerance : Float) : Bool :=
  m.distance n ≤ tolerance

def isUnitary (m : Square (Amplitude Float)) (tolerance : Float) : Bool :=
  (m.mul m.adjoint).isWithin identity tolerance

def unitaryTolerance : Float := 1e-9

/-- Equality of all entries as numbers: zeros of both signs are equal, and what is no number equals
nothing. -/
def hasSameEntries (m n : Square (Amplitude Float)) : Bool :=
  (m.entries.zip n.entries).all fun (a, b) => a.re == b.re && a.im == b.im

end Square

def GateMatrix.isSame : GateMatrix Float → GateMatrix Float → Bool
  | .real m, .real n => (m.entries.zip n.entries).all fun (a, b) => a == b
  | .complex m, .complex n => m.hasSameEntries n
  | .real _, .complex _ | .complex _, .real _ => false

end CircuitScript
