import CircuitScript.Axis
import CircuitScript.Gate.Matrix
/-!
Formulas of the gates. With the Pauli matrices `X`, `Y` and `Z`, a rotation by `(x, y, z)` is the
exponential of `i (x X + y Y + z Z)`.
-/
namespace CircuitScript

namespace Axis

variable {K : Type} [Scalar K]

def vector (axis : Axis) (length : K) : K × K × K :=
  match axis with
  | .x => (length, Scalar.zero, Scalar.zero)
  | .y => (Scalar.zero, length, Scalar.zero)
  | .z => (Scalar.zero, Scalar.zero, length)

end Axis

namespace ClosedForm

variable {K : Type} [Scalar K]

def hadamard : Square K :=
  ⟨Scalar.invSqrtTwo, Scalar.invSqrtTwo, Scalar.invSqrtTwo, -Scalar.invSqrtTwo⟩

def projectZero : Square K := ⟨Scalar.one, Scalar.zero, Scalar.zero, Scalar.zero⟩

def projectOne : Square K := ⟨Scalar.zero, Scalar.zero, Scalar.zero, Scalar.one⟩

def pauliX : Square K := ⟨Scalar.zero, Scalar.one, Scalar.one, Scalar.zero⟩

def pauliY : Square (Amplitude K) :=
  ⟨.zero, ⟨Scalar.zero, -Scalar.one⟩, ⟨Scalar.zero, Scalar.one⟩, .zero⟩

def pauliZ : Square K := ⟨Scalar.one, Scalar.zero, Scalar.zero, -Scalar.one⟩

def phaseZero (angle : K) : Square (Amplitude K) := .diagonal (.unit angle) .one

def phaseOne (angle : K) : Square (Amplitude K) := .diagonal .one (.unit angle)

def phaseAll (angle : K) : Square (Amplitude K) := .diagonal (.unit angle) (.unit angle)

/-- A rotation by Rodrigues' formula. A vector too short to have a direction is no rotation. -/
def rotationVector (x y z : K) : Square (Amplitude K) :=
  let norm := Scalar.sqrt (x * x + y * y + z * z)
  if Scalar.isBelow norm Scalar.degenerateNorm then .identity
  else
    let nx := x / norm
    let ny := y / norm
    let nz := z / norm
    let s := Scalar.sin norm
    let c := Scalar.cos norm
    ⟨⟨c, s * nz⟩, ⟨s * ny, s * nx⟩, ⟨-s * ny, s * nx⟩, ⟨c, -s * nz⟩⟩

def rotationAxis (angle : K) (axis : Axis) : Square (Amplitude K) :=
  let s := Scalar.sin angle
  let c := Scalar.cos angle
  match axis with
  | .x => ⟨⟨c, Scalar.zero⟩, ⟨Scalar.zero, s⟩, ⟨Scalar.zero, s⟩, ⟨c, Scalar.zero⟩⟩
  | .y => ⟨⟨c, Scalar.zero⟩, ⟨s, Scalar.zero⟩, ⟨-s, Scalar.zero⟩, ⟨c, Scalar.zero⟩⟩
  | .z => .diagonal ⟨c, s⟩ ⟨c, -s⟩

def unitary (phase x y z : K) : Square (Amplitude K) :=
  (rotationVector x y z).scale (.unit phase)

end ClosedForm

end CircuitScript
