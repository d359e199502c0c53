import CircuitScript.Gate.ClosedForm
import CircuitScript.Text.Quoted
/-!
Gates and the two ways to compute them: each by its own formula, or every unitary gate through one
kernel that knows all unitary matrices. Gates of real entries and projectors are constants and never
go through the kernel.
-/
namespace CircuitScript

inductive Gate (K : Type) where
  | hadamard (kind : EntryKind)
  | projectZero (kind : EntryKind)
  | projectOne (kind : EntryKind)
  | pauliX (kind : EntryKind)
  | pauliY
  | pauliZ (kind : EntryKind)
  | phaseZero (angle : K)
  | phaseOne (angle : K)
  | phaseAll (angle : K)
  | rotationVector (x y z : K)
  | rotationAxis (angle : K) (axis : Axis)
  | s (dagger : Bool)
  | t (dagger : Bool)
  | unitary (phase x y z : K)

namespace Gate

variable {K : Type} [Scalar K]

def turned (angle : K) (dagger : Bool) : K := if dagger then -angle else angle

def closedForm : Gate K → GateMatrix K
  | .hadamard kind => .ofReal kind ClosedForm.hadamard
  | .projectZero kind => .ofReal kind ClosedForm.projectZero
  | .projectOne kind => .ofReal kind ClosedForm.projectOne
  | .pauliX kind => .ofReal kind ClosedForm.pauliX
  | .pauliY => .complex ClosedForm.pauliY
  | .pauliZ kind => .ofReal kind ClosedForm.pauliZ
  | .phaseZero angle => .complex (ClosedForm.phaseZero angle)
  | .phaseOne angle => .complex (ClosedForm.phaseOne angle)
  | .phaseAll angle => .complex (ClosedForm.phaseAll angle)
  | .rotationVector x y z => .complex (ClosedForm.rotationVector x y z)
  | .rotationAxis angle axis => .complex (ClosedForm.rotationAxis angle axis)
  | .s dagger => .complex (ClosedForm.phaseOne (turned Scalar.quarterTurn dagger))
  | .t dagger => .complex (ClosedForm.phaseOne (turned Scalar.eighthTurn dagger))
  | .unitary phase x y z => .complex (ClosedForm.unitary phase x y z)

end Gate

/-- The parameters of a unitary matrix, `exp (i (phase + x X + y Y + z Z))`. -/
structure UnitaryParameters (K : Type) where
  phase : K
  x : K
  y : K
  z : K
  deriving DecidableEq, Repr

namespace Gate

variable {K : Type} [Scalar K]

def phaseOneParameters (angle : K) : UnitaryParameters K :=
  let half := angle / Scalar.two
  ⟨half, Scalar.zero, Scalar.zero, -half⟩

def kernelParameters? : Gate K → Option (UnitaryParameters K)
  | .hadamard .complex =>
    let part := Scalar.quarterTurn / Scalar.sqrtTwo
    some ⟨-Scalar.quarterTurn, part, Scalar.zero, part⟩
  | .pauliX .complex =>
    some ⟨-Scalar.quarterTurn, Scalar.quarterTurn, Scalar.zero, Scalar.zero⟩
  | .pauliY => some ⟨-Scalar.quarterTurn, Scalar.zero, Scalar.quarterTurn, Scalar.zero⟩
  | .pauliZ .complex =>
    some ⟨-Scalar.quarterTurn, Scalar.zero, Scalar.zero, Scalar.quarterTurn⟩
  | .phaseZero angle =>
    let half := angle / Scalar.two
    some ⟨half, Scalar.zero, Scalar.zero, half⟩
  | .phaseOne angle => some (phaseOneParameters angle)
  | .phaseAll angle => some ⟨angle, Scalar.zero, Scalar.zero, Scalar.zero⟩
  | .rotationVector x y z => some ⟨Scalar.zero, x, y, z⟩
  | .rotationAxis angle axis =>
    let (x, y, z) := axis.vector angle
    some ⟨Scalar.zero, x, y, z⟩
  | .s dagger => some (phaseOneParameters (turned Scalar.quarterTurn dagger))
  | .t dagger => some (phaseOneParameters (turned Scalar.eighthTurn dagger))
  | .unitary phase x y z => some ⟨phase, x, y, z⟩
  | .hadamard .real | .pauliX .real | .pauliZ .real | .projectZero _ | .projectOne _ => none

end Gate

/-- A parametrization of all unitary matrices. A kernel may do more than compute, such as note its
calls, so its answer comes in a monad. -/
structure Kernel (m : Type → Type) (K : Type) where
  name : String
  matrix : UnitaryParameters K → m (Square (Amplitude K))

def Kernel.rodrigues [Monad m] [Scalar K] : Kernel m K where
  name := "rodrigues"
  matrix p := pure (ClosedForm.unitary p.phase p.x p.y p.z)

inductive Strategy (m : Type → Type) (K : Type) where
  | closedForm
  | uniform (kernel : Kernel m K)

inductive Parametrization where
  | closedForm
  | generalUnitary
  deriving DecidableEq, Repr

namespace Parametrization

def name : Parametrization → String
  | .closedForm => "closed-form"
  | .generalUnitary => "general-u2"

def ofName? : String → Option Parametrization
  | "closed-form" => some .closedForm
  | "general-u2" => some .generalUnitary
  | _ => none

def strategy [Monad m] [Scalar K] : Parametrization → Strategy m K
  | .closedForm => .closedForm
  | .generalUnitary => .uniform .rodrigues

end Parametrization

namespace Strategy

variable {m : Type → Type} {K : Type}

def parametrization : Strategy m K → Parametrization
  | .closedForm => .closedForm
  | .uniform _ => .generalUnitary

def shown : Strategy m K → String
  | .closedForm => "ClosedForm"
  | .uniform kernel => "Uniform(" ++ Text.quoted kernel.name ++ ")"

def gate [Monad m] [Scalar K] (strategy : Strategy m K) (gate : Gate K) : m (GateMatrix K) :=
  match strategy, gate.kernelParameters? with
  | .uniform kernel, some parameters => return .complex (← kernel.matrix parameters)
  | .uniform _, none | .closedForm, _ => return gate.closedForm

end Strategy

end CircuitScript
