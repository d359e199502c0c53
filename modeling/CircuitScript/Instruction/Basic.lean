import CircuitScript.Angle
import CircuitScript.Control
import CircuitScript.Opcode
/-!
Instructions of a circuit: gates, measurements, comments and the marks of loops and conditional
blocks. A line whose opcode is not among the known ones is kept field by field.
-/
namespace CircuitScript

inductive Instruction where
  | hadamard (target : Qubit) (controls : List Control)
  | pauli (axis : Axis) (target : Qubit) (controls : List Control)
  | phase (kind : PhaseKind) (angle : Angle) (target : Qubit) (controls : List Control)
  | rotation (axis : Axis) (angle : Angle) (target : Qubit) (controls : List Control)
  | rotationVector (x y z : Angle) (target : Qubit) (controls : List Control)
  | swap (first second : Qubit) (controls : List Control)
  /-- A diagonal gate with one phase per branch of the multiplexed controls. -/
  | diagonal (controls : List Control) (coefficients : List Angle)
  /-- A rotation about the y axis with one angle per branch. -/
  | multiplexor (target : Qubit) (controls : List Control) (coefficients : List Angle)
  | measure (kind : UInt8) (target : Qubit)
  | note (text : String)
  | print (style : String)
  | loopBegin (id repetitions : UInt32)
  | loopEnd (id : UInt32)
  | conditionBegin (conditions : List Control)
  | conditionEnd
  | foreign (opcode : String) (fields : List String)
  deriving DecidableEq, Repr

namespace Instruction

def opcode? : Instruction → Option Opcode
  | .hadamard .. => some .hadamard
  | .pauli axis .. => some (.pauli axis)
  | .phase kind .. => some (.phase kind)
  | .rotation axis .. => some (.rotation axis)
  | .rotationVector .. => some .rotationVector
  | .swap .. => some .swap
  | .diagonal .. => some .diagonal
  | .multiplexor .. => some .multiplexor
  | .measure .. => some .measure
  | .note _ => some .note
  | .print _ => some .print
  | .loopBegin .. => some .loopBegin
  | .loopEnd _ => some .loopEnd
  | .conditionBegin _ => some .conditionBegin
  | .conditionEnd => some .conditionEnd
  | .foreign .. => none

def opcodeName (instruction : Instruction) : String :=
  match instruction with
  | .foreign opcode _ => opcode
  | _ => (instruction.opcode?.map Opcode.name).getD ""

def isForeign : Instruction → Bool
  | .foreign .. => true
  | _ => false

def controls : Instruction → List Control
  | .hadamard _ controls | .pauli _ _ controls | .phase _ _ _ controls | .rotation _ _ _ controls
  | .rotationVector _ _ _ _ controls | .swap _ _ controls | .diagonal controls _
  | .multiplexor _ controls _ | .conditionBegin controls => controls
  | .measure .. | .note _ | .print _ | .loopBegin .. | .loopEnd _ | .conditionEnd
  | .foreign .. => []

def targets : Instruction → List Qubit
  | .hadamard target _ | .pauli _ target _ | .phase _ _ target _ | .rotation _ _ target _
  | .rotationVector _ _ _ target _ | .multiplexor target _ _ | .measure _ target => [target]
  | .swap first second _ => [first, second]
  | .diagonal .. | .note _ | .print _ | .loopBegin .. | .loopEnd _ | .conditionBegin _
  | .conditionEnd | .foreign .. => []

def qubits (instruction : Instruction) : List Qubit :=
  instruction.targets ++ instruction.controls.map Control.qubit

/-- The fields that hold a qubit, constructor by constructor, in the order of `qubits`. -/
def qubitFields : Instruction → List Qubit
  | .hadamard target controls | .pauli _ target controls | .phase _ _ target controls
  | .rotation _ _ target controls | .rotationVector _ _ _ target controls
  | .multiplexor target controls _ => target :: controls.map Control.qubit
  | .swap first second controls => first :: second :: controls.map Control.qubit
  | .diagonal controls _ | .conditionBegin controls => controls.map Control.qubit
  | .measure _ target => [target]
  | .note _ | .print _ | .loopBegin _ _ | .loopEnd _ | .conditionEnd | .foreign _ _ => []

theorem qubits_eq_qubitFields (instruction : Instruction) :
    instruction.qubits = instruction.qubitFields := by
  cases instruction <;> rfl

def angles : Instruction → List Angle
  | .phase _ angle _ _ | .rotation _ angle _ _ => [angle]
  | .rotationVector x y z _ _ => [x, y, z]
  | .diagonal _ coefficients | .multiplexor _ _ coefficients => coefficients
  | .hadamard .. | .pauli .. | .swap .. | .measure .. | .note _ | .print _ | .loopBegin ..
  | .loopEnd _ | .conditionBegin _ | .conditionEnd | .foreign .. => []

def mapAngles (f : Angle → Angle) : Instruction → Instruction
  | .phase kind angle target controls => .phase kind (f angle) target controls
  | .rotation axis angle target controls => .rotation axis (f angle) target controls
  | .rotationVector x y z target controls => .rotationVector (f x) (f y) (f z) target controls
  | .diagonal controls coefficients => .diagonal controls (coefficients.map f)
  | .multiplexor target controls coefficients =>
    .multiplexor target controls (coefficients.map f)
  | instruction => instruction

end Instruction

end CircuitScript
