import CircuitScript.Axis
/-!
Opcodes: the first field of a line, which tells how the other fields are read.
-/
namespace CircuitScript

/-- What a diagonal phase acts on. -/
inductive PhaseKind where
  | all
  | zero
  | one
  deriving DecidableEq, Repr

inductive Opcode where
  | hadamard
  | pauli (axis : Axis)
  | phase (kind : PhaseKind)
  | rotation (axis : Axis)
  | rotationVector
  | swap
  | diagonal
  | multiplexor
  | measure
  | note
  | print
  | loopBegin
  | loopEnd
  | conditionBegin
  | conditionEnd
  deriving DecidableEq, Repr

namespace Opcode

def all : List Opcode :=
  [.hadamard, .pauli .x, .pauli .y, .pauli .z, .phase .all, .phase .zero, .phase .one,
   .rotation .x, .rotation .y, .rotation .z, .rotationVector, .swap, .diagonal, .multiplexor,
   .measure, .note, .print, .loopBegin, .loopEnd, .conditionBegin, .conditionEnd]

def name : Opcode → String
  | .hadamard => "HAD2"
  | .pauli .x => "SIGX"
  | .pauli .y => "SIGY"
  | .pauli .z => "SIGZ"
  | .phase .all => "PHAS"
  | .phase .zero => "P0PH"
  | .phase .one => "P1PH"
  | .rotation .x => "ROTX"
  | .rotation .y => "ROTY"
  | .rotation .z => "ROTZ"
  | .rotationVector => "ROTN"
  | .swap => "SWAP"
  | .diagonal => "DIAG"
  | .multiplexor => "MP_Y"
  | .measure => "MEAS"
  | .note => "NOTA"
  | .print => "PRINT"
  | .loopBegin => "LOOP"
  | .loopEnd => "NEXT"
  | .conditionBegin => "IF_M("
  | .conditionEnd => "\x7dIF_M"

def ofName? (name : String) : Option Opcode := all.find? (·.name = name)

theorem mem_all (op : Opcode) : op ∈ all := by
  cases op with
  | pauli axis => cases axis <;> decide
  | phase kind => cases kind <;> decide
  | rotation axis => cases axis <;> decide
  | _ => decide

theorem name_injective {a b : Opcode} (h : a.name = b.name) : a = b := by
  have key : ∀ x ∈ all, ∀ y ∈ all, x.name = y.name → x = y := by decide
  exact key a (mem_all a) b (mem_all b) h

theorem ofName?_name (op : Opcode) : ofName? op.name = some op := by
  have key : ∀ x ∈ all, ofName? x.name = some x := by decide
  exact key op (mem_all op)

theorem name_of_ofName? {name : String} {op : Opcode} (h : ofName? name = some op) :
    op.name = name := by
  simpa using List.find?_some h

end Opcode

end CircuitScript
