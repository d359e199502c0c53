import CircuitScript.Opcode
/-!
Building operations: the names by which instructions are asked for, with parameters in the units of
a caller rather than of a line.
-/
namespace CircuitScript

inductive Operation where
  | hadamard
  | pauli (axis : Axis)
  | controlledX
  | controlledZ
  | rotation (axis : Axis)
  | rotationVector
  | phase (kind : PhaseKind)
  /-- The phase of a quarter turn on one. -/
  | s
  /-- The phase of an eighth of a turn on one. -/
  | t
  | swap
  | measure
  | note
  | print
  | loopBegin
  | loopEnd
  | conditionBegin
  | conditionEnd
  | diagonal
  | multiplexor
  deriving DecidableEq, Repr

namespace Operation

def all : List Operation :=
  [.hadamard, .pauli .x, .pauli .y, .pauli .z, .controlledX, .controlledZ, .rotation .x,
   .rotation .y, .rotation .z, .rotationVector, .phase .all, .phase .zero, .phase .one, .s, .t,
   .swap, .measure, .note, .print, .loopBegin, .loopEnd, .conditionBegin, .conditionEnd, .diagonal,
   .multiplexor]

def name : Operation → String
  | .hadamard => "write_H"
  | .pauli .x => "write_X"
  | .pauli .y => "write_Y"
  | .pauli .z => "write_Z"
  | .controlledX => "write_cnot"
  | .controlledZ => "write_cz"
  | .rotation .x => "write_Rx"
  | .rotation .y => "write_Ry"
  | .rotation .z => "write_Rz"
  | .rotationVector => "write_Rn"
  | .phase .all => "write_global_phase"
  | .phase .zero => "write_P0_phase"
  | .phase .one => "write_P1_phase"
  | .s => "write_S"
  | .t => "write_T"
  | .swap => "write_swap"
  | .measure => "write_MEAS"
  | .note => "write_NOTA"
  | .print => "write_PRINT"
  | .loopBegin => "write_LOOP"
  | .loopEnd => "write_NEXT"
  | .conditionBegin => "write_IF_M_beg"
  | .conditionEnd => "write_IF_M_end"
  | .diagonal => "write_diag"
  | .multiplexor => "write_mp_y"

def ofName? (name : String) : Option Operation := all.find? (·.name = name)

theorem mem_all (op : Operation) : op ∈ all := by
  cases op with
  | pauli axis => cases axis <;> decide
  | phase kind => cases kind <;> decide
  | rotation axis => cases axis <;> decide
  | _ => decide

theorem ofName?_name (op : Operation) : ofName? op.name = some op := by
  have key : ∀ x ∈ all, ofName? x.name = some x := by decide
  exact key op (mem_all op)

theorem name_of_ofName? {name : String} {op : Operation} (h : ofName? name = some op) :
    op.name = name := by
  simpa using List.find?_some h

end Operation

end CircuitScript
