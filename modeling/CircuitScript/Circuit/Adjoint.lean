import CircuitScript.Circuit.Basic
import CircuitScript.Instruction.Conjugate
/-!
The conjugate transpose of a circuit: the conjugates of its instructions in reverse order. There is
none where an instruction has no conjugate, and the last such instruction is to blame.
-/
namespace CircuitScript.Circuit

def adjoint (c : Circuit) : Except CircuitError Circuit := do
  return { c with instructions := ← c.instructions.reverse.mapM Instruction.conjugate }

end CircuitScript.Circuit
