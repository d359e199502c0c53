import CircuitScript.Error
import CircuitScript.Instruction.Basic
/-!
The conjugate transpose of an instruction as one line. Gates with angles are inverted by negating
each angle: the diagonal gate is made of phases and the multiplexor of rotations, so every branch
inverts by itself. The other gates are their own inverses, and lines that are no gates stay. Foreign
lines have no conjugate, for nothing is known of what they do.
-/
namespace CircuitScript.Instruction

def conjugate (instruction : Instruction) : Except CircuitError Instruction :=
  match instruction with
  | .foreign opcode _ => .error (.notConjugable opcode)
  | _ => .ok (instruction.mapAngles Angle.negated)

end CircuitScript.Instruction
