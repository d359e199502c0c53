import CircuitScript.Instruction.Basic
import CircuitScript.Text.Fields
/-!
The line of an instruction: its opcode and the fields after it, separated by tabs.
-/
namespace CircuitScript.Instruction

def qubitWord (qubit : Qubit) : String := Text.decimal qubit.toNat

def controlWords : List Control → List String
  | [] => []
  | controls => "IF" :: controls.map Control.text

def targetWords (target : Qubit) (controls : List Control) : List String :=
  "AT" :: qubitWord target :: controlWords controls

def coefficientWords (coefficients : List Angle) : List String :=
  "BY" :: coefficients.map Angle.text

/-- What stands after the opcode. A note may hold tabs, so its text can be several fields of the
line, and an empty note has no field at all. -/
def bodyWords : Instruction → List String
  | .hadamard target controls | .pauli _ target controls => targetWords target controls
  | .phase _ angle target controls | .rotation _ angle target controls =>
    angle.text :: targetWords target controls
  | .rotationVector x y z target controls =>
    x.text :: y.text :: z.text :: targetWords target controls
  | .swap first second controls =>
    qubitWord first :: qubitWord second :: controlWords controls
  | .diagonal controls coefficients => controlWords controls ++ coefficientWords coefficients
  | .multiplexor target controls coefficients =>
    targetWords target controls ++ coefficientWords coefficients
  | .measure kind target => [Text.decimal kind.toNat, "AT", qubitWord target]
  | .note text => if text.isEmpty then [] else [text]
  | .print style => [style]
  | .loopBegin id repetitions =>
    [Text.decimal id.toNat, "NREPS=", Text.decimal repetitions.toNat]
  | .loopEnd id => [Text.decimal id.toNat]
  | .conditionBegin conditions => conditions.map Control.text ++ [")"]
  | .conditionEnd => []
  | .foreign _ fields => fields

def text (instruction : Instruction) : String :=
  Text.line (instruction.opcodeName :: instruction.bodyWords)

def fields (instruction : Instruction) : List String :=
  (Text.fields instruction.text).tail

end CircuitScript.Instruction
