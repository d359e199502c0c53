import CircuitScript.Building.Operation
import CircuitScript.Instruction.Basic
import CircuitScript.Instruction.Reader
/-!
Calling a building operation: its parameters are taken one after the other, and what they denote is
an instruction. Numeric angles are radians and become degrees; angles given as text are kept.
-/
namespace CircuitScript.Operation

abbrev ParameterReader := StateT (List Parameter) (Except Fault)

def nextParameter (count : Nat) (what : String) : ParameterReader Parameter := fun
  | [] => .error (.missingParameter what (count + 1))
  | parameter :: rest => .ok (parameter, rest)

def takeInt (count : Nat) : ParameterReader Int := do
  match ← nextParameter count "integer" with
  | .int value => return value.toInt
  | other => throw (.unexpectedParameter "an integer" other)

def takeQubit (count : Nat) : ParameterReader Qubit := do
  match ← nextParameter count "qubit" with
  | .int value =>
    if value < 0 then throw (.negativeQubit value.toInt) else return value.toUInt64
  | other => throw (.unexpectedParameter "a qubit position" other)

def takeCount (count : Nat) (what : String) : ParameterReader UInt32 := do
  match ← nextParameter count what with
  | .int value =>
    if 0 ≤ value.toInt ∧ value.toInt < UInt32.size then return UInt32.ofNat value.toInt.toNat
    else throw (.invalidCount what value.toInt)
  | other => throw (.unexpectedParameter what other)

def takeText (count : Nat) : ParameterReader String := do
  match ← nextParameter count "text" with
  | .text value =>
    if value.toList.any fun c => c = '\n' || c = '\r' then throw (.severalLines value)
    else return value
  | other => throw (.unexpectedParameter "text" other)

def takeOptionalFlag : ParameterReader Bool := fun
  | [] => .ok (false, [])
  | .flag value :: rest => .ok (value, rest)
  | other :: _ => .error (.unexpectedParameter "a flag" other)

def angleOf : Parameter → Except Fault Angle
  | .int value => .ok (Angle.ofRadians (Float.ofInt value.toInt))
  | .float value =>
    if value.isFinite then .ok (Angle.ofRadians value)
    else .error (.unexpectedParameter "an angle" (.float value))
  | .text value => Angle.ofToken .hash value
  | other => .error (.unexpectedParameter "an angle" other)

def takeAngle (count : Nat) : ParameterReader Angle := do
  let parameter ← nextParameter count "angle"
  angleOf parameter

def takeList (count : Nat) (what : String) : ParameterReader (List Parameter) := do
  match ← nextParameter count what with
  | .list items => return items
  | other => throw (.unexpectedParameter s!"a list of {what}" other)

def takeAngles (count : Nat) : ParameterReader (List Angle) := do
  let items ← takeList count "angles"
  if items.isEmpty then throw .noAngles
  items.mapM (m := Except Fault) angleOf

def takeThreeAngles (count : Nat) : ParameterReader (Angle × Angle × Angle) := do
  match ← takeAngles count with
  | [x, y, z] => return (x, y, z)
  | angles => throw (.angleCount angles.length)

def controlOf : Parameter → Except Fault Control
  | .int value =>
    if value < 0 then .error (.negativeControl value.toInt)
    else .ok (Control.onOne value.toUInt64)
  | .text value => Control.ofToken value
  | other => .error (.unexpectedParameter "a control" other)

def takeControls (count : Nat) : ParameterReader (List Control) := do
  let items ← takeList count "controls"
  items.mapM (m := Except Fault) controlOf

def finish (count : Nat) : ParameterReader Unit := fun
  | [] => .ok ((), [])
  | rest => .error (.parameterCount (count - rest.length) count)

def readCall (count : Nat) : Operation → ParameterReader Instruction
  | .hadamard => do
    let target ← takeQubit count
    finish count
    return .hadamard target []
  | .pauli axis => do
    let target ← takeQubit count
    finish count
    return .pauli axis target []
  | .controlledX => do
    let control ← takeQubit count
    let target ← takeQubit count
    finish count
    return .pauli .x target [Control.onOne control]
  | .controlledZ => do
    let control ← takeQubit count
    let target ← takeQubit count
    finish count
    return .pauli .z target [Control.onOne control]
  | .rotation axis => do
    let target ← takeQubit count
    let angle ← takeAngle count
    finish count
    return .rotation axis angle target []
  | .rotationVector => do
    let target ← takeQubit count
    let (x, y, z) ← takeThreeAngles count
    finish count
    return .rotationVector x y z target []
  | .phase kind => do
    let target ← takeQubit count
    let angle ← takeAngle count
    finish count
    return .phase kind angle target []
  | .s => do
    let target ← takeQubit count
    let dagger ← takeOptionalFlag
    finish count
    return .phase .one (.literal (if dagger then "-90" else "90")) target []
  | .t => do
    let target ← takeQubit count
    let dagger ← takeOptionalFlag
    finish count
    return .phase .one (.literal (if dagger then "-45" else "45")) target []
  | .swap => do
    let first ← takeQubit count
    let second ← takeQubit count
    finish count
    return .swap first second []
  | .measure => do
    let target ← takeQubit count
    let kind ← takeInt count
    if kind < 0 ∨ Instruction.lastMeasurement < kind then throw (.unknownMeasurement kind)
    finish count
    return .measure (UInt8.ofNat kind.toNat) target
  | .note => do
    let text ← takeText count
    finish count
    return .note text
  | .print => do
    let style ← takeText count
    finish count
    return .print style
  | .loopBegin => do
    let id ← takeCount count "loop id"
    let repetitions ← takeCount count "repetition count"
    finish count
    return .loopBegin id repetitions
  | .loopEnd => do
    let id ← takeCount count "loop id"
    finish count
    return .loopEnd id
  | .conditionBegin => do
    let conditions ← takeControls count
    finish count
    if Instruction.arePlainConditions conditions then return .conditionBegin conditions
    else throw .noPlainConditions
  | .conditionEnd => do
    finish count
    return .conditionEnd
  | .diagonal => do
    let controls ← takeControls count
    let coefficients ← takeAngles count
    finish count
    return .diagonal controls coefficients
  | .multiplexor => do
    let target ← takeQubit count
    let controls ← takeControls count
    let coefficients ← takeAngles count
    finish count
    if controls.isEmpty then throw .multiplexorWithoutControls
    return .multiplexor target controls coefficients

/-- The instruction that a call denotes. It need not be well formed yet: nothing here looks at
repeated qubits or at the number of coefficients. -/
def call (op : Operation) (parameters : List Parameter) : Except CircuitError Instruction :=
  match (readCall parameters.length op).run parameters with
  | .ok (instruction, _) => .ok instruction
  | .error fault => .error (.malformed op.name fault none)

def named (name : String) : Except CircuitError Operation :=
  match ofName? name with
  | some op => .ok op
  | none => .error (.unknownOperation name)

end CircuitScript.Operation
