import CircuitScript.Instruction.Basic
import CircuitScript.Text.Fields
import CircuitScript.Token
/-!
Reading a line. The opcode decides which fields follow:

* `HAD2`, `SIGX`, `SIGY`, `SIGZ`: `AT t [IF c…]`
* `PHAS`, `P0PH`, `P1PH`, `ROTX`, `ROTY`, `ROTZ`: `angle AT t [IF c…]`
* `ROTN`: `angle angle angle AT t [IF c…]`
* `SWAP`: `q q [IF c…]`
* `DIAG`: `[IF c…] BY angle…`
* `MP_Y`: `AT t IF c… BY angle…`
* `MEAS`: `kind AT t`
* `NOTA`: any text
* `PRINT`: `style`
* `LOOP`: `id NREPS= count`
* `NEXT`: `id`
* `IF_M(`: `c… )`
* the end of such a block: nothing

A line with another opcode is foreign and keeps its fields. Every qubit of an instruction appears in
it once.
-/
namespace CircuitScript.Instruction

abbrev FieldReader := StateT (List String) (Except Fault)

/-- What is the same for all fields of a line: the convention for placeholders and the number of
fields after the opcode. -/
structure LineContext where
  grammar : PlaceholderGrammar
  count : Nat

/-- Only the end of the line can be missing, so the missing field is the one after the last. -/
def nextField (c : LineContext) (what : String) : FieldReader String := fun
  | [] => .error (.missingField what (c.count + 1))
  | field :: rest => .ok (field, rest)

def readKeyword (c : LineContext) (word : String) : FieldReader Unit := do
  let field ← nextField c word
  if field = word then return () else throw (.wrongKeyword word field)

def readNumber (c : LineContext) (what : String) (read? : List Char → Option α) :
    FieldReader α := do
  let field ← nextField c what
  match read? field.toList with
  | some number => return number
  | none => throw (.invalidField what field)

def readQubit (c : LineContext) : FieldReader Qubit := readNumber c "qubit" Text.word64?

def readId (c : LineContext) : FieldReader UInt32 := readNumber c "loop id" Text.word32?

def readAngle (c : LineContext) : FieldReader Angle := do
  let field ← nextField c "angle"
  Angle.ofToken c.grammar field

def readTarget (c : LineContext) : FieldReader Qubit := do
  readKeyword c "AT"
  readQubit c

def controlsUntil (stop : Option String) :
    List String → Except Fault (List Control × List String)
  | [] => .ok ([], [])
  | field :: rest =>
    if some field = stop then .ok ([], field :: rest)
    else do
      let control ← Control.ofToken field
      let (controls, rest) ← controlsUntil stop rest
      return (control :: controls, rest)

def readControls (stop : Option String) : FieldReader (List Control) := controlsUntil stop

def readOptionalControls (stop : Option String) : FieldReader (List Control) := fun
  | "IF" :: rest => do
    let (controls, rest) ← controlsUntil stop rest
    if controls.isEmpty then .error .markWithoutControls else .ok (controls, rest)
  | rest => .ok ([], rest)

def takeRest : FieldReader (List String) := fun rest => .ok (rest, [])

def readCoefficients (c : LineContext) (controls : List Control) : FieldReader (List Angle) := do
  readKeyword c "BY"
  let fields ← takeRest
  let coefficients ← fields.mapM (m := Except Fault) (Angle.ofToken c.grammar)
  if coefficients.isEmpty then throw .noCoefficients
  let multiplexed := controls.countP Control.isMultiplexed
  if coefficients.length ≠ Nat.pow 2 multiplexed then
    throw (.branchCount multiplexed coefficients.length)
  return coefficients

def arePlainConditions (conditions : List Control) : Bool :=
  !conditions.isEmpty && !conditions.any Control.isMultiplexed

def lastMeasurement : Nat := 2

def readBody (c : LineContext) : Opcode → FieldReader Instruction
  | .hadamard => do
    let target ← readTarget c
    return .hadamard target (← readOptionalControls none)
  | .pauli axis => do
    let target ← readTarget c
    return .pauli axis target (← readOptionalControls none)
  | .phase kind => do
    let angle ← readAngle c
    let target ← readTarget c
    return .phase kind angle target (← readOptionalControls none)
  | .rotation axis => do
    let angle ← readAngle c
    let target ← readTarget c
    return .rotation axis angle target (← readOptionalControls none)
  | .rotationVector => do
    let x ← readAngle c
    let y ← readAngle c
    let z ← readAngle c
    let target ← readTarget c
    return .rotationVector x y z target (← readOptionalControls none)
  | .swap => do
    let first ← readQubit c
    let second ← readQubit c
    return .swap first second (← readOptionalControls none)
  | .diagonal => do
    let controls ← readOptionalControls (some "BY")
    return .diagonal controls (← readCoefficients c controls)
  | .multiplexor => do
    let target ← readTarget c
    let controls ← readOptionalControls (some "BY")
    if controls.isEmpty then throw .multiplexorWithoutControls
    return .multiplexor target controls (← readCoefficients c controls)
  | .measure => do
    let kind ← readNumber c "measurement kind" Text.word8?
    if lastMeasurement < kind.toNat then throw (.unknownMeasurement kind.toNat)
    return .measure kind (← readTarget c)
  | .note => return .note (Text.line (← takeRest))
  | .print => return .print (← nextField c "print style")
  | .loopBegin => do
    let id ← readId c
    readKeyword c "NREPS="
    return .loopBegin id (← readNumber c "repetition count" Text.word32?)
  | .loopEnd => return .loopEnd (← readId c)
  | .conditionBegin => do
    let conditions ← readControls (some ")")
    readKeyword c ")"
    if arePlainConditions conditions then return .conditionBegin conditions
    else throw .noPlainConditions
  | .conditionEnd => return .conditionEnd

/-- The first qubit of the list that was among the qubits before it, `seen` counting as before. -/
def firstRepeated? (seen : List Qubit) : List Qubit → Option Qubit
  | [] => none
  | qubit :: rest => if qubit ∈ seen then some qubit else firstRepeated? (qubit :: seen) rest

def ofFields (grammar : PlaceholderGrammar) (opcode : Opcode) (fields : List String) :
    Except Fault Instruction := do
  let (instruction, rest) ← readBody ⟨grammar, fields.length⟩ opcode fields
  match rest with
  | field :: _ =>
    throw (.trailingField field (fields.length - rest.length) fields.length)
  | [] =>
    match firstRepeated? [] instruction.qubits with
    | some qubit => throw (.repeatedQubit qubit)
    | none => return instruction

def read (grammar : PlaceholderGrammar) (line : String) : Except CircuitError Instruction :=
  match Text.fields line with
  | [] | "" :: _ => .error (.malformed "" .emptyLine (some line))
  | head :: fields =>
    match Opcode.ofName? head with
    | none => .ok (.foreign head fields)
    | some opcode =>
      (ofFields grammar opcode fields).mapError fun fault =>
        .malformed opcode.name fault (some line)

end CircuitScript.Instruction
