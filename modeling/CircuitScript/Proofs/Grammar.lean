import CircuitScript.Proofs.Angle
import CircuitScript.Proofs.Control
import CircuitScript.Proofs.Text.Fields
import CircuitScript.Instruction.Basic
/-!
The grammar of lines as a relation between fields and the instruction that they stand for, with
one row for each kind of opcode. No order of reading and no fault is in it.
-/
namespace CircuitScript.Instruction

def IsQubit (field : String) (qubit : Qubit) : Prop :=
  Text.IsNumeral UInt64.size field.toList qubit.toNat

def IsCount (field : String) (count : UInt32) : Prop :=
  Text.IsNumeral UInt32.size field.toList count.toNat

def IsMeasurement (field : String) (kind : UInt8) : Prop :=
  Text.IsNumeral 3 field.toList kind.toNat

/-- `[IF c…]`: the mark never stands alone. -/
inductive ControlFields : List String → List Control → Prop
  | none : ControlFields [] []
  | marked {tokens : List String} {controls : List Control} (hne : controls ≠ [])
      (h : List.Forall₂ Control.IsToken tokens controls) :
      ControlFields ("IF" :: tokens) controls

/-- `AT t [IF c…]` -/
inductive TargetFields : List String → Qubit → List Control → Prop
  | of {field : String} {tail : List String} {target : Qubit} {controls : List Control}
      (ht : IsQubit field target) (hc : ControlFields tail controls) :
      TargetFields ("AT" :: field :: tail) target controls

def branchCount (controls : List Control) : Nat :=
  Nat.pow 2 (controls.countP Control.isMultiplexed)

/-- `BY angle…`, an angle for each branch. -/
inductive CoefficientFields (grammar : PlaceholderGrammar) (controls : List Control) :
    List String → List Angle → Prop
  | of {tokens : List String} {coefficients : List Angle}
      (h : List.Forall₂ (Angle.IsToken grammar) tokens coefficients)
      (hcount : coefficients.length = branchCount controls) :
      CoefficientFields grammar controls ("BY" :: tokens) coefficients

inductive Row (grammar : PlaceholderGrammar) : Opcode → List String → Instruction → Prop
  | hadamard {fields : List String} {target : Qubit} {controls : List Control}
      (h : TargetFields fields target controls) :
      Row grammar .hadamard fields (.hadamard target controls)
  | pauli {axis : Axis} {fields : List String} {target : Qubit} {controls : List Control}
      (h : TargetFields fields target controls) :
      Row grammar (.pauli axis) fields (.pauli axis target controls)
  | phase {kind : PhaseKind} {token : String} {fields : List String} {angle : Angle}
      {target : Qubit} {controls : List Control} (ha : Angle.IsToken grammar token angle)
      (h : TargetFields fields target controls) :
      Row grammar (.phase kind) (token :: fields) (.phase kind angle target controls)
  | rotation {axis : Axis} {token : String} {fields : List String} {angle : Angle}
      {target : Qubit} {controls : List Control} (ha : Angle.IsToken grammar token angle)
      (h : TargetFields fields target controls) :
      Row grammar (.rotation axis) (token :: fields) (.rotation axis angle target controls)
  | rotationVector {tx ty tz : String} {fields : List String} {x y z : Angle} {target : Qubit}
      {controls : List Control} (hx : Angle.IsToken grammar tx x)
      (hy : Angle.IsToken grammar ty y) (hz : Angle.IsToken grammar tz z)
      (h : TargetFields fields target controls) :
      Row grammar .rotationVector (tx :: ty :: tz :: fields)
        (.rotationVector x y z target controls)
  | swap {field₁ field₂ : String} {tail : List String} {first second : Qubit}
      {controls : List Control} (h₁ : IsQubit field₁ first) (h₂ : IsQubit field₂ second)
      (hc : ControlFields tail controls) :
      Row grammar .swap (field₁ :: field₂ :: tail) (.swap first second controls)
  | diagonal {tail branches : List String} {controls : List Control} {coefficients : List Angle}
      (hc : ControlFields tail controls)
      (hb : CoefficientFields grammar controls branches coefficients) :
      Row grammar .diagonal (tail ++ branches) (.diagonal controls coefficients)
  | multiplexor {fields branches : List String} {target : Qubit} {controls : List Control}
      {coefficients : List Angle} (h : TargetFields fields target controls)
      (hne : controls ≠ [])
      (hb : CoefficientFields grammar controls branches coefficients) :
      Row grammar .multiplexor (fields ++ branches) (.multiplexor target controls coefficients)
  | measure {field₁ field₂ : String} {kind : UInt8} {target : Qubit}
      (hk : IsMeasurement field₁ kind) (ht : IsQubit field₂ target) :
      Row grammar .measure [field₁, "AT", field₂] (.measure kind target)
  | note {fields : List String} : Row grammar .note fields (.note ("\t".intercalate fields))
  | print {style : String} : Row grammar .print [style] (.print style)
  | loopBegin {field₁ field₂ : String} {id repetitions : UInt32} (hi : IsCount field₁ id)
      (hr : IsCount field₂ repetitions) :
      Row grammar .loopBegin [field₁, "NREPS=", field₂] (.loopBegin id repetitions)
  | loopEnd {field : String} {id : UInt32} (hi : IsCount field id) :
      Row grammar .loopEnd [field] (.loopEnd id)
  | conditionBegin {tokens : List String} {conditions : List Control} (hne : conditions ≠ [])
      (hplain : ∀ condition ∈ conditions, condition.isMultiplexed = false)
      (h : List.Forall₂ Control.IsToken tokens conditions) :
      Row grammar .conditionBegin (tokens ++ [")"]) (.conditionBegin conditions)
  | conditionEnd : Row grammar .conditionEnd [] .conditionEnd

/-- A line: its tabs split it into an opcode and the fields of the opcode's row, no qubit twice
among them, or into an opcode that no row has and any fields. -/
inductive Line (grammar : PlaceholderGrammar) (line : String) : Instruction → Prop
  | known {op : Opcode} {fields : List String} {instruction : Instruction}
      (split : Text.IsSplit line (op.name :: fields)) (row : Row grammar op fields instruction)
      (distinct : instruction.qubitFields.Nodup) : Line grammar line instruction
  | foreign {opcode : String} {fields : List String} (split : Text.IsSplit line (opcode :: fields))
      (hne : opcode ≠ "") (unknown : ∀ op : Opcode, op.name ≠ opcode) :
      Line grammar line (.foreign opcode fields)

end CircuitScript.Instruction
