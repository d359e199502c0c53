import CircuitScript.CommandLine.Json
import CircuitScript.CommandLine.Settings
import CircuitScript.Gate.Distance
/-!
Gates by the names that the command line knows them by, and the reports of their matrices.
-/
namespace CircuitScript

inductive NamedGate where
  | hadamard
  | projectZero
  | projectOne
  | phaseZero
  | phaseOne
  | phaseAll
  | rotation
  | rotationVector
  | pauliX
  | pauliY
  | pauliZ
  | s
  | t
  | unitary
  deriving DecidableEq, Repr

namespace NamedGate

def all : List NamedGate :=
  [.hadamard, .projectZero, .projectOne, .phaseZero, .phaseOne, .phaseAll, .rotation,
   .rotationVector, .pauliX, .pauliY, .pauliZ, .s, .t, .unitary]

def name : NamedGate → String
  | .hadamard => "hadamard"
  | .projectZero => "proj0"
  | .projectOne => "proj1"
  | .phaseZero => "phase0"
  | .phaseOne => "phase1"
  | .phaseAll => "phase"
  | .rotation => "rot"
  | .rotationVector => "rotn"
  | .pauliX => "x"
  | .pauliY => "y"
  | .pauliZ => "z"
  | .s => "s"
  | .t => "t"
  | .unitary => "u2"

def ofName? (name : String) : Option NamedGate := all.find? (·.name = name)

def arity : NamedGate → Nat
  | .phaseZero | .phaseOne | .phaseAll | .rotation => 1
  | .rotationVector => 3
  | .unitary => 4
  | .hadamard | .projectZero | .projectOne | .pauliX | .pauliY | .pauliZ | .s | .t => 0

structure Options where
  /-- The axis of a single rotation; the z axis when none is given. -/
  axis : Option Axis
  kind : EntryKind
  dagger : Bool

def gate? (options : Options) : NamedGate → List Float → Option (Gate Float)
  | .hadamard, [] => some (.hadamard options.kind)
  | .projectZero, [] => some (.projectZero options.kind)
  | .projectOne, [] => some (.projectOne options.kind)
  | .pauliX, [] => some (.pauliX options.kind)
  | .pauliY, [] => some .pauliY
  | .pauliZ, [] => some (.pauliZ options.kind)
  | .s, [] => some (.s options.dagger)
  | .t, [] => some (.t options.dagger)
  | .phaseZero, [angle] => some (.phaseZero angle)
  | .phaseOne, [angle] => some (.phaseOne angle)
  | .phaseAll, [angle] => some (.phaseAll angle)
  | .rotation, [angle] => some (.rotationAxis angle (options.axis.getD .z))
  | .rotationVector, [x, y, z] => some (.rotationVector x y z)
  | .unitary, [phase, x, y, z] => some (.unitary phase x y z)
  | _, _ => none

structure ArityError where
  gate : NamedGate
  given : Nat
  deriving DecidableEq, Repr

def ArityError.message (error : ArityError) : String :=
  s!"Gate '{error.gate.name}' takes {error.gate.arity} angle(s), got {error.given}"

def matrix (settings : Settings) (options : Options) (gate : NamedGate) (angles : List Float) :
    Except ArityError (GateMatrix Float) :=
  match gate.gate? options (angles.map settings.toRadians) with
  | some request => .ok (Id.run (settings.parametrization.strategy.gate request))
  | none => .error ⟨gate, angles.length⟩

end NamedGate

namespace GateMatrix

def places : Nat := 6

def padLeft (width : Nat) (text : String) : String :=
  String.ofList (List.replicate (width - text.length) ' ') ++ text

def realCell (x : Float) : String := padLeft 10 (Decimal.fixed places "" x)

def complexCell (a : Amplitude Float) : String :=
  padLeft 9 (Decimal.fixed places "" a.re) ++ Decimal.fixed places "+" a.im ++ "i"

def table (matrix : GateMatrix Float) : List String :=
  let rows := match matrix with
    | .real m =>
      [s!"  [{realCell m.a} {realCell m.b}]", s!"  [{realCell m.c} {realCell m.d}]"]
    | .complex m =>
      [s!"  [{complexCell m.a}  {complexCell m.b}]", s!"  [{complexCell m.c}  {complexCell m.d}]"]
  let verdict := if matrix.toComplex.isUnitary Square.unitaryTolerance then "yes" else "no"
  rows ++ [s!"  unitary: {verdict}"]

def amplitudeJson (a : Amplitude Float) : JsonText := .array [.real a.re, .real a.im]

def json (matrix : GateMatrix Float) : JsonText :=
  match matrix with
  | .real m => .object [("Real", .object [("data", .array (m.entries.map JsonText.real))])]
  | .complex m => .object [("Complex", .object [("data", .array (m.entries.map amplitudeJson))])]

end GateMatrix

end CircuitScript
