import CircuitScript.Control
import CircuitScript.Parameter
/-!
What can go wrong, as causes, and the one wording of each.
-/
namespace CircuitScript

inductive Fault where
  | emptyLine
  | missingField (what : String) (position : Nat)
  | wrongKeyword (word found : String)
  | invalidField (what field : String)
  | notAnAngle (text : String)
  | notAControl (text : String)
  | markWithoutControls
  | noCoefficients
  | branchCount (multiplexed given : Nat)
  | multiplexorWithoutControls
  | unknownMeasurement (kind : Int)
  | noPlainConditions
  | trailingField (field : String) (read given : Nat)
  | repeatedQubit (qubit : Qubit)
  | missingParameter (what : String) (position : Nat)
  | unexpectedParameter (wanted : String) (given : Parameter)
  | negativeQubit (value : Int)
  | negativeControl (value : Int)
  | invalidCount (what : String) (value : Int)
  | severalLines (text : String)
  | noAngles
  | angleCount (given : Nat)
  | parameterCount (read given : Nat)
  | notOneLine (written : String)
  | refused (reason : String)

namespace Fault

def message : Fault → String
  | .emptyLine => "empty line"
  | .missingField what position => s!"missing {what} at field {position}"
  | .wrongKeyword word found => s!"expected '{word}', found '{found}'"
  | .invalidField what field => s!"invalid {what} '{field}'"
  | .notAnAngle text => s!"'{text}' is neither a number nor a placeholder"
  | .notAControl text => s!"invalid control token '{text}'"
  | .markWithoutControls => "'IF' without controls"
  | .noCoefficients => "no coefficients after 'BY'"
  | .branchCount multiplexed given =>
    s!"{multiplexed} multiplexor controls need 2^{multiplexed} coefficients, got {given}"
  | .multiplexorWithoutControls => "multiplexor needs controls"
  | .unknownMeasurement kind => s!"measurement kind {kind} not in 0..=2"
  | .noPlainConditions => "expected one or more T/F conditions"
  | .trailingField field read given =>
    s!"unexpected trailing field '{field}' (expected {read} fields, got {given})"
  | .repeatedQubit qubit => s!"qubit {qubit} used more than once"
  | .missingParameter what position => s!"missing {what} (parameter {position})"
  | .unexpectedParameter wanted given => s!"expected {wanted}, got {given.shown}"
  | .negativeQubit value => s!"negative qubit {value}"
  | .negativeControl value => s!"negative control {value}"
  | .invalidCount what value => s!"invalid {what} {value}"
  | .severalLines text => s!"text {Text.quoted text} spans more than one line"
  | .noAngles => "empty angle list"
  | .angleCount given => s!"expected 3 angles, got {given}"
  | .parameterCount read given => s!"expected {read} parameters, got {given}"
  | .notOneLine written => s!"expected one line, got {Text.quoted written}"
  | .refused reason => reason

end Fault

inductive CircuitError where
  | widthMismatch (left right : UInt64)
  | unknownOperation (name : String)
  | notConjugable (opcode : String)
  | malformed (opcode : String) (fault : Fault) (line : Option String)
  | invalidAxis (text : String)
  | qubitOutOfRange (qubit : Qubit) (width : UInt64) (line : Option String)
  | zeroStep
  | missingFile

namespace CircuitError

/-- Names the line an error comes from, in place of any line named before. Errors that come from no
single line stay as they are. -/
def withLine (line : String) : CircuitError → CircuitError
  | .malformed opcode fault _ => .malformed opcode fault (some line)
  | .qubitOutOfRange qubit width _ => .qubitOutOfRange qubit width (some line)
  | error => error

def lineContext : Option String → String
  | none => ""
  | some line => s!" (line: {Text.quoted line})"

def noSuchFile : String := "No such file or directory (os error 2)"

def message : CircuitError → String
  | .widthMismatch left right => s!"Cannot combine circuits on {left} and {right} qubits"
  | .unknownOperation name => s!"Unknown circuit-building operation '{name}'"
  | .notConjugable opcode => s!"Cannot conjugate unsupported instruction kind '{opcode}'"
  | .malformed opcode fault line =>
    s!"Malformed '{opcode}' instruction: {fault.message}{lineContext line}"
  | .invalidAxis text =>
    s!"Invalid rotation axis '{text}', expected one of x, y, z (or 1, 2, 3)"
  | .qubitOutOfRange qubit width line =>
    s!"Qubit {qubit} out of range for a {width}-qubit circuit{lineContext line}"
  | .zeroStep => "Slice step cannot be zero"
  | .missingFile => s!"I/O error: {noSuchFile}"

end CircuitError

end CircuitScript
