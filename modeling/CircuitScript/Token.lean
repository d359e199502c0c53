import CircuitScript.Angle
import CircuitScript.Error
/-!
Angles and controls as single tokens, read with the fault of a token that cannot be read.
-/
namespace CircuitScript

def Angle.ofToken (grammar : PlaceholderGrammar) (token : String) : Except Fault Angle :=
  match Angle.read? grammar token with
  | some angle => .ok angle
  | none => .error (.notAnAngle token)

def Control.ofToken (token : String) : Except Fault Control :=
  match Control.read? token with
  | some control => .ok control
  | none => .error (.notAControl token)

/-- The error of a token that stands alone, outside any instruction. -/
def Fault.alone (fault : Fault) : CircuitError := .malformed "" fault none

end CircuitScript
