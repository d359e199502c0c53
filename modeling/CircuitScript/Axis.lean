import CircuitScript.Text.Blank
/-!
The three axes of space, about which a qubit is rotated.
-/
namespace CircuitScript

inductive Axis where
  | x
  | y
  | z
  deriving DecidableEq, Repr

namespace Axis

def all : List Axis := [.x, .y, .z]

def name : Axis → String
  | .x => "x"
  | .y => "y"
  | .z => "z"

def index : Axis → Nat
  | .x => 0
  | .y => 1
  | .z => 2

/-- An axis by its number, counted from one. -/
def ofNumber? : Nat → Option Axis
  | 1 => some .x
  | 2 => some .y
  | 3 => some .z
  | _ => none

def ofText? (text : String) : Option Axis :=
  match (Text.trimmed text.toList).map Char.toLower with
  | ['x'] | ['1'] => some .x
  | ['y'] | ['2'] => some .y
  | ['z'] | ['3'] => some .z
  | _ => none

end Axis

end CircuitScript
