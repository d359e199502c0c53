import CircuitScript.Text.Numeral
/-!
Controls: a qubit with the condition it has to meet. `3T` and `3F` ask for one and zero, and
`3(1)` makes the qubit choose a branch, its value standing at binary position 1 of the branch's
number.
-/
namespace CircuitScript

abbrev Qubit := UInt64

inductive Condition where
  | isOne
  | isZero
  | multiplexed (position : UInt32)
  deriving DecidableEq, Repr

structure Control where
  qubit : Qubit
  condition : Condition
  deriving DecidableEq, Repr

namespace Control

def onOne (qubit : Qubit) : Control := ⟨qubit, .isOne⟩

def onZero (qubit : Qubit) : Control := ⟨qubit, .isZero⟩

def multiplexed (qubit : Qubit) (position : UInt32) : Control := ⟨qubit, .multiplexed position⟩

def isMultiplexed (control : Control) : Bool :=
  match control.condition with
  | .multiplexed _ => true
  | .isOne | .isZero => false

def readCondition? : List Char → Option Condition
  | ['T'] => some .isOne
  | ['F'] => some .isZero
  | '(' :: rest =>
    if rest.getLast? = some ')' then (Text.word32? rest.dropLast).map .multiplexed else none
  | _ => none

def readChars? (text : List Char) : Option Control := do
  let (digits, mark) := text.span Char.isDigit
  let qubit ← Text.word64? digits
  let condition ← readCondition? mark
  return ⟨qubit, condition⟩

def read? (token : String) : Option Control := readChars? token.toList

def text (control : Control) : String :=
  let qubit := Text.decimal control.qubit.toNat
  match control.condition with
  | .isOne => qubit ++ "T"
  | .isZero => qubit ++ "F"
  | .multiplexed position => qubit ++ "(" ++ Text.decimal position.toNat ++ ")"

end Control

end CircuitScript
