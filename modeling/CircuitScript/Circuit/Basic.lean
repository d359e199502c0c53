import CircuitScript.Instruction.Printer
import CircuitScript.Instruction.Reader
import CircuitScript.Text.Lines
/-!
Circuits: a fixed number of qubits and a list of instructions in order. Every way to add an
instruction checks that its qubits exist.
-/
namespace CircuitScript

structure Circuit where
  width : UInt64
  instructions : List Instruction
  deriving DecidableEq, Repr

namespace Circuit

def empty (width : UInt64) : Circuit := ⟨width, []⟩

def size (c : Circuit) : Nat := c.instructions.length

def isEmpty (c : Circuit) : Bool := c.instructions.isEmpty

def get? (c : Circuit) (index : Nat) : Option Instruction := c.instructions[index]?

def lines (c : Circuit) : List String := c.instructions.map Instruction.text

def english (c : Circuit) : String := Text.ofLines c.lines

def text (c : Circuit) : String := "\n".intercalate c.lines

def firstOutside? (width : UInt64) (instruction : Instruction) : Option Qubit :=
  instruction.qubits.find? (width ≤ ·)

def extended (c : Circuit) (instructions : List Instruction) : Circuit :=
  { c with instructions := c.instructions ++ instructions }

@[simp] theorem extended_nil (c : Circuit) : c.extended [] = c := by simp [extended]

@[simp] theorem extended_extended (c : Circuit) (first second : List Instruction) :
    (c.extended first).extended second = c.extended (first ++ second) := by simp [extended]

/-- Adds an instruction at the end; an error names the instruction's own line. The first part is
what then stands in the circuit's place. -/
def pushInPlace (c : Circuit) (instruction : Instruction) : Circuit × Except CircuitError Unit :=
  match firstOutside? c.width instruction with
  | some qubit => (c, .error (.qubitOutOfRange qubit c.width (some instruction.text)))
  | none => (c.extended [instruction], .ok ())

/-- The circuit that an operation in place leaves, for callers that keep none if it fails. -/
def result (left : Circuit × Except ε Unit) : Except ε Circuit := left.2.map fun () => left.1

def push (c : Circuit) (instruction : Instruction) : Except CircuitError Circuit :=
  result (c.pushInPlace instruction)

def pushAll (c : Circuit) : List Instruction → Except CircuitError Circuit
  | [] => .ok c
  | instruction :: rest => do (← c.push instruction).pushAll rest

def ofInstructions (width : UInt64) (instructions : List Instruction) :
    Except CircuitError Circuit :=
  (empty width).pushAll instructions

/-- Reads a line and adds its instruction; an error names the line as it was given. -/
def pushLine (grammar : PlaceholderGrammar) (c : Circuit) (line : String) :
    Except CircuitError Circuit := do
  let instruction ← Instruction.read grammar line
  (c.push instruction).mapError (·.withLine line)

def pushLines (grammar : PlaceholderGrammar) (c : Circuit) :
    List String → Except CircuitError Circuit
  | [] => .ok c
  | line :: rest => do (← c.pushLine grammar line).pushLines grammar rest

def ofLines (grammar : PlaceholderGrammar) (width : UInt64) (lines : List String) :
    Except CircuitError Circuit :=
  (empty width).pushLines grammar lines

def concat (a b : Circuit) : Except CircuitError Circuit :=
  if a.width = b.width then .ok ⟨a.width, a.instructions ++ b.instructions⟩
  else .error (.widthMismatch a.width b.width)

/-- A failure that ends the program, with the message it leaves. -/
structure Abort where
  message : String
  deriving DecidableEq, Repr

/-- Addition is concatenation for callers that know the widths to agree: otherwise it aborts. -/
instance : HAdd Circuit Circuit (Except Abort Circuit) where
  hAdd a b := (a.concat b).mapError fun error => ⟨error.message⟩

end Circuit

end CircuitScript
