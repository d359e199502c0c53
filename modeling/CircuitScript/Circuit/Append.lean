import CircuitScript.Building.Call
import CircuitScript.Circuit.Basic
/-!
Appending by name. A call's instruction is written as a line and the line is read back, so that a
circuit holds only what its own text says; a call that makes no well-formed line adds nothing.
-/
namespace CircuitScript

/-- A place that takes finished lines one by one and may change with each of them, also with one
that it refuses. -/
structure Writer (σ : Type) where
  write : σ → String → Except CircuitError Unit × σ

/-- A place that takes a line whole or refuses it, where a refusal leaves it as it was. -/
structure LineSink (σ : Type) where
  accept : σ → String → Except CircuitError σ

def LineSink.writer (sink : LineSink σ) : Writer σ where
  write state line :=
    match sink.accept state line with
    | .ok later => (.ok (), later)
    | .error error => (.error error, state)

def LineSink.english : LineSink String where
  accept text line := .ok (text ++ line.push Text.lineFeed)

namespace Operation

def write (op : Operation) (parameters : List Parameter) (sink : LineSink σ) (state : σ) :
    Except CircuitError σ := do
  let instruction ← op.call parameters
  sink.accept state instruction.text

end Operation

namespace Circuit

def build (width : UInt64) (name : String) (parameters : List Parameter) :
    Except CircuitError Instruction := do
  let op ← Operation.named name
  let written ← op.write parameters LineSink.english ""
  match Text.lines written with
  | [line] =>
    let instruction ← Instruction.read .hash line
    match firstOutside? width instruction with
    | some qubit => throw (.qubitOutOfRange qubit width (some instruction.text))
    | none => return instruction
  | _ => throw (.malformed op.name (.notOneLine written) none)

def appendInPlace (c : Circuit) (name : String) (parameters : List Parameter) :
    Circuit × Except CircuitError Unit :=
  match build c.width name parameters with
  | .error error => (c, .error error)
  | .ok instruction => (c.extended [instruction], .ok ())

def append (c : Circuit) (name : String) (parameters : List Parameter) :
    Except CircuitError Circuit :=
  result (c.appendInPlace name parameters)

/-- Adds the instruction of a named call after its line has gone to a writer. Behind the outcome
stand the writer and the circuit that the call leaves. -/
def appendThrough (w : Writer σ) (state : σ) (c : Circuit) (name : String)
    (parameters : List Parameter) : Except CircuitError Unit × σ × Circuit :=
  match build c.width name parameters with
  | .error error => (.error error, state, c)
  | .ok instruction =>
    match w.write state instruction.text with
    | (.error error, later) => (.error error, later, c)
    | (.ok (), later) => (.ok (), later, c.extended [instruction])

def appendWith (sink : LineSink σ) (state : σ) (c : Circuit) (name : String)
    (parameters : List Parameter) : Except CircuitError (σ × Circuit) :=
  let (outcome, left) := c.appendThrough sink.writer state name parameters
  outcome.map fun () => left

end Circuit

end CircuitScript
