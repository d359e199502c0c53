import CircuitScript.Circuit.Files
/-!
Simulation by another program, which gets the circuit as a file in a folder of its own. The folder
is part of the call's argument alone, so nothing of it is left after the call.
-/
namespace CircuitScript

structure StagedCircuit where
  folder : Directory
  stem : String
  width : UInt64

namespace StagedCircuit

def stageStem : String := "staged"

def fileName (s : StagedCircuit) : String := englishName s.stem s.width

def english? (s : StagedCircuit) : Option String := s.folder.read? (Path.ofText s.fileName)

end StagedCircuit

structure Simulator (State Options Output ε : Type) where
  run : StagedCircuit → Option State → Options → Except ε Output

namespace Circuit

def stage (c : Circuit) : Except CircuitError StagedCircuit := do
  let folder ← c.save Directory.empty "" StagedCircuit.stageStem
  return ⟨folder, StagedCircuit.stageStem, c.width⟩

def simulate (c : Circuit) (simulator : Simulator State Options Output ε) (state : Option State)
    (options : Options) : Except (OutsideError ε) Output := do
  let staged ← c.stage.mapError .circuit
  (simulator.run staged state options).mapError .collaborator

end Circuit

end CircuitScript
