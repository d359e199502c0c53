import CircuitScript.Circuit.Basic
import CircuitScript.Directory
/-!
Circuits on disk. A circuit lies in a file of lines, and its picture, which a diagram reader makes
from those lines, lies beside it.
-/
namespace CircuitScript

def englishName (stem : String) (width : UInt64) : String :=
  stem ++ "_" ++ Text.decimal width.toNat ++ "_eng.txt"

def pictureName (stem : String) (width : UInt64) : String :=
  stem ++ "_" ++ Text.decimal width.toNat ++ "_pic.txt"

inductive OutsideError (ε : Type) where
  | circuit (error : CircuitError)
  | collaborator (failure : ε)

def OutsideError.message (wording : ε → String) : OutsideError ε → String
  | .circuit error => error.message
  | .collaborator failure => "Collaborator failed: " ++ wording failure

structure DiagramReader (ε : Type) where
  draw : UInt64 → String → Except ε String

namespace Circuit

/-- Reads the file of lines in a folder. Carriage returns at the end of a line and lines of white
space do not matter. -/
def load (d : Directory) (folder stem : String) (width : UInt64) :
    Except CircuitError Circuit := do
  let text ← d.read (Path.ofText (Path.within folder (englishName stem width)))
  ofLines .hash width (Text.significantLines text)

def save (c : Circuit) (d : Directory) (folder stem : String) : Except CircuitError Directory :=
  d.write (Path.ofText (Path.within folder (englishName stem c.width))) c.english

def draw (c : Circuit) (reader : DiagramReader ε) : Except (OutsideError ε) String :=
  (reader.draw c.width c.english).mapError .collaborator

/-- Writes the lines, then draws the picture and writes it too. The lines stay written when the
reader fails. -/
def saveWithPicture (c : Circuit) (reader : DiagramReader ε) (d : Directory)
    (folder stem : String) : Directory × Except (OutsideError ε) Unit :=
  match c.save d folder stem with
  | .error error => (d, .error (.circuit error))
  | .ok d =>
    match c.draw reader with
    | .error error => (d, .error error)
    | .ok picture =>
      match d.write (Path.ofText (Path.within folder (pictureName stem c.width))) picture with
      | .error error => (d, .error (.circuit error))
      | .ok d => (d, .ok ())

end Circuit

end CircuitScript
