import CircuitScript.Circuit.Adjoint
import CircuitScript.Circuit.Append
import CircuitScript.Circuit.Files
import CircuitScript.Circuit.Join
import CircuitScript.Circuit.Slice
import CircuitScript.Circuit.Symbols
import CircuitScript.CommandLine.Command
import CircuitScript.CommandLine.ParameterText
/-!
Running commands over a tree of files. A run leaves a changed tree, what it printed and, if it
failed, one error; a command reads all that it needs before it writes its only file.
-/
namespace CircuitScript

def CircuitPlace.path (place : CircuitPlace) : String :=
  Path.within place.folder (englishName place.stem place.width)

namespace Command

structure Desk where
  files : Directory
  printed : String

/-- A run that fails leaves the desk as it was at that point. -/
abbrev Run := ExceptT String (StateM Desk)

def say (line : String) : Run Unit :=
  modify fun desk => { desk with printed := desk.printed ++ line.push '\n' }

def spaced (line : String) : String := "  ".intercalate (Text.fields line)

/-- The text of an error followed by the system's word for it, where that is its cause. -/
def withCause (error : CircuitError) : String :=
  match error with
  | .missingFile => error.message ++ ": " ++ CircuitError.noSuchFile
  | _ => error.message

def loadCircuit (place : CircuitPlace) : Run Circuit := do
  let files := (← get).files
  let path := place.path
  if (files.read? (Path.ofText path)).isNone then throw s!"File not found: {path}"
  match Circuit.load files place.folder place.stem place.width with
  | .ok c => return c
  | .error error => throw s!"Failed to load circuit: {path}: {withCause error}"

def saveCircuit (c : Circuit) (folder stem : String) : Run String := do
  match c.save (← get).files folder stem with
  | .ok files =>
    modify fun desk => { desk with files }
    return CircuitPlace.path ⟨folder, stem, c.width⟩
  | .error error => throw s!"Failed to write circuit with prefix '{stem}': {withCause error}"

def orFail (result : Except CircuitError α) : Run α :=
  match result with
  | .ok x => return x
  | .error error => throw (withCause error)

def sayOutput (path : String) : Run Unit := say s!"  Output: {path}"

def runShow (place : CircuitPlace) : Run Unit := do
  let c ← loadCircuit place
  let width := (Text.decimal c.size).length
  for (line, index) in c.lines.zipIdx do
    say (GateMatrix.padLeft width (Text.decimal index) ++ "  " ++ spaced line)

def runAdjoint (place : CircuitPlace) (output : Option String) : Run Unit := do
  let c ← loadCircuit place
  say s!"→ Conjugating {place.stem} ({c.size} instructions on {place.width} qubits)"
  let conjugate ← orFail c.adjoint
  let path ← saveCircuit conjugate place.folder (output.getD (place.stem ++ "_herm"))
  say "✓ Conjugation complete"
  sayOutput path

def heading (word : String) : String :=
  word ++ String.ofList (List.replicate (12 - word.length) ' ')

def symbolsJson (symbols : Symbols) : JsonText :=
  .object [
    ("var_nums", .array (symbols.variableNumbers.map fun n => .natural n.toNat)),
    ("fun_names", .array (symbols.functions.map .text))]

def runSymbols (place : CircuitPlace) (format : String) : Run Unit := do
  let c ← loadCircuit place
  let symbols := c.symbols .hash
  match format with
  | "json" => say ((symbolsJson symbols).pretty 0)
  | "table" =>
    let numbers := symbols.variableNumbers.map fun n => "#" ++ Text.decimal n.toNat
    say (heading "Variables" ++ ", ".intercalate numbers)
    say (heading "Functions" ++ ", ".intercalate symbols.functions)
  | other => throw s!"Unknown format: '{other}'. Available: table, json"

def runSlice (place : CircuitPlace) (start stop : Option Int64) (step : Int64)
    (output : Option String) : Run Unit := do
  let c ← loadCircuit place
  let sliced ← orFail (c.sliceStep start stop step)
  let path ← saveCircuit sliced place.folder (output.getD (place.stem ++ "_slice"))
  say s!"✓ Kept {sliced.size} of {c.size} instructions"
  sayOutput path

def concatAll (folder : String) (width : UInt64) (combined : Circuit) :
    List String → Run Circuit
  | [] => return combined
  | stem :: stems => do
    let part ← loadCircuit ⟨folder, stem, width⟩
    match combined.extend part with
    | (combined, .ok ()) =>
      say s!"  + {stem} ({part.size} instructions)"
      concatAll folder width combined stems
    | (_, .error error) => throw s!"Cannot append '{stem}': {withCause error}"

def runConcat (folder : String) (width : UInt64) (output : String) (stems : List String) :
    Run Unit := do
  let combined ← concatAll folder width (.empty width) stems
  let path ← saveCircuit combined folder output
  say s!"✓ Concatenated {stems.length} circuits, {combined.size} instructions"
  sayOutput path

def runAppend (place : CircuitPlace) (create : Bool) (operation : String)
    (parameters : List String) : Run Unit := do
  let isThere := ((← get).files.read? (Path.ofText place.path)).isSome
  let c ← if create ∧ !isThere then pure (.empty place.width) else loadCircuit place
  let c ← orFail (c.append operation (parameters.map Parameter.ofWord))
  let path ← saveCircuit c place.folder place.stem
  if let some line := c.lines.getLast? then say ("+ " ++ spaced line)
  sayOutput path

def loadSettings (environment : Settings.Environment) (path : Option String) :
    Run Settings := do
  let files := (← get).files
  let settings ← match path with
    | none => pure Settings.standard
    | some path =>
      match files.read? (Path.ofText path) with
      | none => throw (Settings.SettingsError.unreadable path).message
      | some text =>
        match Settings.ofYaml? text with
        | none => throw (Settings.SettingsError.invalidFile path).message
        | some settings => pure settings
  match settings.override environment with
  | .ok settings => return settings
  | .error error => throw error.message

def runGate (environment : Settings.Environment) (gate : NamedGate) (angles : List Float)
    (options : NamedGate.Options) (json : Bool) (settings : Option String) : Run Unit := do
  let settings ← loadSettings environment settings
  match gate.matrix settings options angles with
  | .error error => throw error.message
  | .ok matrix =>
    if json then say (matrix.json.pretty 0)
    else
      for row in matrix.table do
        say row

def versionNumber : String := "0.3.0"

def runVersion : Run Unit := do
  say s!"qlist v{versionNumber} - circuit lists and single-qubit gate algebra"
  say ""
  say "Components:"
  say "  qlist-gates  Single-qubit gate algebra"
  say "  qlist-ir     Circuit list IR and conjugation"
  say "  qlist-cli    Command-line interface"

def run (environment : Settings.Environment) : Command → Run Unit
  | .show place => runShow place
  | .adjoint place output => runAdjoint place output
  | .symbols place format => runSymbols place format
  | .slice place start stop step output => runSlice place start stop step output
  | .concat folder width output stems => runConcat folder width output stems
  | .append place create operation parameters => runAppend place create operation parameters
  | .gate request angles options json settings =>
    runGate environment request angles options json settings
  | .version => runVersion

def paths : Command → List String
  | .show place | .symbols place _ | .append place _ _ _ => [place.path]
  | .adjoint place output =>
    [place.path,
     CircuitPlace.path { place with stem := output.getD (place.stem ++ "_herm") }]
  | .slice place _ _ _ output =>
    [place.path,
     CircuitPlace.path { place with stem := output.getD (place.stem ++ "_slice") }]
  | .concat folder width output stems =>
    (output :: stems).map fun stem => CircuitPlace.path ⟨folder, stem, width⟩
  | .gate _ _ _ _ settings => settings.toList
  | .version => []

structure Outcome where
  code : Nat
  printed : String
  complaint : String
  files : Directory

def usage : String :=
  "Usage: qlist [-v] <show|herm|vars|slice|concat|append|gate|version> [OPTIONS]\n"

def execute (environment : Settings.Environment) (files : Directory) (words : List String) :
    Outcome :=
  match ofWords words with
  | .error .misuse => ⟨2, "", usage, files⟩
  | .error .helpWanted => ⟨0, usage, "", files⟩
  | .error .versionWanted => ⟨0, s!"qlist {versionNumber}\n", "", files⟩
  | .ok command =>
    match ((command.run environment).run.run ⟨files, ""⟩) with
    | (.ok (), desk) => ⟨0, desk.printed, "", desk.files⟩
    | (.error message, desk) => ⟨1, desk.printed, s!"Error: {message}\n", desk.files⟩

end Command

end CircuitScript
