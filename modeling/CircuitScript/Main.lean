import CircuitScript.CommandLine.Execution
/-!
The program: reads the files that the command may need, runs the command over them, and writes what
it changed.
-/
namespace CircuitScript.Program

def readText? (path : String) : IO (Option String) := do
  try
    return some (← IO.FS.readFile path)
  catch _ => return none

def folderExists (folder : Path) : IO Bool := do
  try
    let _ ← IO.FS.realPath (folder.text.push '/')
    return true
  catch _ => return false

/-- The files of these paths that can be read, and the folders on the way to them that exist. -/
def snapshot (paths : List Path) : IO Directory := do
  let ways := paths.flatMap fun path => (List.range path.length).map path.take
  let tree : Directory := ⟨[], ← ways.filterM folderExists⟩
  paths.foldlM (fun tree path => do
    match tree.resolve? path, ← readText? path.text with
    | some place, some text => return tree.put place text
    | _, _ => return tree) tree

def report (outcome : Command.Outcome) : IO UInt32 := do
  IO.print outcome.printed
  IO.eprint outcome.complaint
  return UInt32.ofNat outcome.code

def run (words : List String) : IO UInt32 := do
  let environment : Settings.Environment :=
    ⟨← IO.getEnv "QLIST_PARAMETRIZATION", ← IO.getEnv "QLIST_DEGREES"⟩
  let paths := match Command.ofWords words with
    | .ok command => command.paths
    | .error _ => []
  let files ← snapshot (paths.map Path.ofText)
  let outcome := Command.execute environment files words
  for (path, text) in outcome.files.changedSince files do
    IO.FS.writeFile path.text text
  report outcome

end CircuitScript.Program

def main (words : List String) : IO UInt32 := CircuitScript.Program.run words
