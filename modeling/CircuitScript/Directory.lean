import CircuitScript.Error
import CircuitScript.Text.Fields
/-!
A tree of text files. A folder exists when it is known to or when a file lies in it. The folder from
which all paths start exists, and so do the folders above it.
-/
namespace CircuitScript

/-- The names from the starting folder down to a file. A step back leads to the folder around. -/
abbrev Path := List String

def Path.stepBack : String := ".."

/-- The names of a path text, with steps that go nowhere left out. A path from the system's root
keeps an empty first name and so leads outside the tree. -/
def Path.ofText (text : String) : Path :=
  let names := (Text.cut '/' text.toList).map String.ofList
  let steps := names.filter fun name => name ≠ "" ∧ name ≠ "."
  if text.toList.head? = some '/' then "" :: steps else steps

def Path.text (path : Path) : String := "/".intercalate path

/-- A name below a folder as a path text. A name from the system's root stands for itself. -/
def Path.within (folder name : String) : String :=
  if folder.isEmpty ∨ name.toList.head? = some '/' then name
  else if folder.toList.getLast? = some '/' then folder ++ name
  else folder ++ "/" ++ name

structure Directory where
  files : List (Path × String)
  /-- Folders that exist even when no file lies in them. -/
  folders : List Path
  deriving Repr

namespace Directory

def empty : Directory := ⟨[], []⟩

def hasFolder (d : Directory) (folder : Path) : Bool :=
  folder.all (· = Path.stepBack) || d.folders.any folder.isPrefixOf
    || d.files.any fun (file, _) => folder.isPrefixOf file.dropLast

/-- The folder around a folder, which can be left only if it exists. The system's root is around
itself. -/
def around? (d : Directory) (folder : Path) : Option Path :=
  if folder = [""] then some folder
  else if folder.all (· = Path.stepBack) then some (folder ++ [Path.stepBack])
  else if d.hasFolder folder then some folder.dropLast
  else none

def step? (d : Directory) (folder : Path) (name : String) : Option Path :=
  if name = Path.stepBack then d.around? folder else some (folder ++ [name])

def resolve? (d : Directory) (path : Path) : Option Path := path.foldlM d.step? []

def read? (d : Directory) (path : Path) : Option String :=
  (d.resolve? path).bind fun path => d.files.lookup path

def read (d : Directory) (path : Path) : Except CircuitError String :=
  match d.read? path with
  | some text => .ok text
  | none => .error .missingFile

def put (d : Directory) (path : Path) (text : String) : Directory :=
  { d with files := d.files.filter (·.1 ≠ path) ++ [(path, text)] }

def write (d : Directory) (path : Path) (text : String) : Except CircuitError Directory :=
  match d.resolve? path with
  | some path => if d.hasFolder path.dropLast then .ok (d.put path text) else .error .missingFile
  | none => .error .missingFile

def changedSince (d earlier : Directory) : List (Path × String) :=
  d.files.filter fun (path, text) => earlier.read? path ≠ some text

def names (d : Directory) : List String :=
  (d.files.map fun (path, _) => Path.text path).mergeSort fun a b => decide (a ≤ b)

end Directory

end CircuitScript
