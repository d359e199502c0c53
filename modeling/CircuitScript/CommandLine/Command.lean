import CircuitScript.Axis
import CircuitScript.CommandLine.Form
import CircuitScript.CommandLine.NamedGate
import CircuitScript.Decimal.Literal
import CircuitScript.Text.Numeral
/-!
Commands and how the words of a command line name them.
-/
namespace CircuitScript

structure CircuitPlace where
  folder : String
  stem : String
  width : UInt64
  deriving DecidableEq, Repr

inductive Command where
  | show (place : CircuitPlace)
  | adjoint (place : CircuitPlace) (output : Option String)
  | symbols (place : CircuitPlace) (format : String)
  | slice (place : CircuitPlace) (start stop : Option Int64) (step : Int64)
      (output : Option String)
  | concat (folder : String) (width : UInt64) (output : String) (stems : List String)
  /-- With `create`, a circuit that is not there counts as empty. -/
  | append (place : CircuitPlace) (create : Bool) (operation : String) (parameters : List String)
  | gate (gate : NamedGate) (angles : List Float) (options : NamedGate.Options) (json : Bool)
      (settings : Option String)
  | version

namespace Command

/-! ## Texts of values -/

def int64? (text : String) : Option Int64 := (Text.signed64? text.toList).map Int64.ofInt

def word64? (text : String) : Option UInt64 := Text.word64? text.toList

def float? (text : String) : Option Float :=
  (Decimal.readLiteral? text.toList).map Decimal.Literal.toFloat

def path? (text : String) : Option String := if text.isEmpty then none else some text

def isReadable (read? : String → Option α) (text : String) : Bool := (read? text).isSome

/-! ## Forms -/

def folderOption : OptionForm := .value "dir" (some 'd') (isReadable path?)

def widthOption : OptionForm := .value "num-bits" (some 'n') (isReadable word64?)

def outputOption : OptionForm := .text "output" (some 'o')

def placeOptions : List OptionForm := [folderOption, .text "prefix" (some 'p'), widthOption]

def indexOption (name : String) : OptionForm := .number name (isReadable int64?)

def textPlace (name : String) (isList takesDashes : Bool) : PlaceForm :=
  ⟨name, isList, false, takesDashes, fun _ => true⟩

def showForm : CommandForm := ⟨"show", placeOptions, []⟩

def adjointForm : CommandForm := ⟨"herm", placeOptions ++ [outputOption], []⟩

def symbolsForm : CommandForm := ⟨"vars", placeOptions ++ [.text "format" (some 'f')], []⟩

def sliceForm : CommandForm :=
  ⟨"slice", placeOptions ++ ["start", "stop", "step"].map indexOption ++ [outputOption], []⟩

def concatForm : CommandForm :=
  ⟨"concat", [folderOption, widthOption, outputOption], [textPlace "stems" true false]⟩

def appendForm : CommandForm :=
  ⟨"append", placeOptions ++ [.flag "create"],
    [textPlace "operation" false false, textPlace "parameters" true true]⟩

def gateForm : CommandForm :=
  ⟨"gate",
    [.value "axis" (some 'a') (isReadable Axis.ofText?), .flag "real", .flag "dagger",
      .flag "json", .value "config" (some 'c') (isReadable path?)],
    [⟨"gate", false, false, false, isReadable NamedGate.ofName?⟩,
      ⟨"angles", true, true, false, isReadable float?⟩]⟩

def versionForm : CommandForm := ⟨"version", [], []⟩

/-! ## Values -/

abbrev Found := List (String × String)

def valuesOf (found : Found) (name : String) : List String :=
  found.filterMap fun (key, value) => if key = name then some value else none

def optional? (found : Found) (name : String) : Option String := (valuesOf found name).head?

def isGiven (found : Found) (name : String) : Bool := (optional? found name).isSome

def readOptional? (found : Found) (name : String) (read? : String → Option α) :
    Option (Option α) :=
  match optional? found name with
  | none => some none
  | some text => (read? text).map some

def folder? (found : Found) : Option String := do
  return (← readOptional? found "dir" path?).getD "."

def width? (found : Found) : Option UInt64 := (optional? found "num-bits").bind word64?

def place? (found : Found) : Option CircuitPlace := do
  return ⟨← folder? found, ← optional? found "prefix", ← width? found⟩

def slice? (found : Found) : Option Command := do
  let place ← place? found
  let start ← readOptional? found "start" int64?
  let stop ← readOptional? found "stop" int64?
  let step ← readOptional? found "step" int64?
  return .slice place start stop (step.getD 1) (optional? found "output")

def concat? (found : Found) : Option Command := do
  let stems := valuesOf found "stems"
  if stems.isEmpty then none
  else return .concat (← folder? found) (← width? found) (← optional? found "output") stems

def append? (found : Found) : Option Command := do
  return .append (← place? found) (isGiven found "create") (← optional? found "operation")
    (valuesOf found "parameters")

/-- A single rotation has to name its axis. -/
def gate? (found : Found) : Option Command := do
  let gate ← (optional? found "gate").bind NamedGate.ofName?
  let angles ← (valuesOf found "angles").mapM float?
  let axis ← readOptional? found "axis" Axis.ofText?
  let settings ← readOptional? found "config" path?
  if gate = .rotation ∧ axis.isNone then none
  else
    let kind := if isGiven found "real" then EntryKind.real else EntryKind.complex
    return .gate gate angles ⟨axis, kind, isGiven found "dagger"⟩ (isGiven found "json") settings

def table : List (CommandForm × (Found → Option Command)) :=
  [(showForm, fun found => (place? found).map .show),
   (adjointForm, fun found =>
      (place? found).map fun place => .adjoint place (optional? found "output")),
   (symbolsForm, fun found =>
      (place? found).map fun place =>
        .symbols place ((optional? found "format").getD "table")),
   (sliceForm, slice?),
   (concatForm, concat?),
   (appendForm, append?),
   (gateForm, gate?),
   (versionForm, fun _ => some .version)]

/-! ## Words -/

/-- Help is there for a command, for help itself, and for all commands together. -/
def helpFor : List String → FormStop
  | [] => .helpWanted
  | [name] => if name = "help" ∨ table.any (·.1.name = name) then .helpWanted else .misuse
  | _ => .misuse

def readLetters : List Char → Except FormStop Unit
  | [] => .ok ()
  | 'v' :: rest => readLetters rest
  | 'V' :: _ => .error .versionWanted
  | 'h' :: _ => .error .helpWanted
  | _ => .error .misuse

def ofWords : List String → Except FormStop Command
  | [] => .error .misuse
  | word :: words =>
    match table.find? (·.1.name = word) with
    | some (form, meaning?) => do
      match meaning? (← form.sort words) with
      | some command => return command
      | none => throw .misuse
    | none =>
      match word.toList with
      | '-' :: '-' :: text =>
        if text = "verbose".toList then ofWords words
        else if text = "version".toList then .error .versionWanted
        else if text = "help".toList then .error .helpWanted
        else .error .misuse
      | '-' :: letter :: rest =>
        match readLetters (letter :: rest) with
        | .ok () => ofWords words
        | .error stop => .error stop
      | text => .error (if text = "help".toList then helpFor words else .misuse)

end Command

end CircuitScript
