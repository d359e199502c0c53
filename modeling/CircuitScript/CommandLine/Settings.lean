import CircuitScript.Angle
import CircuitScript.Error
import CircuitScript.Gate.Strategy
import CircuitScript.Yaml.Document
/-!
Settings of the gate command: how gates are computed and in which unit their angles are given. They
come from a file, and variables of the environment go before it.
-/
namespace CircuitScript

structure Settings where
  parametrization : Parametrization
  inDegrees : Bool
  deriving DecidableEq, Repr

namespace Settings

def standard : Settings := ⟨.closedForm, false⟩

def toRadians (s : Settings) (angle : Float) : Float :=
  if s.inDegrees then Angle.toRadians angle else angle

/-- A flag is one of the words for true and false, either plain or as a literal block that is tagged
as a flag. -/
def flagOf? : Yaml.Node → Option Bool
  | .scalar properties text style =>
    if style = .plain ∨ (style = .literal ∧ properties.tag = some Yaml.Tag.bool) then
      if text ∈ ["true", "True", "TRUE"] then some true
      else if text ∈ ["false", "False", "FALSE"] then some false
      else none
    else none
  | _ => none

def isNull (text : String) : Bool := text ∈ ["", "~", "null", "Null", "NULL"]

/-- A parametrization is named by a scalar, or by the tag of a plain one that stands for nothing. -/
def parametrizationOf? : Yaml.Node → Option Parametrization
  | .scalar properties text style =>
    match properties.tag.bind Yaml.Tag.localName? with
    | some name =>
      if style = .plain ∧ isNull text then Parametrization.ofName? name else none
    | none => Parametrization.ofName? text
  | _ => none

def keyOf? : Yaml.Node → Option String
  | .scalar _ text _ => some text
  | _ => none

def once? (read? : Yaml.Node → Option α) : List Yaml.Node → Option (Option α)
  | [] => some none
  | [value] => (read? value).map some
  | _ => none

def valuesOf (key : String) (entries : List (String × Yaml.Node)) : List Yaml.Node :=
  entries.filterMap fun (name, value) => if name = key then some value else none

/-- Names other than those of the two settings are left alone, with whatever they hold. -/
def ofEntries? (entries : List (String × Yaml.Node)) : Option Settings := do
  let parametrization ← once? parametrizationOf? (valuesOf "parametrization" entries)
  let inDegrees ← once? flagOf? (valuesOf "degrees" entries)
  return ⟨parametrization.getD standard.parametrization, inDegrees.getD standard.inDegrees⟩

def ofDocument? (document : Yaml.Node) : Option Settings :=
  match document with
  | .mapping _ entries => do
    let named ← entries.mapM fun (key, value) => do
      return (← keyOf? (← document.meant? key), ← document.meant? value)
    ofEntries? named
  | .scalar _ "" .plain => some standard
  | _ => none

def ofYaml? (text : String) : Option Settings := do ofDocument? (← Yaml.Node.ofText? text)

structure Environment where
  parametrization : Option String
  degrees : Option String
  deriving DecidableEq, Repr

inductive SettingsError where
  | unreadable (path : String)
  | invalidFile (path : String)
  | invalidParametrization (value : String)
  deriving DecidableEq, Repr

def SettingsError.message : SettingsError → String
  | .unreadable path => s!"Failed to read config file: {path}: {CircuitError.noSuchFile}"
  | .invalidFile path => s!"Invalid config file: {path}"
  | .invalidParametrization value => s!"Invalid QLIST_PARAMETRIZATION: '{value}'"

/-- The words that switch degrees on, in any case; all others switch them off. -/
def isOn (value : String) : Bool :=
  value.toList.map Char.toLower ∈ ["1".toList, "true".toList, "yes".toList]

def override (s : Settings) (environment : Environment) : Except SettingsError Settings := do
  let parametrization ← match environment.parametrization with
    | none => pure s.parametrization
    | some value =>
      match (Yaml.Node.ofText? value).bind parametrizationOf? with
      | some parametrization => pure parametrization
      | none => throw (.invalidParametrization value)
  let inDegrees := match environment.degrees with
    | none => s.inDegrees
    | some value => isOn value
  return ⟨parametrization, inDegrees⟩

end Settings

end CircuitScript
