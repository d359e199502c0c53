import CircuitScript.Decimal.Format
import CircuitScript.Placeholder
/-!
Angles as they stand in a line: the text of a finite number of degrees, or a placeholder. The text
is kept as it was written, and negation works on it.
-/
namespace CircuitScript

inductive Angle where
  | literal (text : String)
  | placeholder (token : String)
  deriving DecidableEq, Repr

namespace Angle

def text : Angle → String
  | .literal text => text
  | .placeholder token => token

def isFiniteNumber (text : String) : Bool :=
  ((Decimal.readLiteral? text.toList).map Decimal.Literal.isFinite).getD false

/-- A finite number is a literal under every grammar; any other text has to be a legal token. -/
def read? (grammar : PlaceholderGrammar) (text : String) : Option Angle :=
  if isFiniteNumber text then some (.literal text)
  else if grammar.isLegal text then some (.placeholder text)
  else none

def degrees? : Angle → Option Float
  | .literal text => (Decimal.readLiteral? text.toList).map Decimal.Literal.toFloat
  | .placeholder _ => none

def isSymbolic : Angle → Bool
  | .literal _ => false
  | .placeholder _ => true

def toggleMinus : List Char → List Char
  | '-' :: rest => rest
  | '+' :: rest => '-' :: rest
  | text => '-' :: text

def mapText (f : List Char → List Char) : Angle → Angle
  | .literal text => .literal (String.ofList (f text.toList))
  | .placeholder token => .placeholder (String.ofList (f token.toList))

def negated (angle : Angle) : Angle := angle.mapText toggleMinus

def ofDegrees (degrees : Float) : Angle := .literal (Decimal.Layout.plain.text degrees)

def degreesPerRadian : Float := 57.29577951308232

def radiansPerDegree : Float := 0.017453292519943295

def toDegrees (radians : Float) : Float := radians * degreesPerRadian

def toRadians (degrees : Float) : Float := degrees * radiansPerDegree

/-- Numbers of degrees that come from radians keep this many units in one degree. -/
def unitsPerDegree : Float := 1e10

/-- The angle of a number of radians, to the tenth place of a degree; zero has no sign. -/
def ofRadians (radians : Float) : Angle :=
  let rounded := Decimal.roundToWhole (toDegrees radians * unitsPerDegree) / unitsPerDegree
  ofDegrees (if rounded == 0.0 then 0.0 else rounded)

end Angle

end CircuitScript
