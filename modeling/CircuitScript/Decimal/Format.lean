import CircuitScript.Text.Numeral
import CircuitScript.Decimal.Shortest
/-!
Texts of doubles: the shortest digits laid out with or without a power of ten, and a fixed number
of places after the point.
-/
namespace CircuitScript.Decimal

/-- The number `0.d₁d₂… * 10 ^ point`, with neither a leading nor a trailing zero digit. -/
structure Digits where
  digits : List Char
  point : Int

def Digits.of (n : Nat) (exponent : Int) : Digits :=
  let all := Nat.toDigits 10 n
  { digits := (all.reverse.dropWhile (· = '0')).reverse
    point := all.length + exponent }

def Digits.positional (d : Digits) (whole : String) : String :=
  if d.point ≤ 0 then
    "0." ++ String.ofList (List.replicate d.point.natAbs '0' ++ d.digits)
  else
    let places := d.point.toNat
    if d.digits.length ≤ places then
      String.ofList (d.digits ++ List.replicate (places - d.digits.length) '0') ++ whole
    else
      String.ofList (d.digits.take places) ++ "." ++ String.ofList (d.digits.drop places)

def Digits.scientific (d : Digits) : String :=
  let fraction := match d.digits.drop 1 with
    | [] => ""
    | rest => "." ++ String.ofList rest
  String.ofList (d.digits.take 1) ++ fraction ++ "e" ++ Text.decimalInt (d.point - 1)

structure Layout where
  /-- Whether a number whose first digit stands for this power of ten has no power of ten written. -/
  isPositional : Int → Bool
  whole : String

def Layout.plain : Layout := ⟨fun _ => true, ""⟩

/-- A point in every positional number, and a power of ten from `1e16` up and below `1e-4`. -/
def Layout.marked : Layout := ⟨fun decade => -4 ≤ decade && decade < 16, ".0"⟩

def Layout.interchange : Layout := ⟨fun decade => -5 ≤ decade && decade < 16, ".0"⟩

def Layout.magnitude (layout : Layout) (significand : Nat) (exponent : Int) : String :=
  if significand = 0 then "0" ++ layout.whole
  else
    let (n, k) := shortest significand exponent
    let digits := Digits.of n k
    if layout.isPositional (digits.point - 1) then digits.positional layout.whole
    else digits.scientific

def Layout.text (layout : Layout) (x : Float) : String :=
  match Binary.ofFloat x with
  | .finite negative significand exponent =>
    (if negative then "-" else "") ++ layout.magnitude significand exponent
  | .infinite negative => if negative then "-inf" else "inf"
  | .notANumber => "NaN"

def roundHalfEven (num den : Nat) : Nat :=
  let below := num / den
  match compare (2 * (num % den)) den with
  | .lt => below
  | .gt => below + 1
  | .eq => below + below % 2

def fixedMagnitude (places : Nat) (significand : Nat) (exponent : Int) : String :=
  let (num, den) := ratio significand exponent
  let digits := Nat.toDigits 10 (roundHalfEven (num * Nat.pow 10 places) den)
  let padded := List.replicate (places + 1 - digits.length) '0' ++ digits
  String.ofList (padded.take (padded.length - places)) ++ "."
    ++ String.ofList (padded.drop (padded.length - places))

def fixed (places : Nat) (plus : String) (x : Float) : String :=
  match Binary.ofFloat x with
  | .finite negative significand exponent =>
    (if negative then "-" else plus) ++ fixedMagnitude places significand exponent
  | .infinite negative => if negative then "-inf" else plus ++ "inf"
  | .notANumber => "NaN"

end CircuitScript.Decimal
