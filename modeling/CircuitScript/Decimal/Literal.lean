import CircuitScript.Text.Numeral
/-!
Real numbers in decimal: an optional sign, then digits with an optional point and an optional
power of ten, or one of the words for infinity and for no number at all. A literal keeps the
exact decimal value; the nearest double is taken only when a float is asked for.
-/
namespace CircuitScript.Decimal

inductive Magnitude where
  /-- The number `digits * 10 ^ exponent`. -/
  | finite (digits : Nat) (exponent : Int)
  | infinite
  | notANumber
  deriving DecidableEq, Repr

structure Literal where
  negative : Bool
  magnitude : Magnitude
  deriving DecidableEq, Repr

def readSign : List Char → Bool × List Char
  | '-' :: rest => (true, rest)
  | '+' :: rest => (false, rest)
  | text => (false, text)

def readExponent? : List Char → Option Int
  | [] => some 0
  | mark :: rest =>
    if mark.toLower = 'e' then
      let (negative, digits) := readSign rest
      (Text.natural? digits).map fun n => if negative then -(n : Int) else n
    else none

def readFraction : List Char → List Char × List Char
  | '.' :: rest => rest.span Char.isDigit
  | rest => ([], rest)

def readFinite? (text : List Char) : Option Magnitude :=
  let (whole, afterWhole) := text.span Char.isDigit
  let (fraction, afterFraction) := readFraction afterWhole
  match whole ++ fraction, readExponent? afterFraction with
  | [], _ => none
  | _, none => none
  | digits, some exponent =>
    some (.finite (Nat.ofDigitChars 10 digits 0) (exponent - fraction.length))

def readMagnitude? (text : List Char) : Option Magnitude :=
  let word := text.map Char.toLower
  if word = "inf".toList ∨ word = "infinity".toList then some .infinite
  else if word = "nan".toList then some .notANumber
  else readFinite? text

def readLiteral? (text : List Char) : Option Literal :=
  let (negative, rest) := readSign text
  (readMagnitude? rest).map fun magnitude => ⟨negative, magnitude⟩

/-- The least number that is nearer to the power of two above the doubles than to any double; it
and all larger ones become infinite. -/
def overflowBound : Nat := Nat.pow 2 1024 - Nat.pow 2 970

/-- Whether `digits * 10 ^ exponent` has a finite double nearest to it. The powers are computed only
where the number of digits leaves the answer open. -/
def fitsDouble (digits : Nat) (exponent : Int) : Bool :=
  if digits = 0 then true
  else if 0 ≤ exponent then
    exponent < 309 && digits * Nat.pow 10 exponent.toNat < overflowBound
  else
    digits.log2 < exponent.natAbs || digits < overflowBound * Nat.pow 10 exponent.natAbs

def Magnitude.isFinite : Magnitude → Bool
  | .finite digits exponent => fitsDouble digits exponent
  | .infinite => false
  | .notANumber => false

def Literal.isFinite (literal : Literal) : Bool := literal.magnitude.isFinite

def Magnitude.toFloat : Magnitude → Float
  | .finite digits (.ofNat n) => Float.ofScientific digits false n
  | .finite digits (.negSucc n) => Float.ofScientific digits true (n + 1)
  | .infinite => 1.0 / 0.0
  | .notANumber => 0.0 / 0.0

def Literal.toFloat (literal : Literal) : Float :=
  if literal.negative then -literal.magnitude.toFloat else literal.magnitude.toFloat

end CircuitScript.Decimal
