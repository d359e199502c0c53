import CircuitScript.Decimal.Binary
/-!
The fewest digits that read back. The reals nearest to a double form an interval; for one digit,
two digits and so on, the two neighbours of the double on that decimal grid are tried, and the
first grid with a neighbour in the interval gives the digits. Seventeen digits always suffice.
-/
namespace CircuitScript.Decimal

/-- The reals that round to a double, all over one denominator. The ends belong to it when a tie
goes to this double. -/
structure Interval where
  lower : Nat
  centre : Nat
  upper : Nat
  denominator : Nat
  closed : Bool

/-- The interval of `significand * 2 ^ exponent`. Its ends lie half way to the next doubles, and the
one below is nearer when the significand is the least of its exponent. -/
def Interval.around (significand : Nat) (exponent : Int) : Interval :=
  let narrow := significand = hiddenBit ∧ leastExponent < exponent
  let (unit, denominator) := ratio 1 (exponent - 2)
  { lower := (4 * significand - if narrow then 1 else 2) * unit
    centre := 4 * significand * unit
    upper := (4 * significand + 2) * unit
    denominator
    closed := significand % 2 = 0 }

def tenFactors (exponent : Int) : Nat × Nat :=
  if 0 ≤ exponent then (Nat.pow 10 exponent.toNat, 1) else (1, Nat.pow 10 exponent.natAbs)

def Interval.holds (i : Interval) (n : Nat) (exponent : Int) : Bool :=
  let (up, down) := tenFactors exponent
  let point := n * up * i.denominator
  if i.closed then i.lower * down ≤ point && point ≤ i.upper * down
  else i.lower * down < point && point < i.upper * down

def Interval.floor (i : Interval) (exponent : Int) : Nat :=
  let (up, down) := tenFactors exponent
  i.centre * down / (up * i.denominator)

/-- The multiple of `10 ^ exponent` in the interval that is nearest to the centre, the larger one of
two equally near. -/
def Interval.nearest? (i : Interval) (exponent : Int) : Option Nat :=
  let (up, down) := tenFactors exponent
  let below := i.floor exponent
  match i.holds below exponent, i.holds (below + 1) exponent with
  | true, true =>
    if 2 * i.centre * down < (2 * below + 1) * up * i.denominator then some below
    else some (below + 1)
  | true, false => some below
  | false, true => some (below + 1)
  | false, false => none

def decade (num den : Nat) : Int :=
  if den ≤ num then ((Nat.toDigits 10 (num / den)).length : Int) - 1
  else -((Nat.toDigits 10 ((den - 1) / num)).length : Int)

def expansion (significand : Nat) (exponent : Int) : Nat × Int :=
  if 0 ≤ exponent then (significand * Nat.pow 2 exponent.toNat, 0)
  else (significand * Nat.pow 5 exponent.natAbs, exponent)

/-- The shortest decimal `n * 10 ^ k` that reads back as `significand * 2 ^ exponent`. -/
def shortest (significand : Nat) (exponent : Int) : Nat × Int :=
  let interval := Interval.around significand exponent
  let top := decade interval.centre interval.denominator
  let grids := (List.range 17).map fun (further : Nat) => top - (further : Int)
  (grids.findSome? fun grid => (interval.nearest? grid).map fun n => (n, grid)).getD
    (expansion significand exponent)

end CircuitScript.Decimal
