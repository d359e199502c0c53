/-!
Whole numbers in decimal. Reading takes ASCII digits only and leading zeros are allowed; writing
gives the digits without leading zeros, so a number has one written form and many read ones.
-/
namespace CircuitScript.Text

def natural? (text : List Char) : Option Nat :=
  if !text.isEmpty && text.all Char.isDigit then some (Nat.ofDigitChars 10 text 0) else none

/-- A natural number below the bound; one plus sign may stand in front. -/
def unsigned? (bound : Nat) (text : List Char) : Option Nat :=
  (natural? (if text.head? = some '+' then text.tail else text)).filter (· < bound)

def signed64Bound : Nat := UInt64.size / 2

def signed64? : List Char → Option Int
  | '-' :: digits => ((natural? digits).filter (· ≤ signed64Bound)).map fun n => -(n : Int)
  | text => (unsigned? signed64Bound text).map Int.ofNat

def word64? (text : List Char) : Option UInt64 :=
  (unsigned? UInt64.size text).map UInt64.ofNat

def word32? (text : List Char) : Option UInt32 :=
  (unsigned? UInt32.size text).map UInt32.ofNat

def word8? (text : List Char) : Option UInt8 :=
  (unsigned? UInt8.size text).map UInt8.ofNat

def decimal (n : Nat) : String := String.ofList (Nat.toDigits 10 n)

def decimalInt : Int → String
  | .ofNat n => decimal n
  | .negSucc n => "-" ++ decimal (n + 1)

theorem natural?_toDigits (n : Nat) : natural? (Nat.toDigits 10 n) = some n := by
  have hd : (Nat.toDigits 10 n).all Char.isDigit = true :=
    List.all_eq_true.2 fun c hc => Nat.isDigit_of_mem_toDigits (by decide) (by decide) hc
  simp [natural?, hd, Nat.toDigits_ne_nil]

end CircuitScript.Text
