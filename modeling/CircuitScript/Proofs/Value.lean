import CircuitScript.Proofs.Angle
import Mathlib.Data.Rat.Cast.Defs
/-!
What the texts of angles stand for: a literal for its exact decimal value, a placeholder for a value
that is chosen for its variables, function and factor. Negating the text negates the value.
-/
namespace CircuitScript

namespace Decimal

/-- The words for infinity and for no number stand in no angle; their value says nothing. -/
def Magnitude.value : Magnitude → ℚ
  | .finite digits exponent => digits * 10 ^ exponent
  | .infinite | .notANumber => 0

def Literal.value (literal : Literal) : ℚ :=
  if literal.negative then -literal.magnitude.value else literal.magnitude.value

theorem Literal.value_not_negative (literal : Literal) :
    Literal.value { literal with negative := !literal.negative } = -literal.value := by
  unfold Literal.value
  cases literal.negative <;> simp

end Decimal

/-- A choice of values for placeholders, apart from the minus in front. -/
abbrev SymbolValues (K : Type*) := List UInt32 → Option String → Option Decimal.Literal → K

section

variable {K : Type*} [DivisionRing K]

def Placeholder.value (symbols : SymbolValues K) (p : Placeholder) : K :=
  let magnitude := symbols p.variableNumbers p.function p.factor
  if p.negated then -magnitude else magnitude

theorem Placeholder.value_not_negated (symbols : SymbolValues K) (p : Placeholder) :
    Placeholder.value symbols { p with negated := !p.negated } = -p.value symbols := by
  unfold Placeholder.value
  cases p.negated <;> simp

namespace Angle

def value (symbols : SymbolValues K) : Angle → K
  | .literal text =>
    ((Decimal.readLiteral? text.toList).map fun literal => (literal.value : K)).getD 0
  | .placeholder token => ((Placeholder.read? token).map (Placeholder.value symbols)).getD 0

theorem value_literal {symbols : SymbolValues K} {text : String} {literal : Decimal.Literal}
    (h : Decimal.readLiteral? text.toList = some literal) :
    (Angle.literal text).value symbols = literal.value := by
  rw [value, h]
  rfl

theorem value_placeholder {symbols : SymbolValues K} {token : String} {p : Placeholder}
    (h : Placeholder.IsToken token.toList p) :
    (Angle.placeholder token).value symbols = p.value symbols := by
  rw [value, Placeholder.read?, Placeholder.readChars?_eq_some_iff.2 h]
  rfl

theorem value_negated (symbols : SymbolValues K) {angle : Angle} (h : angle.ReadsBack .hash) :
    angle.negated.value symbols = -angle.value symbols := by
  cases angle with
  | literal text =>
    have hfinite : isFiniteNumber text = true := by
      cases h
      assumption
    obtain ⟨literal, hread, -⟩ := isFiniteNumber_iff.1 hfinite
    have htoggled := readLiteral?_toggleMinus hread
    rw [← String.toList_ofList (l := toggleMinus text.toList)] at htoggled
    rw [value_literal hread]
    refine (value_literal htoggled).trans ?_
    rw [Decimal.Literal.value_not_negative, Rat.cast_neg]
  | placeholder token =>
    have hlegal : PlaceholderGrammar.hash.isLegal token = true := by
      cases h
      assumption
    obtain ⟨p, hp⟩ := isLegal_hash_iff.1 hlegal
    have htoggled := isToken_toggleMinus hp
    rw [← String.toList_ofList (l := toggleMinus token.toList)] at htoggled
    rw [value_placeholder hp]
    refine (value_placeholder htoggled).trans ?_
    exact Placeholder.value_not_negated symbols p

end Angle

end

end CircuitScript
