import CircuitScript.Angle
import CircuitScript.Proofs.Text.Numeral
/-!
The characters of written doubles: without a power of ten, a double is digits with a point and a
minus, or one of the words for infinity and for no number.
-/
namespace CircuitScript.Decimal

def isFormatChar (c : Char) : Bool := c.isAlphanum || c = '.' || c = '-'

theorem isFormatChar_of_isDigit {c : Char} (h : c.isDigit = true) : isFormatChar c = true := by
  simp [isFormatChar, Char.isAlphanum, h]

theorem isDigit_of_mem_digits {n : Nat} {exponent : Int} {c : Char}
    (h : c ∈ (Digits.of n exponent).digits) : c.isDigit = true := by
  have hmem : c ∈ ((Nat.toDigits 10 n).reverse.dropWhile (· = '0')).reverse := h
  have hsub := List.dropWhile_subset _ (List.mem_reverse.1 hmem)
  exact (Text.isDigits_toDigits n).2.1 c (List.mem_reverse.1 hsub)

theorem isDigit_of_mem_replicate {n : Nat} {c : Char} (h : c ∈ List.replicate n '0') :
    c.isDigit = true := by
  rw [List.eq_of_mem_replicate h]
  decide

theorem isFormatChar_positional {d : Digits} (hd : ∀ c ∈ d.digits, c.isDigit = true) :
    ∀ c ∈ (d.positional "").toList, isFormatChar c = true := by
  intro c hc
  unfold Digits.positional at hc
  dsimp only at hc
  split at hc
  · simp only [String.toList_append, String.toList_ofList, List.mem_append] at hc
    obtain hc | hc | hc := hc
    · exact List.all_eq_true.1 (by decide) c hc
    · exact isFormatChar_of_isDigit (isDigit_of_mem_replicate hc)
    · exact isFormatChar_of_isDigit (hd c hc)
  · split at hc
    · simp only [String.toList_append, String.toList_ofList, List.mem_append] at hc
      obtain (hc | hc) | hc := hc
      · exact isFormatChar_of_isDigit (hd c hc)
      · exact isFormatChar_of_isDigit (isDigit_of_mem_replicate hc)
      · simp at hc
    · simp only [String.toList_append, String.toList_ofList, List.mem_append] at hc
      obtain (hc | hc) | hc := hc
      · exact isFormatChar_of_isDigit (hd c (List.mem_of_mem_take hc))
      · exact List.all_eq_true.1 (by decide) c hc
      · exact isFormatChar_of_isDigit (hd c (List.mem_of_mem_drop hc))

theorem isFormatChar_magnitude (significand : Nat) (exponent : Int) :
    ∀ c ∈ (Layout.plain.magnitude significand exponent).toList, isFormatChar c = true := by
  unfold Layout.magnitude
  split
  · exact List.all_eq_true.1 (by decide)
  · exact isFormatChar_positional fun c hc => isDigit_of_mem_digits hc

theorem isFormatChar_text (x : Float) :
    ∀ c ∈ (Layout.plain.text x).toList, isFormatChar c = true := by
  unfold Layout.text
  split
  · rename_i negative significand exponent _
    intro c hc
    rw [String.toList_append, List.mem_append] at hc
    obtain hc | hc := hc
    · cases negative with
      | true => exact List.all_eq_true.1 (by decide) c hc
      | false => simp at hc
    · exact isFormatChar_magnitude significand exponent c hc
  · split
    · exact List.all_eq_true.1 (by decide)
    · exact List.all_eq_true.1 (by decide)
  · exact List.all_eq_true.1 (by decide)

end CircuitScript.Decimal

namespace CircuitScript.Angle

theorem ofRadians_eq (radians : Float) : ∃ x : Float,
    ofRadians radians = .literal (Decimal.Layout.plain.text x) :=
  ⟨_, rfl⟩

end CircuitScript.Angle
