import CircuitScript.Placeholder
import CircuitScript.Proofs.Decimal
import CircuitScript.Proofs.Stateful
/-!
Tokens of the hash grammar, said without the reader. A token is an optional minus and a body; the
body never starts with a sign, so a minus can be put in front or taken away.
-/
namespace CircuitScript.Placeholder

inductive IsFactor : List Char → Decimal.Literal → Prop
  | plain {text : List Char} {magnitude : Decimal.Magnitude}
      (h : Decimal.IsNumber text magnitude) : IsFactor text ⟨false, magnitude⟩
  | minus {text : List Char} {magnitude : Decimal.Magnitude}
      (h : Decimal.IsNumber text magnitude) : IsFactor ('-' :: text) ⟨true, magnitude⟩

def IsVariable (digits : List Char) (number : UInt32) : Prop :=
  Text.IsDigits digits number.toNat

/-- What stands behind the minus, if there is one. -/
inductive IsBody (negated : Bool) : List Char → Placeholder → Prop
  | plain {digits : List Char} {number : UInt32} (h : IsVariable digits number) :
      IsBody negated ('#' :: digits) ⟨negated, [number], none, none⟩
  | scaled {digits factor : List Char} {number : UInt32} {literal : Decimal.Literal}
      (h : IsVariable digits number) (hf : IsFactor factor literal) :
      IsBody negated ('#' :: (digits ++ '*' :: factor)) ⟨negated, [number], none, some literal⟩
  | functional {first : Char} {name : List Char} {runs : List (List Char)}
      {numbers : List UInt32} (hstart : isNameStart first = true)
      (hname : ∀ c ∈ name, isNameChar c = true) (hne : runs ≠ [])
      (h : List.Forall₂ IsVariable runs numbers) :
      IsBody negated (first :: name ++ runs.flatMap ('#' :: ·))
        ⟨negated, numbers, some (String.ofList (first :: name)), none⟩

inductive IsToken : List Char → Placeholder → Prop
  | plain {text : List Char} {p : Placeholder} (h : IsBody false text p) : IsToken text p
  | minus {text : List Char} {p : Placeholder} (h : IsBody true text p) : IsToken ('-' :: text) p

theorem isNameChar_of_isNameStart {c : Char} (h : isNameStart c = true) :
    isNameChar c = true := by
  simp only [isNameStart, isNameChar, Char.isAlphanum, Bool.or_eq_true] at h ⊢
  obtain h | h := h
  · exact .inl (.inl h)
  · exact .inr h

theorem IsBody.head {negated : Bool} {text : List Char} {p : Placeholder}
    (h : IsBody negated text p) :
    ∃ c rest, text = c :: rest ∧ (c = '#' ∨ isNameStart c = true) := by
  cases h with
  | plain h => exact ⟨_, _, rfl, .inl rfl⟩
  | scaled h hf => exact ⟨_, _, rfl, .inl rfl⟩
  | functional hstart => exact ⟨_, _, rfl, .inr hstart⟩

theorem IsBody.negated_eq {negated : Bool} {text : List Char} {p : Placeholder}
    (h : IsBody negated text p) : p.negated = negated := by
  cases h <;> rfl

theorem IsBody.renegate {negated : Bool} {text : List Char} {p : Placeholder}
    (h : IsBody negated text p) (other : Bool) :
    IsBody other text { p with negated := other } := by
  cases h with
  | plain h => exact .plain h
  | scaled h hf => exact .scaled h hf
  | functional hstart hname hne hr => exact .functional hstart hname hne hr

theorem IsBody.hash_mem {negated : Bool} {text : List Char} {p : Placeholder}
    (h : IsBody negated text p) : '#' ∈ text := by
  cases h with
  | plain h => exact List.mem_cons_self
  | scaled h hf => exact List.mem_cons_self
  | functional hstart hname hne hr =>
    obtain ⟨run, others, rfl⟩ := List.exists_cons_of_ne_nil hne
    exact List.mem_append_right _ List.mem_cons_self

theorem IsFactor.exists_reading {text : List Char} {literal : Decimal.Literal}
    (h : IsFactor text literal) :
    ∃ number reading, Decimal.readLiteral? number = some reading ∧
      (text = number ∧ literal = reading ∨
        text = '-' :: number ∧ literal.toFloat = -reading.toFloat) := by
  cases h with
  | plain h => exact ⟨text, _, h.readLiteral?_eq_some, .inl ⟨rfl, rfl⟩⟩
  | @minus number _ h => exact ⟨number, _, h.readLiteral?_eq_some, .inr ⟨rfl, rfl⟩⟩

theorem IsBody.exists_factor {negated : Bool} {text : List Char} {p : Placeholder}
    {literal : Decimal.Literal} (h : IsBody negated text p) (hp : p.factor = some literal) :
    ∃ front factor, text = front ++ '*' :: factor ∧ IsFactor factor literal := by
  cases h with
  | @scaled digits factor number _ h hf =>
    cases hp
    exact ⟨'#' :: digits, factor, rfl, hf⟩
  | plain | functional => cases hp

theorem IsToken.exists_factor {text : List Char} {p : Placeholder} {literal : Decimal.Literal}
    (h : IsToken text p) (hp : p.factor = some literal) :
    ∃ front factor, text = front ++ '*' :: factor ∧ IsFactor factor literal := by
  cases h with
  | plain h => exact h.exists_factor hp
  | minus h =>
    obtain ⟨front, factor, rfl, hf⟩ := h.exists_factor hp
    exact ⟨'-' :: front, factor, rfl, hf⟩

def isTokenChar (c : Char) : Bool :=
  isNameChar c || Decimal.isNumberChar c || ['#', '*'].contains c

theorem isTokenChar_of_isNumberChar {c : Char} (h : Decimal.isNumberChar c = true) :
    isTokenChar c = true := by
  simp [isTokenChar, h]

theorem isTokenChar_of_isNameChar {c : Char} (h : isNameChar c = true) :
    isTokenChar c = true := by
  simp [isTokenChar, h]

theorem IsVariable.isTokenChar {digits : List Char} {number : UInt32}
    (h : IsVariable digits number) : ∀ c ∈ digits, isTokenChar c = true := fun c hc =>
  isTokenChar_of_isNumberChar (Decimal.isNumberChar_of_isDigit (h.2.1 c hc))

theorem IsFactor.isTokenChar {text : List Char} {literal : Decimal.Literal}
    (h : IsFactor text literal) : ∀ c ∈ text, isTokenChar c = true := by
  intro c hc
  cases h with
  | plain h => exact isTokenChar_of_isNumberChar (h.isNumberChar c hc)
  | minus h =>
    obtain rfl | hc := List.mem_cons.1 hc
    · decide
    · exact isTokenChar_of_isNumberChar (h.isNumberChar c hc)

theorem IsBody.isTokenChar {negated : Bool} {text : List Char} {p : Placeholder}
    (h : IsBody negated text p) : ∀ c ∈ text, isTokenChar c = true := by
  intro c hc
  cases h with
  | plain h =>
    obtain rfl | hc := List.mem_cons.1 hc
    · decide
    · exact h.isTokenChar c hc
  | scaled h hf =>
    simp only [List.mem_cons, List.mem_append] at hc
    obtain rfl | hc | rfl | hc := hc
    · decide
    · exact h.isTokenChar c hc
    · decide
    · exact hf.isTokenChar c hc
  | functional hstart hname hne hr =>
    simp only [List.cons_append, List.mem_cons, List.mem_append, List.mem_flatMap] at hc
    obtain rfl | hc | ⟨run, hrun, rfl | hc⟩ := hc
    · exact isTokenChar_of_isNameChar (isNameChar_of_isNameStart hstart)
    · exact isTokenChar_of_isNameChar (hname c hc)
    · decide
    · exact Stateful.forall_mem_left hr (fun _ _ hv => hv.isTokenChar) run hrun c hc

theorem IsToken.isTokenChar {text : List Char} {p : Placeholder} (h : IsToken text p) :
    ∀ c ∈ text, isTokenChar c = true := by
  intro c hc
  cases h with
  | plain h => exact h.isTokenChar c hc
  | minus h =>
    obtain rfl | hc := List.mem_cons.1 hc
    · decide
    · exact h.isTokenChar c hc

theorem IsToken.hash_mem {text : List Char} {p : Placeholder} (h : IsToken text p) :
    '#' ∈ text := by
  cases h with
  | plain h => exact h.hash_mem
  | minus h => exact List.mem_cons_of_mem _ h.hash_mem

end CircuitScript.Placeholder
