import CircuitScript.Decimal.Literal
import CircuitScript.Proofs.Text.Numeral
/-!
Decimal numbers, said without the reader: digits with an optional point among them, an optional
power of ten, a sign in front. Toggling the sign of a literal negates it and changes nothing else.
-/
namespace CircuitScript.Decimal

/-- What may follow the digits of a number, and the power of ten it stands for. -/
inductive IsExponent : List Char → Int → Prop
  | none : IsExponent [] 0
  | unsigned {mark : Char} {digits : List Char} {n : Nat} (hm : mark = 'e' ∨ mark = 'E')
      (h : Text.IsDigits digits n) : IsExponent (mark :: digits) n
  | plus {mark : Char} {digits : List Char} {n : Nat} (hm : mark = 'e' ∨ mark = 'E')
      (h : Text.IsDigits digits n) : IsExponent (mark :: '+' :: digits) n
  | minus {mark : Char} {digits : List Char} {n : Nat} (hm : mark = 'e' ∨ mark = 'E')
      (h : Text.IsDigits digits n) : IsExponent (mark :: '-' :: digits) (-n)

inductive IsFraction : List Char → List Char → Prop
  | none : IsFraction [] []
  | point {digits : List Char} (h : ∀ c ∈ digits, c.isDigit = true) :
      IsFraction ('.' :: digits) digits

/-- Digits before the point, after it, or both. -/
inductive IsNumber : List Char → Magnitude → Prop
  | of {whole point fraction power : List Char} {exponent : Int}
      (hw : ∀ c ∈ whole, c.isDigit = true) (hf : IsFraction point fraction)
      (hne : whole ++ fraction ≠ []) (he : IsExponent power exponent) :
      IsNumber (whole ++ (point ++ power))
        (.finite (Nat.ofDigitChars 10 (whole ++ fraction) 0) (exponent - fraction.length))

theorem toLower_eq_e_iff {c : Char} : c.toLower = 'e' ↔ c = 'e' ∨ c = 'E' := by
  constructor
  · intro h
    unfold Char.toLower at h
    split at h
    · rename_i hc
      right
      rw [← Char.toNat_inj] at h ⊢
      simp only [Char.toNat] at h ⊢
      have hv : (c.val + 32).toNat = 101 := h
      have hle : c.val.toNat ≤ 90 := UInt32.le_iff_toNat_le.1 hc.2
      rw [UInt32.toNat_add] at hv
      change c.val.toNat = 69
      change (c.val.toNat + 32) % 4294967296 = 101 at hv
      omega
    · exact .inl h
  · rintro (rfl | rfl) <;> decide

theorem IsExponent.head_mem {power : List Char} {exponent : Int} (h : IsExponent power exponent) :
    ∀ c ∈ power.head?, c = 'e' ∨ c = 'E' := by
  cases h with
  | none => simp
  | unsigned hm | plus hm | minus hm => simpa using hm

theorem IsExponent.head_not_digit {power : List Char} {exponent : Int}
    (h : IsExponent power exponent) : ∀ c ∈ power.head?, c.isDigit = false := by
  intro c hc
  obtain rfl | rfl := h.head_mem c hc <;> decide

theorem readExponent?_eq_some_iff {power : List Char} {exponent : Int} :
    readExponent? power = some exponent ↔ IsExponent power exponent := by
  constructor
  · intro h
    unfold readExponent? at h
    split at h
    · cases h
      exact .none
    · split at h
      · rename_i mark rest hm
        have hmark := toLower_eq_e_iff.1 hm
        simp only [Option.map_eq_some_iff, Option.bind_eq_bind, Option.bind_eq_some_iff,
          Option.pure_def, Option.some.injEq] at h
        obtain ⟨_, ⟨n, hn, rfl⟩, rfl⟩ := h
        have hd := Text.natural?_eq_some_iff.1 hn
        unfold readSign at hd ⊢
        split at hd
        · exact .minus hmark hd
        · exact .plus hmark hd
        · exact .unsigned hmark hd
      · cases h
  · intro h
    cases h with
    | none => rfl
    | @unsigned mark digits n hm h =>
      have hsign : readSign digits = (false, digits) := by
        unfold readSign
        split
        · exact absurd (h.2.1 '-' List.mem_cons_self) (by decide)
        · exact absurd (h.2.1 '+' List.mem_cons_self) (by decide)
        · rfl
      simp [readExponent?, toLower_eq_e_iff.2 hm, hsign, Text.natural?_eq_some_iff.2 h]
    | plus hm h =>
      simp [readExponent?, toLower_eq_e_iff.2 hm, readSign, Text.natural?_eq_some_iff.2 h]
    | minus hm h =>
      simp [readExponent?, toLower_eq_e_iff.2 hm, readSign, Text.natural?_eq_some_iff.2 h]

theorem readFraction_append {point fraction power : List Char} {exponent : Int}
    (hf : IsFraction point fraction) (he : IsExponent power exponent) :
    readFraction (point ++ power) = (fraction, power) := by
  cases hf with
  | none =>
    unfold readFraction
    split
    · rename_i rest heq
      have hc := he.head_mem '.' (by rw [← List.nil_append power, heq]; rfl)
      exact absurd hc (by decide)
    · rfl
  | point h => exact Text.span_append h he.head_not_digit

theorem readFraction_eq {text fraction rest : List Char}
    (h : readFraction text = (fraction, rest)) :
    ∃ point, text = point ++ rest ∧ IsFraction point fraction := by
  unfold readFraction at h
  split at h
  · obtain ⟨rfl, hd, -⟩ := Text.span_eq_iff.1 h
    exact ⟨'.' :: fraction, rfl, .point hd⟩
  · cases h
    exact ⟨[], rfl, .none⟩

theorem IsFraction.head_not_digit {point fraction power : List Char} {exponent : Int}
    (hf : IsFraction point fraction) (he : IsExponent power exponent) :
    ∀ c ∈ (point ++ power).head?, c.isDigit = false := by
  cases hf with
  | none => exact he.head_not_digit
  | point h => simp

theorem readFinite?_eq_some_iff {text : List Char} {magnitude : Magnitude} :
    readFinite? text = some magnitude ↔ IsNumber text magnitude := by
  constructor
  · intro h
    obtain ⟨whole, afterWhole, hspan⟩ :
      ∃ whole rest, text.span Char.isDigit = (whole, rest) := ⟨_, _, rfl⟩
    obtain ⟨fraction, power, hfraction⟩ :
      ∃ fraction rest, readFraction afterWhole = (fraction, rest) := ⟨_, _, rfl⟩
    unfold readFinite? at h
    simp only [hspan, hfraction] at h
    obtain ⟨rfl, hw, -⟩ := Text.span_eq_iff.1 hspan
    obtain ⟨point, rfl, hf⟩ := readFraction_eq hfraction
    split at h
    · cases h
    · cases h
    · rename_i exponent he hne
      cases h
      exact .of hw hf hne (readExponent?_eq_some_iff.1 he)
  · intro h
    cases h with
    | @of whole point fraction power exponent hw hf hne he =>
      have hspan := Text.span_append hw (hf.head_not_digit he)
      have hfraction := readFraction_append hf he
      have hexponent := readExponent?_eq_some_iff.2 he
      unfold readFinite?
      simp only [hspan, hfraction, hexponent]

def isNumberChar (c : Char) : Bool := c.isDigit || ['.', 'e', 'E', '+', '-'].contains c

theorem isNumberChar_of_isDigit {c : Char} (h : c.isDigit = true) : isNumberChar c = true := by
  simp [isNumberChar, h]

theorem IsExponent.isNumberChar {power : List Char} {exponent : Int}
    (h : IsExponent power exponent) : ∀ c ∈ power, isNumberChar c = true := by
  have hmark : ∀ mark, mark = 'e' ∨ mark = 'E' → Decimal.isNumberChar mark = true := by
    rintro mark (rfl | rfl) <;> decide
  intro c hc
  cases h with
  | none => cases hc
  | unsigned hm hd =>
    obtain rfl | hc := List.mem_cons.1 hc
    · exact hmark c hm
    · exact isNumberChar_of_isDigit (hd.2.1 c hc)
  | plus hm hd | minus hm hd =>
    obtain rfl | hc := List.mem_cons.1 hc
    · exact hmark c hm
    · obtain rfl | hc := List.mem_cons.1 hc
      · decide
      · exact isNumberChar_of_isDigit (hd.2.1 c hc)

theorem IsFraction.isNumberChar {point fraction : List Char} (h : IsFraction point fraction) :
    ∀ c ∈ point, isNumberChar c = true := by
  intro c hc
  cases h with
  | none => cases hc
  | point hd =>
    obtain rfl | hc := List.mem_cons.1 hc
    · decide
    · exact isNumberChar_of_isDigit (hd c hc)

theorem IsNumber.isNumberChar {text : List Char} {magnitude : Magnitude}
    (h : IsNumber text magnitude) : ∀ c ∈ text, isNumberChar c = true := by
  intro c hc
  cases h with
  | of hw hf _ he =>
    rw [List.mem_append, List.mem_append] at hc
    obtain hc | hc | hc := hc
    · exact isNumberChar_of_isDigit (hw c hc)
    · exact hf.isNumberChar c hc
    · exact he.isNumberChar c hc

theorem IsNumber.head {text : List Char} {magnitude : Magnitude} (h : IsNumber text magnitude) :
    ∃ c ∈ text.head?, c.isDigit = true ∨ c = '.' := by
  cases h with
  | @of whole point fraction power exponent hw hf hne he =>
    cases whole with
    | cons c whole => exact ⟨c, rfl, .inl (hw c List.mem_cons_self)⟩
    | nil =>
      cases hf with
      | none => exact absurd rfl hne
      | point h => exact ⟨'.', rfl, .inr rfl⟩

theorem readMagnitude?_sign {c : Char} (hc : c = '-' ∨ c = '+') (rest : List Char) :
    readMagnitude? (c :: rest) = none := by
  have hnumber : readFinite? (c :: rest) = none := by
    rw [Option.eq_none_iff_forall_ne_some]
    intro magnitude h
    obtain ⟨d, hd, hhead⟩ := (readFinite?_eq_some_iff.1 h).head
    cases hd
    obtain rfl | rfl := hc <;> exact absurd hhead (by decide)
  unfold readMagnitude?
  obtain rfl | rfl := hc <;> simp [hnumber]

theorem isNumber_of_readMagnitude? {text : List Char} {magnitude : Magnitude}
    (h : readMagnitude? text = some magnitude) (hf : magnitude.isFinite = true) :
    IsNumber text magnitude := by
  simp only [readMagnitude?] at h
  split at h
  · cases h
    cases hf
  · split at h
    · cases h
      cases hf
    · exact readFinite?_eq_some_iff.1 h

theorem readLiteral?_eq (text : List Char) :
    readLiteral? text =
      (readMagnitude? (readSign text).2).map fun magnitude => ⟨(readSign text).1, magnitude⟩ :=
  rfl

theorem IsNumber.readLiteral?_eq_some {text : List Char} {magnitude : Magnitude}
    (h : IsNumber text magnitude) : readLiteral? text = some ⟨false, magnitude⟩ := by
  obtain ⟨c, hc, hhead⟩ := h.head
  obtain ⟨rest, rfl⟩ := List.head?_eq_some_iff.1 hc
  have hlower : c.toLower = c := by
    obtain hd | rfl := hhead
    · simp only [Char.isDigit, Bool.and_eq_true, decide_eq_true_eq] at hd
      have hle : c.val.toNat ≤ 57 := UInt32.le_iff_toNat_le.1 hd.2
      unfold Char.toLower
      rw [dif_neg]
      simp only [ge_iff_le, UInt32.le_iff_toNat_le]
      have : 'A'.val.toNat = 65 := rfl
      omega
    · rfl
  have hne (mark : Char) (hm : ¬(mark.isDigit = true ∨ mark = '.')) : c ≠ mark := by
    rintro rfl
    exact hm hhead
  have hsign : readSign (c :: rest) = (false, c :: rest) := by
    unfold readSign
    split
    · rename_i heq
      exact absurd (List.cons.inj heq).1 (hne '-' (by decide))
    · rename_i heq
      exact absurd (List.cons.inj heq).1 (hne '+' (by decide))
    · rfl
  have hi := hne 'i' (by decide)
  have hn := hne 'n' (by decide)
  simp [Decimal.readLiteral?_eq, hsign, readMagnitude?, hlower, hi, hn, readFinite?_eq_some_iff.2 h]

theorem isNumberChar_of_readLiteral? {text : List Char} {literal : Literal}
    (h : readLiteral? text = some literal) (hf : literal.isFinite = true) :
    ∀ c ∈ text, isNumberChar c = true := by
  rw [readLiteral?_eq] at h
  obtain ⟨magnitude, hm, rfl⟩ := Option.map_eq_some_iff.1 h
  have hnumber := (isNumber_of_readMagnitude? hm hf).isNumberChar
  intro c hc
  unfold readSign at hnumber
  split at hnumber
  · obtain rfl | hc := List.mem_cons.1 hc
    · decide
    · exact hnumber c hc
  · obtain rfl | hc := List.mem_cons.1 hc
    · decide
    · exact hnumber c hc
  · exact hnumber c hc

end CircuitScript.Decimal
