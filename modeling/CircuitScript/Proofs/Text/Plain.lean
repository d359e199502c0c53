import CircuitScript.Proofs.Text.Numeral
/-!
The plain spelling of a numeral, found without its value: no plus sign and no zeros in front. It is
the written form of the value.
-/
namespace CircuitScript.Text

def plainDigits (digits : List Char) : List Char :=
  let rest := digits.dropWhile (· = '0')
  if rest.isEmpty then ['0'] else rest

def plainNumeral (text : List Char) : List Char :=
  plainDigits (if text.head? = some '+' then text.tail else text)

theorem toNat_of_isDigit {c : Char} (h : c.isDigit = true) :
    ∃ d < 10, c.toNat - '0'.toNat = d ∧ Nat.digitChar d = c := by
  obtain ⟨hlower, hupper⟩ := Char.isDigit_iff_toNat.1 h
  change 48 ≤ c.toNat at hlower
  change c.toNat ≤ 57 at hupper
  refine ⟨c.toNat - 48, by omega, rfl, ?_⟩
  apply Char.toNat_inj.1
  rw [Nat.toNat_digitChar_of_lt_ten (by omega)]
  omega

theorem toDigits_ofDigitChars {digits : List Char} {n : Nat}
    (h : ∀ c ∈ digits, c.isDigit = true) (hn : 0 < n) :
    Nat.toDigits 10 (Nat.ofDigitChars 10 digits n) = Nat.toDigits 10 n ++ digits := by
  induction digits generalizing n with
  | nil => simp
  | cons c digits ih =>
    obtain ⟨d, hlt, hd, hchar⟩ := toNat_of_isDigit (h c List.mem_cons_self)
    have htail := fun x hx => h x (List.mem_cons_of_mem c hx)
    have hsnoc := Nat.toDigits_append_toDigits (b := 10) (by decide) hn hlt
    rw [Nat.toDigits_of_lt_base hlt, hchar] at hsnoc
    rw [Nat.ofDigitChars_cons, hd, ih htail (by omega), ← hsnoc, List.append_assoc,
      List.singleton_append]

theorem plainDigits_zero_cons (digits : List Char) :
    plainDigits ('0' :: digits) = plainDigits digits := by
  simp [plainDigits]

theorem plainDigits_cons {c : Char} (h : c ≠ '0') (digits : List Char) :
    plainDigits (c :: digits) = c :: digits := by
  simp [plainDigits, h]

theorem plainDigits_eq {digits : List Char} {n : Nat} (h : IsDigits digits n) :
    plainDigits digits = Nat.toDigits 10 n := by
  obtain ⟨-, hdigit, rfl⟩ := h
  induction digits with
  | nil => rfl
  | cons c digits ih =>
    have htail := fun x hx => hdigit x (List.mem_cons_of_mem c hx)
    by_cases hc : c = '0'
    · rw [hc, plainDigits_zero_cons, ih htail]
      rfl
    · obtain ⟨d, hlt, hd, rfl⟩ := toNat_of_isDigit (hdigit c List.mem_cons_self)
      have hpos : 0 < d := by
        rw [Nat.pos_iff_ne_zero]
        rintro rfl
        exact hc rfl
      rw [plainDigits_cons hc, Nat.ofDigitChars_cons, hd, Nat.mul_zero, Nat.zero_add,
        toDigits_ofDigitChars htail hpos, Nat.toDigits_of_lt_base hlt, List.singleton_append]

theorem plainNumeral_eq {bound n : Nat} {text : List Char} (h : IsNumeral bound text n) :
    plainNumeral text = Nat.toDigits 10 n := by
  obtain ⟨digits, rfl | rfl, hdigits, -⟩ := h
  · have hplus : text.head? ≠ some '+' := fun hp => hdigits.plus_not_mem (List.mem_of_head? hp)
    rw [plainNumeral, if_neg hplus, plainDigits_eq hdigits]
  · exact plainDigits_eq hdigits

end CircuitScript.Text
