import CircuitScript.Text.Numeral
import Mathlib.Data.List.TakeDrop
import Mathlib.Data.List.TakeWhile
/-!
What a text of a number looks like, said without the reader: digits, one sign at most, a bound on
the value. Reading finds exactly these texts, and the written form is one of them.
-/
namespace CircuitScript.Text

theorem span_append {p : Char → Bool} {run rest : List Char} (hrun : ∀ c ∈ run, p c = true)
    (hrest : ∀ c ∈ rest.head?, p c = false) : (run ++ rest).span p = (run, rest) := by
  have htake : rest.takeWhile p = [] ∧ rest.dropWhile p = rest := by
    cases rest with
    | nil => simp
    | cons c rest => simp [hrest c rfl]
  rw [List.span_eq_takeWhile_dropWhile, List.takeWhile_append_of_pos hrun,
    List.dropWhile_append_of_pos hrun, htake.1, htake.2, List.append_nil]

theorem span_eq_iff {p : Char → Bool} {text run rest : List Char} :
    text.span p = (run, rest) ↔
      text = run ++ rest ∧ (∀ c ∈ run, p c = true) ∧ ∀ c ∈ rest.head?, p c = false := by
  constructor
  · intro h
    rw [List.span_eq_takeWhile_dropWhile, Prod.mk.injEq] at h
    obtain ⟨rfl, rfl⟩ := h
    refine ⟨List.takeWhile_append_dropWhile.symm, fun c hc => List.mem_takeWhile_imp hc, ?_⟩
    intro c hc
    have hd := List.head?_dropWhile_not p text
    simpa [Option.mem_def.1 hc] using hd
  · rintro ⟨rfl, hrun, hrest⟩
    exact span_append hrun hrest

def IsDigits (text : List Char) (n : Nat) : Prop :=
  text ≠ [] ∧ (∀ c ∈ text, c.isDigit = true) ∧ Nat.ofDigitChars 10 text 0 = n

/-- Digits whose value is below the bound, with a plus sign in front or without. -/
def IsNumeral (bound : Nat) (text : List Char) (n : Nat) : Prop :=
  ∃ digits, (text = digits ∨ text = '+' :: digits) ∧ IsDigits digits n ∧ n < bound

theorem natural?_eq_some_iff {text : List Char} {n : Nat} :
    natural? text = some n ↔ IsDigits text n := by
  unfold natural? IsDigits
  rw [Option.ite_none_right_eq_some]
  simp [and_assoc]

theorem isDigits_toDigits (n : Nat) : IsDigits (Nat.toDigits 10 n) n :=
  natural?_eq_some_iff.1 (natural?_toDigits n)

theorem IsNumeral.lt {bound n : Nat} {text : List Char} (h : IsNumeral bound text n) :
    n < bound := by
  obtain ⟨_, _, _, hlt⟩ := h
  exact hlt

theorem IsDigits.plus_not_mem {text : List Char} {n : Nat} (h : IsDigits text n) :
    '+' ∉ text := by
  intro hp
  exact absurd (h.2.1 _ hp) (by decide)

theorem unsigned?_eq_some_iff {bound n : Nat} {text : List Char} :
    unsigned? bound text = some n ↔ IsNumeral bound text n := by
  unfold unsigned? IsNumeral
  rw [Option.filter_eq_some_iff, natural?_eq_some_iff, decide_eq_true_iff]
  constructor
  · rintro ⟨hd, hn⟩
    split at hd
    · rename_i hp
      obtain ⟨digits, rfl⟩ := List.head?_eq_some_iff.1 hp
      exact ⟨digits, .inr rfl, hd, hn⟩
    · exact ⟨text, .inl rfl, hd, hn⟩
  · rintro ⟨digits, rfl | rfl, hd, hn⟩
    · have hp : text.head? ≠ some '+' := fun h =>
        hd.plus_not_mem (List.mem_of_head? h)
      rw [if_neg hp]
      exact ⟨hd, hn⟩
    · exact ⟨hd, hn⟩

theorem map_unsigned?_eq_some_iff {W : Type} {size : Nat} {ofNat : Nat → W} {toNat : W → Nat}
    (toNat_ofNat : ∀ m < size, toNat (ofNat m) = m) (ofNat_toNat : ∀ w, ofNat (toNat w) = w)
    {text : List Char} {w : W} :
    (unsigned? size text).map ofNat = some w ↔ IsNumeral size text (toNat w) := by
  rw [Option.map_eq_some_iff]
  constructor
  · rintro ⟨m, hm, rfl⟩
    have h := unsigned?_eq_some_iff.1 hm
    rwa [toNat_ofNat m h.lt]
  · intro h
    exact ⟨toNat w, unsigned?_eq_some_iff.2 h, ofNat_toNat w⟩

theorem word64?_eq_some_iff {text : List Char} {n : UInt64} :
    word64? text = some n ↔ IsNumeral UInt64.size text n.toNat :=
  map_unsigned?_eq_some_iff (fun _ h => UInt64.toNat_ofNat_of_lt' h)
    (fun _ => UInt64.ofNat_toNat)

theorem word32?_eq_some_iff {text : List Char} {n : UInt32} :
    word32? text = some n ↔ IsNumeral UInt32.size text n.toNat :=
  map_unsigned?_eq_some_iff (fun _ h => UInt32.toNat_ofNat_of_lt' h)
    (fun _ => UInt32.ofNat_toNat)

theorem word8?_eq_some_iff {text : List Char} {n : UInt8} :
    word8? text = some n ↔ IsNumeral UInt8.size text n.toNat :=
  map_unsigned?_eq_some_iff (fun _ h => UInt8.toNat_ofNat_of_lt' h)
    (fun _ => UInt8.ofNat_toNat)

@[simp] theorem toList_decimal (n : Nat) : (decimal n).toList = Nat.toDigits 10 n := by
  simp [decimal]

theorem isDigits_decimal (n : Nat) : IsDigits (decimal n).toList n := by
  rw [toList_decimal]
  exact isDigits_toDigits n

theorem isNumeral_decimal {bound n : Nat} (h : n < bound) :
    IsNumeral bound (decimal n).toList n :=
  ⟨_, .inl rfl, isDigits_decimal n, h⟩

theorem isDigit_of_mem_decimal {n : Nat} {c : Char} (h : c ∈ (decimal n).toList) :
    c.isDigit = true :=
  (isDigits_decimal n).2.1 c h

end CircuitScript.Text
