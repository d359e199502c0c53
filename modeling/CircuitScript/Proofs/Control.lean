import CircuitScript.Proofs.Text.Numeral
import CircuitScript.Token
import Mathlib.Data.List.Basic
/-!
Control tokens, said without the reader: a run of digits for the qubit, then a mark for the
condition. Every token has one control, and the text of a control is one of its tokens.
-/
namespace CircuitScript

inductive Condition.IsMark : List Char → Condition → Prop
  | isOne : IsMark ['T'] .isOne
  | isZero : IsMark ['F'] .isZero
  | multiplexed {digits : List Char} {position : UInt32}
      (h : Text.IsNumeral UInt32.size digits position.toNat) :
      IsMark ('(' :: digits ++ [')']) (.multiplexed position)

namespace Control

/-- A sign is no part of the qubit, which has to fit its word. -/
def IsToken (token : String) (control : Control) : Prop :=
  ∃ digits mark, token.toList = digits ++ mark ∧ Text.IsDigits digits control.qubit.toNat ∧
    control.condition.IsMark mark

theorem readCondition?_eq_some_iff {mark : List Char} {condition : Condition} :
    readCondition? mark = some condition ↔ condition.IsMark mark := by
  constructor
  · intro h
    unfold readCondition? at h
    split at h
    · cases h
      exact .isOne
    · cases h
      exact .isZero
    · rename_i rest
      split at h
      · rename_i hlast
        obtain ⟨position, hp, rfl⟩ := Option.map_eq_some_iff.1 h
        have hrest : rest = rest.dropLast ++ [')'] :=
          (List.dropLast_append_getLast? _ hlast).symm
        rw [hrest]
        exact .multiplexed (Text.word32?_eq_some_iff.1 hp)
      · cases h
    · cases h
  · intro h
    cases h with
    | isOne => rfl
    | isZero => rfl
    | multiplexed h => simp [readCondition?, Text.word32?_eq_some_iff.2 h]

end Control

theorem Condition.IsMark.head_not_digit {condition : Condition} {mark : List Char}
    (h : condition.IsMark mark) : ∀ c ∈ mark.head?, c.isDigit = false := by
  cases h <;> simp

namespace Control

theorem readChars?_eq_some_iff {text : List Char} {control : Control} :
    readChars? text = some control ↔
      ∃ digits mark, text = digits ++ mark ∧ Text.IsDigits digits control.qubit.toNat ∧
        control.condition.IsMark mark := by
  obtain ⟨digits, mark, hspan⟩ : ∃ digits mark, text.span Char.isDigit = (digits, mark) :=
    ⟨_, _, rfl⟩
  obtain ⟨htext, hdigits, hmark⟩ := Text.span_eq_iff.1 hspan
  unfold readChars?
  simp only [hspan, Option.bind_eq_bind, Option.bind_eq_some_iff, Option.pure_def,
    Option.some.injEq]
  constructor
  · rintro ⟨qubit, hq, condition, hc, rfl⟩
    refine ⟨digits, mark, htext, ?_, readCondition?_eq_some_iff.1 hc⟩
    obtain ⟨run, rfl | rfl, hrun, -⟩ := Text.word64?_eq_some_iff.1 hq
    · exact hrun
    · exact absurd (hdigits '+' List.mem_cons_self) (by decide)
  · rintro ⟨run, rest, hsplit, hrun, hrest⟩
    have h := Text.span_append hrun.2.1 hrest.head_not_digit
    rw [← hsplit, hspan] at h
    cases h
    refine ⟨control.qubit, ?_, control.condition, readCondition?_eq_some_iff.2 hrest, rfl⟩
    exact Text.word64?_eq_some_iff.2 ⟨digits, .inl rfl, hrun, control.qubit.toNat_lt⟩

theorem read?_eq_some_iff {token : String} {control : Control} :
    read? token = some control ↔ IsToken token control :=
  readChars?_eq_some_iff

theorem ofToken_eq_ok_iff {token : String} {control : Control} :
    ofToken token = .ok control ↔ IsToken token control := by
  rw [← read?_eq_some_iff]
  unfold ofToken
  split <;> simp_all

theorem IsToken.unique {token : String} {a b : Control} (ha : IsToken token a)
    (hb : IsToken token b) : a = b :=
  Option.some.inj ((read?_eq_some_iff.2 ha).symm.trans (read?_eq_some_iff.2 hb))

theorem isToken_text (control : Control) : IsToken control.text control := by
  obtain ⟨qubit, condition⟩ := control
  refine ⟨(Text.decimal qubit.toNat).toList, ?_⟩
  cases condition with
  | isOne => exact ⟨['T'], by simp [text], Text.isDigits_decimal _, .isOne⟩
  | isZero => exact ⟨['F'], by simp [text], Text.isDigits_decimal _, .isZero⟩
  | multiplexed position =>
    refine ⟨'(' :: (Text.decimal position.toNat).toList ++ [')'], by simp [text],
      Text.isDigits_decimal _, .multiplexed ?_⟩
    exact Text.isNumeral_decimal position.toNat_lt

/-- A control starts with its qubit, so no keyword is one. -/
theorem IsToken.head_isDigit {token : String} {control : Control} (h : IsToken token control) :
    ∃ c rest, token.toList = c :: rest ∧ c.isDigit = true := by
  obtain ⟨digits, mark, ht, ⟨hne, hd, -⟩, -⟩ := h
  obtain ⟨c, digits, rfl⟩ := List.exists_cons_of_ne_nil hne
  exact ⟨c, digits ++ mark, ht, hd c List.mem_cons_self⟩

end Control

end CircuitScript
