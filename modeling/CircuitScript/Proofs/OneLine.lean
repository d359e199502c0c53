import CircuitScript.Proofs.Conjugate
import CircuitScript.Proofs.ReadBack
import CircuitScript.Proofs.Spelling
import CircuitScript.Proofs.Text.Significant
/-!
Instructions whose text is kept by a file. White space stands in the texts that a line keeps and
nowhere else, so neither the spelling of a line nor a change of its angles matters.
-/
namespace CircuitScript

namespace Text

def isGraphic (c : Char) : Bool := 33 ≤ c.toNat && c.toNat ≤ 126

theorem isWhiteSpace_of_isGraphic {c : Char} (h : isGraphic c = true) :
    isWhiteSpace c = false := by
  simp only [isGraphic, Bool.and_eq_true, decide_eq_true_eq] at h
  simp [isWhiteSpace, whiteSpaceRuns]
  omega

theorem isGraphic_of_isAlphanum {c : Char} (h : c.isAlphanum = true) : isGraphic c = true := by
  change (decide (c.val ≥ 65 ∧ c.val ≤ 90) || c.val ≥ 97 && c.val ≤ 122 ||
    c.val ≥ 48 && c.val ≤ 57) = true at h
  simp only [Bool.or_eq_true, Bool.and_eq_true, decide_eq_true_eq, ge_iff_le,
    UInt32.le_iff_toNat_le] at h
  change (65 ≤ c.toNat ∧ c.toNat ≤ 90 ∨ 97 ≤ c.toNat ∧ c.toNat ≤ 122) ∨
    48 ≤ c.toNat ∧ c.toNat ≤ 57 at h
  simp only [isGraphic, Bool.and_eq_true, decide_eq_true_eq]
  omega

theorem isGraphic_of_isTokenChar {c : Char} (h : Placeholder.isTokenChar c = true) :
    isGraphic c = true := by
  by_cases halnum : c.isAlphanum = true
  · exact isGraphic_of_isAlphanum halnum
  have hdigit : c.isDigit = false := by
    simp only [Char.isAlphanum, Bool.or_eq_true, not_or, Bool.not_eq_true] at halnum
    exact halnum.2
  have hmark : c ∈ ['_', '.', 'e', 'E', '+', '-', '#', '*'] := by
    simpa [Placeholder.isTokenChar, Placeholder.isNameChar, Decimal.isNumberChar, halnum, hdigit,
      or_assoc] using h
  exact List.all_eq_true.1 (by decide : _ = true) c hmark

theorem isWord_of_isGraphic {text : List Char} (hne : text ≠ [])
    (h : ∀ c ∈ text, isGraphic c = true) : IsWord text :=
  ⟨hne, fun c hc => isWhiteSpace_of_isGraphic (h c hc)⟩

theorem IsDigits.isGraphic {digits : List Char} {n : Nat} (h : IsDigits digits n) :
    ∀ c ∈ digits, isGraphic c = true := by
  intro c hc
  apply isGraphic_of_isAlphanum
  simp [Char.isAlphanum, h.2.1 c hc]

theorem IsNumeral.isGraphic {bound n : Nat} {text : List Char} (h : IsNumeral bound text n) :
    ∀ c ∈ text, isGraphic c = true := by
  obtain ⟨digits, rfl | rfl, hdigits, -⟩ := h
  · exact hdigits.isGraphic
  · intro c hc
    obtain rfl | hc := List.mem_cons.1 hc
    · decide
    · exact hdigits.isGraphic c hc

theorem IsNumeral.isWord {bound n : Nat} {text : List Char} (h : IsNumeral bound text n) :
    IsWord text := by
  refine isWord_of_isGraphic ?_ h.isGraphic
  obtain ⟨digits, rfl | rfl, hdigits, -⟩ := h
  · exact hdigits.1
  · exact List.cons_ne_nil _ _

theorem exists_line_cons (word : String) (words : List String) :
    ∃ rest, (line (word :: words)).toList = word.toList ++ rest := by
  rw [line, String.toList_ofList]
  cases words with
  | nil => exact ⟨[], (List.append_nil _).symm⟩
  | cons second words => exact ⟨_, rfl⟩

theorem isWord_decimal (n : Nat) : IsWord (decimal n).toList :=
  (isNumeral_decimal n.lt_succ_self).isWord

end Text

open Text (SameOrWords IsWord Significant)

theorem Condition.IsMark.isGraphic {condition : Condition} {mark : List Char}
    (h : condition.IsMark mark) : ∀ c ∈ mark, Text.isGraphic c = true := by
  cases h with
  | isOne | isZero => exact List.all_eq_true.1 (by decide)
  | multiplexed h =>
    intro c hc
    simp only [List.cons_append, List.mem_cons, List.mem_append, List.not_mem_nil, or_false] at hc
    obtain rfl | hc | rfl := hc
    · decide
    · exact h.isGraphic c hc
    · decide

theorem Control.IsToken.isWord {token : String} {control : Control} (h : IsToken token control) :
    IsWord token.toList := by
  obtain ⟨digits, mark, htoken, hdigits, hmark⟩ := h
  rw [htoken]
  apply Text.isWord_of_isGraphic (List.append_ne_nil_of_left_ne_nil hdigits.1 mark)
  intro c hc
  obtain hc | hc := List.mem_append.1 hc
  · exact hdigits.isGraphic c hc
  · exact hmark.isGraphic c hc

theorem Angle.ReadsBack.isWord {angle : Angle} (h : angle.ReadsBack .hash) :
    IsWord angle.text.toList := by
  refine Text.isWord_of_isGraphic ?_ fun c hc =>
    Text.isGraphic_of_isTokenChar (IsToken.isTokenChar h c hc)
  intro hempty
  have htext : angle.text = "" := String.toList_eq_nil_iff.1 hempty
  have hnone : Angle.read? .hash "" = none := by decide
  unfold ReadsBack at h
  rw [htext, ← read?_eq_some_iff, hnone] at h
  cases h

namespace Instruction

section

variable {grammar : PlaceholderGrammar} {line : String} {instruction : Instruction}

theorem FieldKind.Prints.sameOrWords {kind : FieldKind} {field word : String}
    (h : kind.Prints field word) : SameOrWords field word := by
  cases h with
  | kept => exact .inl rfl
  | number h => exact .inr ⟨h.isWord, Text.isWord_decimal _⟩
  | control h => exact .inr ⟨h.isWord, (Control.isToken_text _).isWord⟩

theorem Printed.sameOrWords {kinds : List FieldKind} {fields words : List String}
    (h : Printed kinds fields words) : List.Forall₂ SameOrWords fields words := by
  induction h with
  | nil => exact .nil
  | cons h _ ih => exact .cons h.sameOrWords ih

theorem significant_text_iff (h : read grammar line = .ok instruction) :
    Significant instruction.text ↔ Significant line := by
  obtain hprinted | ⟨rfl, rfl⟩ := (read_eq_ok_iff.1 h).printed
  · have halike := Text.alike_line hprinted.sameOrWords
    rw [Text.line_fields, Text.line_fields] at halike
    exact (Text.significant_iff_of_alike halike).symm
  · decide

theorem sameOrWords_refl (words : List String) : List.Forall₂ SameOrWords words words :=
  List.forall₂_same.2 fun _ _ => .inl rfl

theorem sameOrWords_angles {angles : List Angle} {f : Angle → Angle}
    (h : ∀ angle ∈ angles, SameOrWords (f angle).text angle.text) :
    List.Forall₂ SameOrWords ((angles.map f).map Angle.text) (angles.map Angle.text) := by
  rw [List.forall₂_map_left_iff, List.forall₂_map_left_iff, List.forall₂_map_right_iff,
    List.forall₂_same]
  exact h

theorem sameOrWords_mapAngles {f : Angle → Angle}
    (h : ∀ angle ∈ instruction.angles, SameOrWords (f angle).text angle.text) :
    List.Forall₂ SameOrWords (instruction.mapAngles f).bodyWords instruction.bodyWords := by
  have hangles := sameOrWords_angles h
  cases instruction with
  | phase | rotation =>
    obtain _ | ⟨hangle, -⟩ := hangles
    exact .cons hangle (sameOrWords_refl _)
  | rotationVector =>
    obtain _ | ⟨hx, _ | ⟨hy, _ | ⟨hz, -⟩⟩⟩ := hangles
    exact .cons hx (.cons hy (.cons hz (sameOrWords_refl _)))
  | diagonal | multiplexor =>
    exact List.rel_append (sameOrWords_refl _) (.cons (.inl rfl) hangles)
  | _ => exact sameOrWords_refl _

theorem WellFormed.significant_negated (h : WellFormed .hash instruction) :
    Significant (instruction.mapAngles Angle.negated).text ↔ Significant instruction.text := by
  have hangles : ∀ angle ∈ instruction.angles, SameOrWords angle.negated.text angle.text := by
    intro angle hmem
    have hback := h.readsBack angle hmem
    exact .inr ⟨hback.negated.isWord, hback.isWord⟩
  have hname : (instruction.mapAngles Angle.negated).opcodeName = instruction.opcodeName := by
    cases instruction <;> rfl
  apply Text.significant_iff_of_alike
  apply Text.alike_line
  rw [hname]
  exact .cons (.inl rfl) (sameOrWords_mapAngles hangles)

theorem isWord_opcode_name (op : Opcode) : IsWord op.name.toList := by
  have key : ∀ x ∈ Opcode.all,
      x.name.toList ≠ [] ∧ x.name.toList.all Text.isGraphic = true := by decide
  obtain ⟨hne, hgraphic⟩ := key op (Opcode.mem_all op)
  exact Text.isWord_of_isGraphic hne (List.all_eq_true.1 hgraphic)

theorem isBlank_text {op : Opcode} (h : instruction.opcode? = some op) :
    Text.isBlank instruction.text.toList = false := by
  obtain ⟨rest, hrest⟩ := Text.exists_line_cons instruction.opcodeName instruction.bodyWords
  rw [text, hrest, opcodeName_eq_name h]
  exact (isWord_opcode_name op).isBlank_append rest

theorem Unambiguous.significant_text (h : instruction.Unambiguous) :
    Significant instruction.text := by
  obtain ⟨op, ho⟩ := exists_opcode_of_not_foreign h.known
  refine ⟨h.not_mem_text (.inl rfl), ?_, isBlank_text ho⟩
  intro hlast
  exact h.not_mem_text (.inr rfl) (List.mem_of_getLast? hlast)

end

end Instruction

end CircuitScript
