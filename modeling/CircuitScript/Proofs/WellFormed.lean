import CircuitScript.Instruction.Printer
import CircuitScript.Proofs.Reader
/-!
What an instruction has to satisfy for its line to be read back. Every instruction that is read
satisfies it, and the line of every instruction that satisfies it is read as the instruction.
-/
namespace CircuitScript.Instruction

/-- What the row of the instruction asks of its parts, qubits and angles apart. -/
def HasShape : Instruction → Prop
  | .diagonal controls coefficients => coefficients.length = branchCount controls
  | .multiplexor _ controls coefficients =>
    controls ≠ [] ∧ coefficients.length = branchCount controls
  | .measure kind _ => kind.toNat ≤ lastMeasurement
  | .print style => '\t' ∉ style.toList
  | .conditionBegin conditions =>
    conditions ≠ [] ∧ ∀ condition ∈ conditions, condition.isMultiplexed = false
  | .foreign opcode fields =>
    opcode ≠ "" ∧ (∀ op : Opcode, op.name ≠ opcode) ∧
      ∀ field ∈ opcode :: fields, '\t' ∉ field.toList
  | _ => True

/-- The row's demands are met, no qubit appears twice, and each angle is one field that reads back
as the angle. -/
structure WellFormed (grammar : PlaceholderGrammar) (instruction : Instruction) : Prop where
  shape : instruction.HasShape
  distinct : instruction.qubitFields.Nodup
  readsBack : ∀ angle ∈ instruction.angles, angle.ReadsBack grammar
  tab_not_mem : ∀ angle ∈ instruction.angles, '\t' ∉ angle.text.toList

section

variable {grammar : PlaceholderGrammar} {line : String} {fields : List String}
  {instruction : Instruction}

/-! Instructions that are read. -/

theorem Row.hasShape {op : Opcode} (h : Row grammar op fields instruction)
    (htab : ∀ field ∈ fields, '\t' ∉ field.toList) : instruction.HasShape := by
  cases h with
  | diagonal hc hb =>
    cases hb with
    | of _ hcount => exact hcount
  | multiplexor _ hne hb =>
    cases hb with
    | of _ hcount => exact ⟨hne, hcount⟩
  | measure hk _ => exact (isMeasurement_iff.1 hk).2
  | print => exact htab _ List.mem_cons_self
  | conditionBegin hne hplain _ => exact ⟨hne, hplain⟩
  | _ => trivial

theorem CoefficientFields.isToken {controls : List Control} {coefficients : List Angle}
    (h : CoefficientFields grammar controls fields coefficients) :
    ∀ angle ∈ coefficients, ∃ token ∈ fields, Angle.IsToken grammar token angle := by
  obtain ⟨h, -⟩ := h
  induction h with
  | nil => simp
  | cons ht _ ih =>
    intro angle hmem
    cases hmem with
    | head => exact ⟨_, by simp, ht⟩
    | tail _ hmem =>
      obtain ⟨token, htoken, ha⟩ := ih angle hmem
      refine ⟨token, ?_, ha⟩
      cases htoken with
      | head => exact List.mem_cons_self
      | tail _ htoken => exact List.mem_cons_of_mem _ (List.mem_cons_of_mem _ htoken)

theorem Row.isToken {op : Opcode} (h : Row grammar op fields instruction) :
    ∀ angle ∈ instruction.angles, ∃ token ∈ fields, Angle.IsToken grammar token angle := by
  cases h with
  | phase ha _ =>
    intro angle hmem
    rw [List.mem_singleton.1 hmem]
    exact ⟨_, List.mem_cons_self, ha⟩
  | rotation ha _ =>
    intro angle hmem
    rw [List.mem_singleton.1 hmem]
    exact ⟨_, List.mem_cons_self, ha⟩
  | rotationVector hx hy hz _ =>
    intro angle hmem
    simp only [angles, List.mem_cons, List.not_mem_nil, or_false] at hmem
    obtain rfl | rfl | rfl := hmem
    · exact ⟨_, by simp, hx⟩
    · exact ⟨_, by simp, hy⟩
    · exact ⟨_, by simp, hz⟩
  | diagonal _ hb =>
    intro angle hmem
    obtain ⟨token, htoken, ha⟩ := hb.isToken angle hmem
    exact ⟨token, List.mem_append_right _ htoken, ha⟩
  | multiplexor _ _ hb =>
    intro angle hmem
    obtain ⟨token, htoken, ha⟩ := hb.isToken angle hmem
    exact ⟨token, List.mem_append_right _ htoken, ha⟩
  | _ => simp [angles]

theorem Line.wellFormed (h : Line grammar line instruction) : WellFormed grammar instruction := by
  cases h with
  | @known op fields _ split row distinct =>
    have htab : ∀ field ∈ fields, '\t' ∉ field.toList := fun field hf =>
      split.separator_not_mem field (List.mem_cons_of_mem _ hf)
    refine ⟨row.hasShape htab, distinct, ?_, ?_⟩
    · intro angle hmem
      obtain ⟨token, -, ha⟩ := row.isToken angle hmem
      exact ha.readsBack
    · intro angle hmem
      obtain ⟨token, htoken, ha⟩ := row.isToken angle hmem
      rw [ha.text_eq]
      exact htab token htoken
  | foreign split hne unknown =>
    exact ⟨⟨hne, unknown, split.separator_not_mem⟩, by simp [qubitFields],
      by simp [angles], by simp [angles]⟩

/-! Words of a line. -/

theorem isQubit_qubitWord (qubit : Qubit) : IsQubit (qubitWord qubit) qubit :=
  Text.isNumeral_decimal qubit.toNat_lt

theorem isCount_decimal (count : UInt32) : IsCount (Text.decimal count.toNat) count :=
  Text.isNumeral_decimal count.toNat_lt

theorem controlFields_controlWords (controls : List Control) :
    ControlFields (controlWords controls) controls := by
  cases controls with
  | nil => exact .none
  | cons control controls =>
    refine .marked (by simp) ?_
    rw [List.forall₂_map_left_iff, List.forall₂_same]
    exact fun control _ => Control.isToken_text control

theorem targetFields_targetWords (target : Qubit) (controls : List Control) :
    TargetFields (targetWords target controls) target controls :=
  .of (isQubit_qubitWord target) (controlFields_controlWords controls)

theorem coefficientFields_coefficientWords {controls : List Control} {coefficients : List Angle}
    (hcount : coefficients.length = branchCount controls)
    (h : ∀ angle ∈ coefficients, angle.ReadsBack grammar) :
    CoefficientFields grammar controls (coefficientWords coefficients) coefficients := by
  refine .of ?_ hcount
  rw [List.forall₂_map_left_iff, List.forall₂_same]
  exact h

def isWordChar (c : Char) : Bool := c.isAlphanum || c = '(' || c = ')' || c = '='

def freeTexts : Instruction → List String
  | .note text => [text]
  | .print style => [style]
  | .foreign _ fields => fields
  | _ => []

theorem isWordChar_decimal (n : Nat) : ∀ c ∈ (Text.decimal n).toList, isWordChar c = true := by
  intro c hc
  have h : c.isDigit = true := Text.isDigit_of_mem_decimal hc
  simp [isWordChar, Char.isAlphanum, h]

theorem isWordChar_controlText (control : Control) :
    ∀ c ∈ control.text.toList, isWordChar c = true := by
  have hdecimal (n : Nat) := isWordChar_decimal n
  intro c hc
  unfold Control.text at hc
  cases hcond : control.condition with
  | isOne =>
    simp only [hcond, String.toList_append, List.mem_append] at hc
    obtain hc | hc := hc
    · exact hdecimal _ c hc
    · obtain rfl : c = 'T' := by simpa using hc
      decide
  | isZero =>
    simp only [hcond, String.toList_append, List.mem_append] at hc
    obtain hc | hc := hc
    · exact hdecimal _ c hc
    · obtain rfl : c = 'F' := by simpa using hc
      decide
  | multiplexed position =>
    simp only [hcond, String.toList_append, List.mem_append] at hc
    obtain ((hc | hc) | hc) | hc := hc
    · exact hdecimal _ c hc
    · obtain rfl : c = '(' := by simpa using hc
      decide
    · exact hdecimal _ c hc
    · obtain rfl : c = ')' := by simpa using hc
      decide

theorem isWordChar_controlWords {controls : List Control} :
    ∀ word ∈ controlWords controls, ∀ c ∈ word.toList, isWordChar c = true := by
  intro word hw
  unfold controlWords at hw
  split at hw
  · simp at hw
  · obtain rfl | hw := List.mem_cons.1 hw
    · exact List.all_eq_true.1 (by decide)
    · obtain ⟨control, -, rfl⟩ := List.mem_map.1 hw
      exact isWordChar_controlText control

theorem isWordChar_targetWords {target : Qubit} {controls : List Control} :
    ∀ word ∈ targetWords target controls, ∀ c ∈ word.toList, isWordChar c = true := by
  intro word hw
  unfold targetWords at hw
  obtain rfl | hw := List.mem_cons.1 hw
  · exact List.all_eq_true.1 (by decide)
  obtain rfl | hw := List.mem_cons.1 hw
  · exact isWordChar_decimal _
  · exact isWordChar_controlWords word hw

theorem mem_coefficientWords {word : String} {coefficients : List Angle}
    (h : word ∈ coefficientWords coefficients) :
    (∃ angle ∈ coefficients, angle.text = word) ∨ ∀ c ∈ word.toList, isWordChar c = true := by
  obtain rfl | h := List.mem_cons.1 h
  · exact .inr (List.all_eq_true.1 (by decide))
  · exact .inl (List.mem_map.1 h)

theorem bodyWords_note (text : String) :
    (note text).bodyWords = if text.isEmpty then [] else [text] := rfl

theorem mem_bodyWords {word : String} (h : word ∈ instruction.bodyWords) :
    (∃ angle ∈ instruction.angles, angle.text = word) ∨ word ∈ instruction.freeTexts ∨
      ∀ c ∈ word.toList, isWordChar c = true := by
  cases instruction with
  | hadamard => exact .inr (.inr (isWordChar_targetWords word h))
  | pauli => exact .inr (.inr (isWordChar_targetWords word h))
  | phase kind angle =>
    obtain rfl | h := List.mem_cons.1 h
    · exact .inl ⟨angle, List.mem_cons_self, rfl⟩
    · exact .inr (.inr (isWordChar_targetWords word h))
  | rotation axis angle =>
    obtain rfl | h := List.mem_cons.1 h
    · exact .inl ⟨angle, List.mem_cons_self, rfl⟩
    · exact .inr (.inr (isWordChar_targetWords word h))
  | rotationVector x y z =>
    simp only [bodyWords, List.mem_cons] at h
    obtain rfl | rfl | rfl | h := h
    · exact .inl ⟨x, by simp [angles], rfl⟩
    · exact .inl ⟨y, by simp [angles], rfl⟩
    · exact .inl ⟨z, by simp [angles], rfl⟩
    · exact .inr (.inr (isWordChar_targetWords word h))
  | swap first second controls =>
    simp only [bodyWords, List.mem_cons] at h
    obtain rfl | rfl | h := h
    · exact .inr (.inr (isWordChar_decimal _))
    · exact .inr (.inr (isWordChar_decimal _))
    · exact .inr (.inr (isWordChar_controlWords word h))
  | diagonal controls coefficients =>
    obtain h | h := List.mem_append.1 h
    · exact .inr (.inr (isWordChar_controlWords word h))
    · exact (mem_coefficientWords h).imp id .inr
  | multiplexor target controls coefficients =>
    obtain h | h := List.mem_append.1 h
    · exact .inr (.inr (isWordChar_targetWords word h))
    · exact (mem_coefficientWords h).imp id .inr
  | measure kind target =>
    simp only [bodyWords, List.mem_cons, List.not_mem_nil, or_false] at h
    obtain rfl | rfl | rfl := h
    · exact .inr (.inr (isWordChar_decimal _))
    · exact .inr (.inr (List.all_eq_true.1 (by decide)))
    · exact .inr (.inr (isWordChar_decimal _))
  | note text =>
    rw [bodyWords_note] at h
    split at h
    · cases h
    · exact .inr (.inl h)
  | print style => exact .inr (.inl h)
  | loopBegin id repetitions =>
    simp only [bodyWords, List.mem_cons, List.not_mem_nil, or_false] at h
    obtain rfl | rfl | rfl := h
    · exact .inr (.inr (isWordChar_decimal _))
    · exact .inr (.inr (List.all_eq_true.1 (by decide)))
    · exact .inr (.inr (isWordChar_decimal _))
  | loopEnd id =>
    rw [List.mem_singleton.1 h]
    exact .inr (.inr (isWordChar_decimal _))
  | conditionBegin conditions =>
    obtain h | h := List.mem_append.1 h
    · obtain ⟨condition, -, rfl⟩ := List.mem_map.1 h
      exact .inr (.inr (isWordChar_controlText condition))
    · rw [List.mem_singleton.1 h]
      exact .inr (.inr (List.all_eq_true.1 (by decide)))
  | conditionEnd => cases h
  | foreign opcode fields => exact .inr (.inl h)

theorem tab_not_mem_of_isWordChar {word : String} (h : ∀ c ∈ word.toList, isWordChar c = true) :
    '\t' ∉ word.toList := by
  intro hmem
  exact absurd (h _ hmem) (by decide)

theorem tab_not_mem_opcode_name (op : Opcode) : '\t' ∉ op.name.toList := by
  have key : ∀ x ∈ Opcode.all, '\t' ∉ x.name.toList := by decide
  exact key op (Opcode.mem_all op)

theorem exists_opcode_of_not_foreign (h : instruction.isForeign = false) :
    ∃ op, instruction.opcode? = some op := by
  cases instruction with
  | foreign => cases h
  | _ => exact ⟨_, rfl⟩

theorem opcodeName_eq_name {op : Opcode} (h : instruction.opcode? = some op) :
    instruction.opcodeName = op.name := by
  unfold opcodeName
  split
  · cases h
  · rw [h]
    rfl

theorem fields_text (h : '\t' ∉ instruction.opcodeName.toList) :
    Text.fields instruction.text =
      instruction.opcodeName :: instruction.bodyWords.flatMap Text.fields := by
  rw [text, Text.fields_line_eq_flatMap (by simp), List.flatMap_cons, Text.fields_of_not_mem h]
  rfl

theorem flatMap_bodyWords (hangles : ∀ angle ∈ instruction.angles, '\t' ∉ angle.text.toList)
    (hfree : ∀ text ∈ instruction.freeTexts, '\t' ∉ text.toList) :
    instruction.bodyWords.flatMap Text.fields = instruction.bodyWords := by
  apply Text.flatMap_fields_of_not_mem
  intro word hw
  obtain ⟨angle, hmem, rfl⟩ | hmem | hword := mem_bodyWords hw
  · exact hangles angle hmem
  · exact hfree word hmem
  · exact tab_not_mem_of_isWordChar hword

theorem WellFormed.flatMap_bodyWords (h : WellFormed grammar instruction)
    (hnote : ∀ text, instruction ≠ .note text) :
    instruction.bodyWords.flatMap Text.fields = instruction.bodyWords := by
  apply Instruction.flatMap_bodyWords h.tab_not_mem
  intro text hmem
  have hshape := h.shape
  cases instruction with
  | note text => exact absurd rfl (hnote text)
  | print style =>
    rw [List.mem_singleton.1 hmem]
    exact hshape
  | foreign opcode fields => exact hshape.2.2 text (List.mem_cons_of_mem _ hmem)
  | _ => cases hmem

theorem WellFormed.row_bodyWords {op : Opcode} (h : WellFormed grammar instruction)
    (ho : instruction.opcode? = some op) (hnote : ∀ text, instruction ≠ .note text) :
    Row grammar op instruction.bodyWords instruction := by
  have hshape := h.shape
  have hback := h.readsBack
  cases instruction with
  | hadamard target controls =>
    cases ho
    exact .hadamard (targetFields_targetWords target controls)
  | pauli axis target controls =>
    cases ho
    exact .pauli (targetFields_targetWords target controls)
  | phase kind angle target controls =>
    cases ho
    exact .phase (hback angle (by simp [angles])) (targetFields_targetWords target controls)
  | rotation axis angle target controls =>
    cases ho
    exact .rotation (hback angle (by simp [angles])) (targetFields_targetWords target controls)
  | rotationVector x y z target controls =>
    cases ho
    exact .rotationVector (hback x (by simp [angles])) (hback y (by simp [angles]))
      (hback z (by simp [angles])) (targetFields_targetWords target controls)
  | swap first second controls =>
    cases ho
    exact .swap (isQubit_qubitWord first) (isQubit_qubitWord second)
      (controlFields_controlWords controls)
  | diagonal controls coefficients =>
    cases ho
    exact .diagonal (controlFields_controlWords controls)
      (coefficientFields_coefficientWords hshape hback)
  | multiplexor target controls coefficients =>
    cases ho
    exact .multiplexor (targetFields_targetWords target controls) hshape.1
      (coefficientFields_coefficientWords hshape.2 hback)
  | measure kind target =>
    cases ho
    have hkind : kind.toNat < 3 := Nat.lt_succ_of_le hshape
    exact .measure (Text.isNumeral_decimal hkind) (isQubit_qubitWord target)
  | note text => exact absurd rfl (hnote text)
  | print style =>
    cases ho
    exact .print
  | loopBegin id repetitions =>
    cases ho
    exact .loopBegin (isCount_decimal id) (isCount_decimal repetitions)
  | loopEnd id =>
    cases ho
    exact .loopEnd (isCount_decimal id)
  | conditionBegin conditions =>
    cases ho
    refine .conditionBegin hshape.1 hshape.2 ?_
    rw [List.forall₂_map_left_iff, List.forall₂_same]
    exact fun condition _ => Control.isToken_text condition
  | conditionEnd =>
    cases ho
    exact .conditionEnd
  | foreign opcode fields => cases ho

/-- A note's text stands between tabs of its own, and joining restores it. -/
theorem intercalate_note (text : String) :
    "\t".intercalate ((note text).bodyWords.flatMap Text.fields) = text := by
  rw [bodyWords_note]
  split
  · rename_i hempty
    rw [String.isEmpty_iff.1 hempty]
    rfl
  · rw [List.flatMap_singleton, ← Text.line_eq_intercalate, Text.line_fields]

theorem row_note (text : String) :
    Row grammar .note ((note text).bodyWords.flatMap Text.fields) (.note text) := by
  have hrow (fields : List String) : Row grammar .note fields (.note ("\t".intercalate fields)) :=
    .note
  have h := hrow ((note text).bodyWords.flatMap Text.fields)
  rwa [intercalate_note] at h

theorem WellFormed.line_text (h : WellFormed grammar instruction) :
    Line grammar instruction.text instruction := by
  have hshape := h.shape
  cases ho : instruction.opcode? with
  | some op =>
    have hname := opcodeName_eq_name ho
    have hfields := fields_text (hname ▸ tab_not_mem_opcode_name op)
    rw [hname] at hfields
    refine .known ((Text.isSplit_iff (by simp)).2 hfields) ?_ h.distinct
    by_cases hnote : ∃ text, instruction = .note text
    · obtain ⟨text, rfl⟩ := hnote
      cases ho
      exact row_note text
    · have hnote : ∀ text, instruction ≠ .note text := fun text he => hnote ⟨text, he⟩
      rw [h.flatMap_bodyWords hnote]
      exact h.row_bodyWords ho hnote
  | none =>
    cases instruction with
    | foreign opcode fields =>
      obtain ⟨hne, unknown, htab⟩ := hshape
      have hfields : Text.fields (foreign opcode fields).text = _ :=
        fields_text (htab opcode List.mem_cons_self)
      rw [h.flatMap_bodyWords (by simp)] at hfields
      exact .foreign ((Text.isSplit_iff (by simp)).2 hfields) hne unknown
    | _ => cases ho

theorem WellFormed.read_text (h : WellFormed grammar instruction) :
    read grammar instruction.text = .ok instruction :=
  h.line_text.read_eq_ok

theorem WellFormed.of_read (h : read grammar line = .ok instruction) :
    WellFormed grammar instruction :=
  (read_eq_ok_iff.1 h).wellFormed

theorem wellFormed_iff_read_text :
    WellFormed grammar instruction ↔ read grammar instruction.text = .ok instruction :=
  ⟨WellFormed.read_text, WellFormed.of_read⟩

end

end CircuitScript.Instruction
