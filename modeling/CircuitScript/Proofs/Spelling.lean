import CircuitScript.Proofs.Text.Plain
import CircuitScript.Proofs.WellFormed
/-!
What printing makes of a line that was read. Numbers and the numbers inside controls get their plain
spelling, an empty note loses its tab, and every other field stays character for character.
-/
namespace CircuitScript

def Control.plainToken (token : List Char) : List Char :=
  let (digits, mark) := token.span Char.isDigit
  Text.plainDigits digits ++
    match mark with
    | '(' :: position => '(' :: Text.plainNumeral position.dropLast ++ [')']
    | letter => letter

theorem Control.plainToken_eq {token : String} {control : Control} (h : IsToken token control) :
    plainToken token.toList = control.text.toList := by
  obtain ⟨digits, mark, htoken, hdigits, hmark⟩ := h
  obtain ⟨qubit, condition⟩ := control
  have hspan := Text.span_append hdigits.2.1 hmark.head_not_digit
  rw [plainToken, htoken, hspan]
  dsimp only
  rw [Text.plainDigits_eq hdigits]
  cases hmark with
  | isOne => simp [text]
  | isZero => simp [text]
  | multiplexed hposition => simp [text, Text.plainNumeral_eq hposition]

namespace Instruction

inductive FieldKind where
  | kept
  | number
  | control
  deriving DecidableEq, Repr

def FieldKind.respell (kind : FieldKind) (field : String) : String :=
  match kind with
  | .kept => field
  | .number => String.ofList (Text.plainNumeral field.toList)
  | .control => String.ofList (Control.plainToken field.toList)

def controlKinds : List Control → List FieldKind
  | [] => []
  | controls => .kept :: controls.map fun _ => .control

def targetKinds (controls : List Control) : List FieldKind :=
  .kept :: .number :: controlKinds controls

def coefficientKinds (coefficients : List Angle) : List FieldKind :=
  .kept :: coefficients.map fun _ => .kept

/-- The kinds of the fields after the opcode. Keywords, angles and texts are kept. -/
def fieldKinds : Instruction → List FieldKind
  | .hadamard _ controls | .pauli _ _ controls => targetKinds controls
  | .phase _ _ _ controls | .rotation _ _ _ controls => .kept :: targetKinds controls
  | .rotationVector _ _ _ _ controls => .kept :: .kept :: .kept :: targetKinds controls
  | .swap _ _ controls => .number :: .number :: controlKinds controls
  | .diagonal controls coefficients => controlKinds controls ++ coefficientKinds coefficients
  | .multiplexor _ controls coefficients => targetKinds controls ++ coefficientKinds coefficients
  | .measure .. => [.number, .kept, .number]
  | .note text => if text.isEmpty then [] else (Text.fields text).map fun _ => .kept
  | .print _ => [.kept]
  | .loopBegin .. => [.number, .kept, .number]
  | .loopEnd _ => [.number]
  | .conditionBegin conditions => conditions.map (fun _ => .control) ++ [.kept]
  | .conditionEnd => []
  | .foreign _ fields => fields.map fun _ => .kept

inductive FieldKind.Prints : FieldKind → String → String → Prop
  | kept (field : String) : Prints .kept field field
  | number {field : String} {bound n : Nat} (h : Text.IsNumeral bound field.toList n) :
      Prints .number field (Text.decimal n)
  | control {token : String} {control : Control} (h : Control.IsToken token control) :
      Prints .control token control.text

theorem FieldKind.Prints.eq_respell {kind : FieldKind} {field word : String}
    (h : kind.Prints field word) : word = kind.respell field := by
  rw [← String.toList_inj]
  cases h with
  | kept => rfl
  | number h => simp [respell, Text.plainNumeral_eq h]
  | control h => simp [respell, Control.plainToken_eq h]

inductive Printed : List FieldKind → List String → List String → Prop
  | nil : Printed [] [] []
  | cons {kind : FieldKind} {field word : String} {kinds : List FieldKind}
      {fields words : List String} (h : kind.Prints field word) (hs : Printed kinds fields words) :
      Printed (kind :: kinds) (field :: fields) (word :: words)

namespace Printed

variable {kinds others : List FieldKind} {fields words : List String}

theorem length_eq (h : Printed kinds fields words) : kinds.length = fields.length := by
  induction h with
  | nil => rfl
  | cons _ _ ih => rw [List.length_cons, List.length_cons, ih]

theorem eq_respelled (h : Printed kinds fields words) :
    words = List.zipWith FieldKind.respell kinds fields := by
  induction h with
  | nil => rfl
  | cons h _ ih => rw [List.zipWith_cons_cons, ← h.eq_respell, ← ih]

theorem append {fields' words' : List String} (h : Printed kinds fields words)
    (h' : Printed others fields' words') :
    Printed (kinds ++ others) (fields ++ fields') (words ++ words') := by
  induction h with
  | nil => exact h'
  | cons h _ ih => exact .cons h ih

theorem kept (fields : List String) : Printed (fields.map fun _ => .kept) fields fields := by
  induction fields with
  | nil => exact .nil
  | cons field fields ih => exact .cons (.kept field) ih

theorem angles {grammar : PlaceholderGrammar} {angles : List Angle}
    (h : List.Forall₂ (Angle.IsToken grammar) fields angles) :
    Printed (angles.map fun _ => .kept) fields (angles.map Angle.text) := by
  induction h with
  | nil => exact .nil
  | cons ha _ ih =>
    rw [List.map_cons, List.map_cons, ha.text_eq]
    exact .cons (.kept _) ih

theorem controls {controls : List Control}
    (h : List.Forall₂ Control.IsToken fields controls) :
    Printed (controls.map fun _ => .control) fields (controls.map Control.text) := by
  induction h with
  | nil => exact .nil
  | cons hc _ ih => exact .cons (.control hc) ih

end Printed

theorem ControlFields.printed {fields : List String} {controls : List Control}
    (h : ControlFields fields controls) :
    Printed (controlKinds controls) fields (controlWords controls) := by
  cases h with
  | none => exact .nil
  | marked hne h =>
    obtain ⟨control, controls, rfl⟩ := List.exists_cons_of_ne_nil hne
    exact .cons (.kept "IF") (.controls h)

theorem TargetFields.printed {fields : List String} {target : Qubit} {controls : List Control}
    (h : TargetFields fields target controls) :
    Printed (targetKinds controls) fields (targetWords target controls) := by
  cases h with
  | of ht hc => exact .cons (.kept "AT") (.cons (.number ht) hc.printed)

theorem CoefficientFields.printed {grammar : PlaceholderGrammar} {controls : List Control}
    {fields : List String} {coefficients : List Angle}
    (h : CoefficientFields grammar controls fields coefficients) :
    Printed (coefficientKinds coefficients) fields (coefficientWords coefficients) := by
  cases h with
  | of h _ => exact .cons (.kept "BY") (.angles h)

section

variable {grammar : PlaceholderGrammar} {line : String} {instruction : Instruction}

theorem FieldKind.prints_angle {token : String} {angle : Angle}
    (h : Angle.IsToken grammar token angle) : FieldKind.Prints .kept token angle.text := by
  rw [h.text_eq]
  exact .kept token

/-- A note is the one row whose fields are not words: it keeps them joined. -/
theorem Row.printed {op : Opcode} {fields : List String} (h : Row grammar op fields instruction)
    (hnote : ∀ text, instruction ≠ .note text) :
    Printed instruction.fieldKinds fields instruction.bodyWords := by
  cases h with
  | hadamard h => exact h.printed
  | pauli h => exact h.printed
  | phase ha h => exact .cons (FieldKind.prints_angle ha) h.printed
  | rotation ha h => exact .cons (FieldKind.prints_angle ha) h.printed
  | rotationVector hx hy hz h =>
    exact .cons (FieldKind.prints_angle hx)
      (.cons (FieldKind.prints_angle hy) (.cons (FieldKind.prints_angle hz) h.printed))
  | swap h₁ h₂ hc => exact .cons (.number h₁) (.cons (.number h₂) hc.printed)
  | diagonal hc hb => exact hc.printed.append hb.printed
  | multiplexor h _ hb => exact h.printed.append hb.printed
  | measure hk ht => exact .cons (.number hk) (.cons (.kept "AT") (.cons (.number ht) .nil))
  | note => exact absurd rfl (hnote _)
  | print => exact .cons (.kept _) .nil
  | loopBegin hi hr => exact .cons (.number hi) (.cons (.kept "NREPS=") (.cons (.number hr) .nil))
  | loopEnd hi => exact .cons (.number hi) .nil
  | conditionBegin _ _ h => exact (Printed.controls h).append (.cons (.kept ")") .nil)
  | conditionEnd => exact .nil

theorem printed_note {fields : List String} (htab : ∀ field ∈ fields, '\t' ∉ field.toList) :
    Printed (note ("\t".intercalate fields)).fieldKinds fields
        ((note ("\t".intercalate fields)).bodyWords.flatMap Text.fields) ∨
      fields = [""] := by
  by_cases hempty : "\t".intercalate fields = ""
  · cases fields with
    | nil => exact .inl .nil
    | cons field fields =>
      have hsplit : Text.IsSplit "" (field :: fields) := ⟨htab, hempty.symm⟩
      exact .inr ((Text.isSplit_iff (by simp)).1 hsplit).symm
  · have hne : fields ≠ [] := by
      rintro rfl
      exact hempty rfl
    have hfields : Text.fields ("\t".intercalate fields) = fields :=
      (Text.isSplit_iff hne).1 ⟨htab, rfl⟩
    have hisEmpty : ("\t".intercalate fields).isEmpty = false := by
      rw [← Bool.not_eq_true, String.isEmpty_iff]
      exact hempty
    left
    rw [bodyWords_note, fieldKinds, hisEmpty, hfields]
    simp only [Bool.false_eq_true, if_false, List.flatMap_cons, List.flatMap_nil, List.append_nil,
      hfields]
    exact .kept fields

theorem Line.printed (h : Line grammar line instruction) :
    Printed (.kept :: instruction.fieldKinds) (Text.fields line) (Text.fields instruction.text) ∨
      line = "NOTA\t" ∧ instruction = .note "" := by
  have hwell := h.wellFormed
  cases h with
  | @known op fields _ split row _ =>
    have hline := (Text.isSplit_iff (by simp)).1 split
    have hop : instruction.opcode? = some op := by cases row <;> rfl
    have htext := fields_text (opcodeName_eq_name hop ▸ tab_not_mem_opcode_name op)
    rw [opcodeName_eq_name hop] at htext
    rw [hline, htext]
    by_cases hnote : ∃ text, instruction = .note text
    · obtain ⟨text, rfl⟩ := hnote
      cases row with
      | note =>
        have htab : ∀ field ∈ fields, '\t' ∉ field.toList := fun field hf =>
          split.separator_not_mem field (List.mem_cons_of_mem _ hf)
        obtain hprinted | rfl := printed_note htab
        · exact .inl (.cons (.kept _) hprinted)
        · exact .inr ⟨split.eq_intercalate, rfl⟩
    · have hnote : ∀ text, instruction ≠ .note text := fun text he => hnote ⟨text, he⟩
      rw [hwell.flatMap_bodyWords hnote]
      exact .inl (.cons (.kept _) (row.printed hnote))
  | @foreign opcode fields split _ _ =>
    have hline := (Text.isSplit_iff (by simp)).1 split
    have htext : Text.fields (Instruction.foreign opcode fields).text = _ :=
      fields_text (split.separator_not_mem opcode List.mem_cons_self)
    rw [hline, htext, hwell.flatMap_bodyWords (by simp)]
    exact .inl (.cons (.kept opcode) (.kept fields))

/-- What is printed for a line that was read is read as the same, under every grammar. It has the
fields of the line, the numbers among them in their plain spelling; only a note that is empty after
its tab loses the tab. -/
theorem read_text_respelled (h : read grammar line = .ok instruction) :
    read grammar instruction.text = .ok instruction ∧
      ((Text.fields line).length = instruction.fieldKinds.length + 1 ∧
          Text.fields instruction.text =
            List.zipWith FieldKind.respell (.kept :: instruction.fieldKinds) (Text.fields line) ∨
        line = "NOTA\t" ∧ instruction = .note "" ∧ instruction.text = "NOTA") := by
  have hline := read_eq_ok_iff.1 h
  refine ⟨hline.wellFormed.read_text, ?_⟩
  obtain hprinted | ⟨htab, rfl⟩ := hline.printed
  · exact .inl ⟨hprinted.length_eq.symm, hprinted.eq_respelled⟩
  · exact .inr ⟨htab, rfl, by decide⟩

theorem read_text_respelled_diagonal :
    let line := "DIAG\tIF\t02(+01)\t1(0)\t007T\tBY\t+10\t020\tBY\t-#1"
    let grammar : PlaceholderGrammar := ⟨(· ∈ ["BY", "-#1"]), fun _ => [], fun _ => none⟩
    let c : Instruction := .diagonal [⟨2, .multiplexed 1⟩, ⟨1, .multiplexed 0⟩, ⟨7, .isOne⟩]
      [.literal "+10", .literal "020", .placeholder "BY", .placeholder "-#1"]
    read grammar line = .ok c ∧
      Text.fields c.text =
        ["DIAG", "IF", "2(1)", "1(0)", "7T", "BY", "+10", "020", "BY", "-#1"] := by
  intro line grammar c
  have hread : read grammar line = .ok c := by
    apply Stateful.eq_ok_of_toOption
    decide +kernel
  obtain ⟨-, ⟨-, hfields⟩ | ⟨hline, -⟩⟩ := read_text_respelled hread
  · refine ⟨hread, hfields.trans ?_⟩
    decide +kernel
  · exact absurd hline (by decide)

end

end Instruction

end CircuitScript
