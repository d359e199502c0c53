import CircuitScript.Proofs.Format
import CircuitScript.Proofs.WellFormed
/-!
Lines that can stand for one instruction only. Such a line may be refused, as when its coefficients
are too many, but what is read from it is what was written.
-/
namespace CircuitScript

def Text.isEnd (c : Char) : Bool := c = '\t' || c = '\n' || c = '\r'

namespace Angle

/-- The text of the angle is one field of one line and can be read as this angle only. A literal
need not be finite. -/
structure Unambiguous (angle : Angle) : Prop where
  unique : ∀ other, IsToken .hash angle.text other → other = angle
  isEnd_eq_false : ∀ c ∈ angle.text.toList, Text.isEnd c = false
  legal : ∀ token, angle = .placeholder token → ReadsBack .hash angle

theorem isEnd_of_isTokenChar {c : Char} (h : Placeholder.isTokenChar c = true) :
    Text.isEnd c = false := by
  rw [← Bool.not_eq_true]
  intro hend
  simp only [Text.isEnd, Bool.or_eq_true, decide_eq_true_eq] at hend
  obtain (rfl | rfl) | rfl := hend <;> exact absurd h (by decide)

theorem isEnd_of_isFormatChar {c : Char} (h : Decimal.isFormatChar c = true) :
    Text.isEnd c = false := by
  rw [← Bool.not_eq_true]
  intro hend
  simp only [Text.isEnd, Bool.or_eq_true, decide_eq_true_eq] at hend
  obtain (rfl | rfl) | rfl := hend <;> exact absurd h (by decide)

theorem IsToken.unambiguous {token : String} {angle : Angle} (h : IsToken .hash token angle) :
    Unambiguous angle where
  unique other ho := by
    rw [h.text_eq] at ho
    exact ho.unique h
  isEnd_eq_false c hc := by
    rw [h.text_eq] at hc
    exact isEnd_of_isTokenChar (h.isTokenChar c hc)
  legal _ _ := h.readsBack

theorem unambiguous_literal {text : String}
    (h : ∀ c ∈ text.toList, Decimal.isFormatChar c = true) : Unambiguous (.literal text) where
  unique other ho := by
    cases ho with
    | literal _ => rfl
    | placeholder _ hlegal =>
      obtain ⟨p, hp⟩ := isLegal_hash_iff.1 hlegal
      exact absurd (h _ hp.hash_mem) (by decide)
  isEnd_eq_false c hc := isEnd_of_isFormatChar (h c hc)
  legal _ heq := by cases heq

theorem unambiguous_ofRadians (radians : Float) : Unambiguous (ofRadians radians) := by
  obtain ⟨x, hx⟩ := ofRadians_eq radians
  rw [hx]
  exact unambiguous_literal (Decimal.isFormatChar_text x)

theorem eq_of_isToken_texts {angles others : List Angle}
    (hu : ∀ angle ∈ angles, Unambiguous angle)
    (h : List.Forall₂ (IsToken .hash) (angles.map text) others) : others = angles := by
  induction angles generalizing others with
  | nil =>
    cases h
    rfl
  | cons angle angles ih =>
    cases h with
    | cons hhead htail =>
      have hangle := (hu angle List.mem_cons_self).unique _ hhead
      have hangles := ih (fun a ha => hu a (List.mem_cons_of_mem _ ha)) htail
      rw [hangle, hangles]

end Angle

theorem Text.IsNumeral.eq_of_decimal {bound m n : Nat}
    (h : Text.IsNumeral bound (Text.decimal n).toList m) : m = n := by
  obtain ⟨digits, htext, hdigits, -⟩ := h
  obtain htext | htext := htext
  · rw [← hdigits.2.2, ← htext]
    exact (Text.isDigits_decimal n).2.2
  · exfalso
    apply (Text.isDigits_decimal n).plus_not_mem
    rw [htext]
    exact List.mem_cons_self

theorem Control.eq_of_isToken_texts {controls others : List Control}
    (h : List.Forall₂ Control.IsToken (controls.map Control.text) others) : others = controls := by
  have hself : List.Forall₂ Control.IsToken (controls.map Control.text) controls := by
    rw [List.forall₂_map_left_iff, List.forall₂_same]
    exact fun control _ => Control.isToken_text control
  have hunique : Relator.RightUnique Control.IsToken := fun _ _ _ ha hb => ha.unique hb
  exact List.right_unique_forall₂' hunique h hself

namespace Instruction

theorem IsQubit.eq_of_word {qubit other : Qubit} (h : IsQubit (qubitWord qubit) other) :
    other = qubit :=
  UInt64.toNat_inj.1 (Text.IsNumeral.eq_of_decimal h)

theorem IsCount.eq_of_decimal {count other : UInt32}
    (h : IsCount (Text.decimal count.toNat) other) : other = count :=
  UInt32.toNat_inj.1 (Text.IsNumeral.eq_of_decimal h)

theorem ControlFields.eq_of_words {controls others : List Control}
    (h : ControlFields (controlWords controls) others) : others = controls := by
  cases controls with
  | nil => cases h with
    | none => rfl
  | cons control controls =>
    cases h with
    | marked _ htokens => exact Control.eq_of_isToken_texts htokens

theorem TargetFields.eq_of_words {target other : Qubit} {controls others : List Control}
    (h : TargetFields (targetWords target controls) other others) :
    other = target ∧ others = controls := by
  cases h with
  | of ht hc => exact ⟨ht.eq_of_word, hc.eq_of_words⟩

theorem ControlFields.by_not_mem {tail : List String} {controls : List Control}
    (h : ControlFields tail controls) : "BY" ∉ tail := by
  cases h with
  | none => simp
  | marked _ htokens =>
    have hne : ∀ token ∈ _, token ≠ "BY" := Stateful.forall_mem_left htokens (by
      rintro token control ht rfl
      exact not_isToken_of_head (by decide) control ht)
    intro hmem
    obtain hif | hmem := List.mem_cons.1 hmem
    · exact absurd hif (by decide)
    · exact hne _ hmem rfl

theorem TargetFields.by_not_mem {fields : List String} {target : Qubit} {controls : List Control}
    (h : TargetFields fields target controls) : "BY" ∉ fields := by
  cases h with
  | of ht hc =>
    intro hmem
    obtain hat | hmem := List.mem_cons.1 hmem
    · exact absurd hat (by decide)
    obtain hfield | hmem := List.mem_cons.1 hmem
    · rw [← hfield] at ht
      have hnone : Text.word64? "BY".toList = none := by decide
      rw [Text.word64?_eq_some_iff.2 ht] at hnone
      cases hnone
    · exact hc.by_not_mem hmem

theorem append_cons_inj {α : Type} {a : α} {xs ys us vs : List α} (hx : a ∉ xs) (hy : a ∉ ys)
    (h : xs ++ a :: us = ys ++ a :: vs) : xs = ys ∧ us = vs := by
  induction xs generalizing ys with
  | nil =>
    cases ys with
    | nil => exact ⟨rfl, (List.cons.inj h).2⟩
    | cons y ys => exact absurd ((List.cons.inj h).1 ▸ List.mem_cons_self) hy
  | cons x xs ih =>
    cases ys with
    | nil => exact absurd ((List.cons.inj h).1 ▸ List.mem_cons_self) hx
    | cons y ys =>
      obtain ⟨rfl, htail⟩ := List.cons.inj h
      have hrest := ih (fun hm => hx (List.mem_cons_of_mem _ hm))
        (fun hm => hy (List.mem_cons_of_mem _ hm)) htail
      exact ⟨by rw [hrest.1], hrest.2⟩

theorem CoefficientFields.eq_of_append {front words branches : List String}
    {controls : List Control} {coefficients others : List Angle}
    (hfront : "BY" ∉ front) (hwords : "BY" ∉ words)
    (hu : ∀ angle ∈ coefficients, angle.Unambiguous)
    (hb : CoefficientFields .hash controls branches others)
    (h : words ++ coefficientWords coefficients = front ++ branches) :
    front = words ∧ others = coefficients := by
  cases hb with
  | of htokens _ =>
    obtain ⟨rfl, rfl⟩ := append_cons_inj hwords hfront h
    exact ⟨rfl, Angle.eq_of_isToken_texts hu htokens⟩

theorem Row.eq_of_bodyWords {op : Opcode} {instruction other : Instruction}
    (hrow : Row .hash op instruction.bodyWords other) (ho : instruction.opcode? = some op)
    (hu : ∀ angle ∈ instruction.angles, angle.Unambiguous)
    (hfree : instruction.freeTexts = []) : other = instruction := by
  have hunique {angle other : Angle} (hmem : angle ∈ instruction.angles)
      (h : Angle.IsToken .hash angle.text other) : other = angle := (hu angle hmem).unique other h
  cases instruction with
  | hadamard target controls =>
    cases ho
    cases hrow with
    | hadamard h =>
      obtain ⟨rfl, rfl⟩ := h.eq_of_words
      rfl
  | pauli axis target controls =>
    cases ho
    cases hrow with
    | pauli h =>
      obtain ⟨rfl, rfl⟩ := h.eq_of_words
      rfl
  | phase kind angle target controls =>
    cases ho
    cases hrow with
    | phase ha h =>
      obtain ⟨rfl, rfl⟩ := h.eq_of_words
      rw [hunique (by simp [angles]) ha]
  | rotation axis angle target controls =>
    cases ho
    cases hrow with
    | rotation ha h =>
      obtain ⟨rfl, rfl⟩ := h.eq_of_words
      rw [hunique (by simp [angles]) ha]
  | rotationVector x y z target controls =>
    cases ho
    cases hrow with
    | rotationVector hx hy hz h =>
      obtain ⟨rfl, rfl⟩ := h.eq_of_words
      rw [hunique (by simp [angles]) hx, hunique (by simp [angles]) hy,
        hunique (by simp [angles]) hz]
  | swap first second controls =>
    cases ho
    cases hrow with
    | swap h₁ h₂ hc => rw [h₁.eq_of_word, h₂.eq_of_word, hc.eq_of_words]
  | diagonal controls coefficients =>
    cases ho
    -- The row joins two lists; where they meet is found by the mark, not by `cases`.
    generalize hwords : bodyWords _ = fields at hrow
    cases hrow with
    | diagonal hc hb =>
      have hby := (controlFields_controlWords controls).by_not_mem
      obtain ⟨rfl, rfl⟩ := hb.eq_of_append hc.by_not_mem hby hu hwords
      rw [hc.eq_of_words]
  | multiplexor target controls coefficients =>
    cases ho
    generalize hwords : bodyWords _ = fields at hrow
    cases hrow with
    | multiplexor h _ hb =>
      have hby := (targetFields_targetWords target controls).by_not_mem
      obtain ⟨rfl, rfl⟩ := hb.eq_of_append h.by_not_mem hby hu hwords
      obtain ⟨rfl, rfl⟩ := h.eq_of_words
      rfl
  | measure kind target =>
    cases ho
    cases hrow with
    | measure hk ht => rw [UInt8.toNat_inj.1 (Text.IsNumeral.eq_of_decimal hk), ht.eq_of_word]
  | note text => cases hfree
  | print style => cases hfree
  | loopBegin id repetitions =>
    cases ho
    cases hrow with
    | loopBegin hi hr => rw [hi.eq_of_decimal, hr.eq_of_decimal]
  | loopEnd id =>
    cases ho
    cases hrow with
    | loopEnd hi => rw [hi.eq_of_decimal]
  | conditionBegin conditions =>
    cases ho
    generalize hwords : bodyWords _ = fields at hrow
    cases hrow with
    | conditionBegin _ _ h =>
      rw [← List.append_cancel_right hwords] at h
      rw [Control.eq_of_isToken_texts h]
  | conditionEnd =>
    cases ho
    cases hrow with
    | conditionEnd => rfl
  | foreign opcode fields => cases ho

/-- The line of the instruction is one line and can be read as this instruction only. -/
structure Unambiguous (instruction : Instruction) : Prop where
  known : instruction.isForeign = false
  angles : ∀ angle ∈ instruction.angles, angle.Unambiguous
  texts : ∀ text ∈ instruction.freeTexts, '\n' ∉ text.toList ∧ '\r' ∉ text.toList

theorem Unambiguous.not_mem_text {instruction : Instruction} (h : Unambiguous instruction)
    {c : Char} (hc : c = '\n' ∨ c = '\r') : c ∉ instruction.text.toList := by
  have hend : Text.isEnd c = true := by
    obtain rfl | rfl := hc <;> decide
  have hword : isWordChar c = false := by
    obtain rfl | rfl := hc <;> decide
  obtain ⟨op, ho⟩ := exists_opcode_of_not_foreign h.known
  intro hmem
  obtain hs | ⟨word, hw, hcw⟩ := Text.mem_of_mem_line hmem
  · obtain rfl | rfl := hc <;> exact absurd hs (by decide)
  obtain rfl | hw := List.mem_cons.1 hw
  · have key : ∀ x ∈ Opcode.all, '\n' ∉ x.name.toList ∧ '\r' ∉ x.name.toList := by decide
    have hop := key op (Opcode.mem_all op)
    rw [opcodeName_eq_name ho] at hcw
    obtain rfl | rfl := hc
    · exact hop.1 hcw
    · exact hop.2 hcw
  · obtain ⟨angle, hangle, rfl⟩ | hfree | hchars := mem_bodyWords hw
    · rw [(h.angles angle hangle).isEnd_eq_false c hcw] at hend
      cases hend
    · have htext := h.texts word hfree
      obtain rfl | rfl := hc
      · exact htext.1 hcw
      · exact htext.2 hcw
    · rw [hchars c hcw] at hword
      cases hword

theorem Unambiguous.tab_not_mem {instruction : Instruction} (h : Unambiguous instruction) :
    ∀ angle ∈ instruction.angles, '\t' ∉ angle.text.toList := by
  intro angle hangle hmem
  have hend := (h.angles angle hangle).isEnd_eq_false _ hmem
  exact absurd hend (by decide)

theorem Unambiguous.eq_of_row {op : Opcode} {instruction other : Instruction}
    (h : Unambiguous instruction) (ho : instruction.opcode? = some op)
    (hrow : Row .hash op (instruction.bodyWords.flatMap Text.fields) other) :
    other = instruction := by
  -- Only kept texts can hold tabs; without them the words are the fields.
  by_cases hfree : instruction.freeTexts = []
  · have htexts : ∀ text ∈ instruction.freeTexts, '\t' ∉ text.toList := by simp [hfree]
    rw [flatMap_bodyWords h.tab_not_mem htexts] at hrow
    exact hrow.eq_of_bodyWords ho h.angles hfree
  cases instruction with
  | note text =>
    cases ho
    cases hrow with
    | note => rw [intercalate_note]
  | print style =>
    cases ho
    generalize hwords : (bodyWords _).flatMap Text.fields = fields at hrow
    cases hrow with
    | @print other =>
      have hfields : Text.fields style = [other] := by
        rw [← hwords]
        exact (List.flatMap_singleton _ _).symm
      rw [← Text.line_fields style, hfields]
      simp [Text.line, Text.joined]
  | foreign opcode fields => cases ho
  | _ => exact absurd rfl hfree

theorem Unambiguous.eq_of_read {instruction other : Instruction} (h : Unambiguous instruction)
    (hread : read .hash instruction.text = .ok other) : other = instruction := by
  obtain ⟨op, ho⟩ := exists_opcode_of_not_foreign h.known
  have hname := opcodeName_eq_name ho
  have hfields := fields_text (hname ▸ tab_not_mem_opcode_name op)
  rw [hname] at hfields
  cases read_eq_ok_iff.1 hread with
  | known split row _ =>
    rw [(Text.isSplit_iff (by simp)).1 split] at hfields
    obtain ⟨hop, rfl⟩ := List.cons.inj hfields
    rw [Opcode.name_injective hop] at row
    exact h.eq_of_row ho row
  | foreign split _ unknown =>
    rw [(Text.isSplit_iff (by simp)).1 split] at hfields
    exact absurd (List.cons.inj hfields).1.symm (unknown op)

theorem Unambiguous.read_text_eq_ok_iff {instruction other : Instruction}
    (h : Unambiguous instruction) :
    read .hash instruction.text = .ok other ↔
      other = instruction ∧ WellFormed .hash instruction := by
  constructor
  · intro hread
    have heq := h.eq_of_read hread
    rw [heq] at hread
    exact ⟨heq, .of_read hread⟩
  · rintro ⟨rfl, hwell⟩
    exact hwell.read_text

theorem Unambiguous.wellFormed_iff {instruction : Instruction} (h : Unambiguous instruction) :
    WellFormed .hash instruction ↔
      instruction.HasShape ∧ instruction.qubitFields.Nodup ∧
        ∀ text, .literal text ∈ instruction.angles → Angle.isFiniteNumber text = true := by
  constructor
  · intro hwell
    refine ⟨hwell.shape, hwell.distinct, ?_⟩
    intro text hmem
    cases hwell.readsBack _ hmem with
    | literal hfinite => exact hfinite
  · rintro ⟨hshape, hdistinct, hfinite⟩
    refine ⟨hshape, hdistinct, ?_, h.tab_not_mem⟩
    intro angle hmem
    cases angle with
    | literal text => exact .literal (hfinite text hmem)
    | placeholder token => exact (h.angles _ hmem).legal token rfl

end Instruction

end CircuitScript
