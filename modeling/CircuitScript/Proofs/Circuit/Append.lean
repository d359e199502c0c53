import CircuitScript.Circuit.Append
import CircuitScript.Proofs.Circuit.Lines
import CircuitScript.Proofs.Denotation
import CircuitScript.Proofs.ReadBack
/-!
Appending by name adds exactly the instruction that the call denotes. On its way the instruction is
written as a line and read back; the detour changes nothing and refuses what no line can say.
-/
namespace CircuitScript

open Stateful

namespace Operation

theorem isAngle_unambiguous {p : Parameter} {angle : Angle} (h : p.IsAngle angle) :
    angle.Unambiguous := by
  cases h with
  | int value => exact Angle.unambiguous_ofRadians _
  | float h => exact Angle.unambiguous_ofRadians _
  | text h => exact h.unambiguous

theorem isAngles_unambiguous {p : Parameter} {angles : List Angle} (h : p.IsAngles angles) :
    ∀ angle ∈ angles, angle.Unambiguous := by
  obtain ⟨items, -, -, h⟩ := h
  exact forall_mem_right h fun _ _ ha => isAngle_unambiguous ha

theorem turn_unambiguous {text : String} (h : text ∈ ["90", "-90", "45", "-45"]) :
    (Angle.literal text).Unambiguous := by
  apply Angle.unambiguous_literal
  have hchars : ∀ turn ∈ ["90", "-90", "45", "-45"],
      turn.toList.all Decimal.isFormatChar = true := by decide
  exact List.all_eq_true.1 (hchars text h)

variable {op : Operation} {parameters : List Parameter} {instruction : Instruction}

theorem unambiguous_of_angle {angle : Angle} (hknown : instruction.isForeign = false)
    (hangles : instruction.angles = [angle]) (hfree : instruction.freeTexts = [])
    (h : angle.Unambiguous) : instruction.Unambiguous where
  known := hknown
  angles other hmem := by
    rw [hangles] at hmem
    rw [List.mem_singleton.1 hmem]
    exact h
  texts text hmem := by
    rw [hfree] at hmem
    cases hmem

theorem Denotes.unambiguous (h : Denotes op parameters instruction) :
    instruction.Unambiguous := by
  cases h with
  | rotation _ ha | phase _ ha => exact unambiguous_of_angle rfl rfl rfl (isAngle_unambiguous ha)
  | @s _ _ _ dagger _ _ =>
    have hturn : (if dagger then "-90" else "90") ∈ ["90", "-90", "45", "-45"] := by
      cases dagger <;> decide
    exact unambiguous_of_angle rfl rfl rfl (turn_unambiguous hturn)
  | @t _ _ _ dagger _ _ =>
    have hturn : (if dagger then "-45" else "45") ∈ ["90", "-90", "45", "-45"] := by
      cases dagger <;> decide
    exact unambiguous_of_angle rfl rfl rfl (turn_unambiguous hturn)
  | rotationVector _ ha => exact ⟨rfl, isAngles_unambiguous ha, by simp [Instruction.freeTexts]⟩
  | diagonal _ ha => exact ⟨rfl, isAngles_unambiguous ha, by simp [Instruction.freeTexts]⟩
  | multiplexor _ _ _ ha => exact ⟨rfl, isAngles_unambiguous ha, by simp [Instruction.freeTexts]⟩
  | note h | print h =>
    refine ⟨rfl, by simp [Instruction.angles], ?_⟩
    intro text hmem
    rw [List.mem_singleton.1 hmem]
    exact h.2
  | _ => exact ⟨rfl, by simp [Instruction.angles], by simp [Instruction.freeTexts]⟩

end Operation

namespace Instruction

def HasBranches : Instruction → Prop
  | .diagonal controls coefficients | .multiplexor _ controls coefficients =>
    coefficients.length = branchCount controls
  | _ => True

def HasPlainStyle : Instruction → Prop
  | .print style => '\t' ∉ style.toList
  | _ => True

/-- What decoding the parameters leaves open: whether the instruction can be said by a line. -/
structure Sayable (instruction : Instruction) : Prop where
  distinct : instruction.qubitFields.Nodup
  branches : instruction.HasBranches
  style : instruction.HasPlainStyle
  finite : ∀ text, .literal text ∈ instruction.angles → Angle.isFiniteNumber text = true

end Instruction

namespace Operation

variable {op : Operation} {parameters : List Parameter} {instruction : Instruction}

theorem Denotes.hasShape_iff (h : Denotes op parameters instruction) :
    instruction.HasShape ↔ instruction.HasBranches ∧ instruction.HasPlainStyle := by
  cases h with
  | diagonal => exact (and_true _).symm.to_iff
  | multiplexor _ _ hne _ =>
    constructor
    · intro hshape
      exact ⟨hshape.2, trivial⟩
    · intro hboth
      exact ⟨hne, hboth.1⟩
  | print => exact (true_and _).symm.to_iff
  | measure _ hk =>
    obtain ⟨_, -, -, hle⟩ := hk
    exact ⟨fun _ => ⟨trivial, trivial⟩, fun _ => hle⟩
  | conditionBegin _ hne hplain => exact ⟨fun _ => ⟨trivial, trivial⟩, fun _ => ⟨hne, hplain⟩⟩
  | _ => exact ⟨fun _ => ⟨trivial, trivial⟩, fun _ => trivial⟩

theorem Denotes.wellFormed_iff (h : Denotes op parameters instruction) :
    instruction.WellFormed .hash ↔ instruction.Sayable := by
  rw [h.unambiguous.wellFormed_iff, h.hasShape_iff]
  constructor
  · rintro ⟨⟨hbranches, hstyle⟩, hdistinct, hfinite⟩
    exact ⟨hdistinct, hbranches, hstyle, hfinite⟩
  · rintro ⟨hdistinct, hbranches, hstyle, hfinite⟩
    exact ⟨⟨hbranches, hstyle⟩, hdistinct, hfinite⟩

theorem named_eq_ok_iff {name : String} : named name = .ok op ↔ op.name = name := by
  unfold named
  constructor
  · intro h
    split at h
    · rename_i hname
      cases h
      exact name_of_ofName? hname
    · cases h
  · rintro rfl
    rw [ofName?_name]

theorem named_unknown {name : String} (h : ∀ op : Operation, op.name ≠ name) :
    named name = .error (.unknownOperation name) := by
  unfold named
  cases hname : ofName? name with
  | some op => exact absurd (name_of_ofName? hname) (h op)
  | none => rfl

end Operation

namespace Circuit

variable {c d : Circuit} {op : Operation} {name : String} {parameters : List Parameter}
  {instruction : Instruction}

theorem lines_written (h : instruction.Unambiguous) :
    Text.lines ("" ++ instruction.text.push Text.lineFeed) = [instruction.text] := by
  rw [String.empty_append]
  exact Text.lines_push_lineFeed (h.not_mem_text (.inl rfl)) (h.not_mem_text (.inr rfl))

def checked (width : UInt64) (instruction : Instruction) : Except CircuitError Instruction :=
  match firstOutside? width instruction with
  | some qubit => .error (.qubitOutOfRange qubit width (some instruction.text))
  | none => .ok instruction

theorem build_of_denotes (width : UInt64) (h : op.Denotes parameters instruction) :
    build width op.name parameters =
      (Instruction.read .hash instruction.text).bind (checked width) := by
  have hcall := Operation.call_eq_ok_iff.2 h
  have hwritten : op.write parameters LineSink.english "" =
      .ok ("" ++ instruction.text.push Text.lineFeed) := by
    rw [Operation.write, hcall]
    rfl
  unfold build
  rw [Operation.named_eq_ok_iff.2 rfl]
  simp only [bind, Except.bind, hwritten, lines_written h.unambiguous]
  rfl

theorem build_of_unknown (width : UInt64) (h : ∀ op : Operation, op.name ≠ name) :
    build width name parameters = .error (.unknownOperation name) := by
  unfold build
  rw [Operation.named_unknown h]
  rfl

theorem build_of_call_error (width : UInt64) {error : CircuitError}
    (h : op.call parameters = .error error) :
    build width op.name parameters = .error error := by
  unfold build
  rw [Operation.named_eq_ok_iff.2 rfl]
  change (op.write parameters LineSink.english "" >>= _) = _
  rw [Operation.write, h]
  rfl

theorem build_of_sayable (width : UInt64) (h : op.Denotes parameters instruction)
    (hs : instruction.Sayable) :
    build width op.name parameters = checked width instruction := by
  have hwell := h.wellFormed_iff.2 hs
  rw [build_of_denotes width h, hwell.read_text]
  rfl

theorem firstField_text (h : instruction.Unambiguous) :
    Instruction.firstField instruction.text = instruction.opcodeName := by
  obtain ⟨opcode, ho⟩ := Instruction.exists_opcode_of_not_foreign h.known
  have htab : '\t' ∉ instruction.opcodeName.toList := by
    rw [Instruction.opcodeName_eq_name ho]
    exact Instruction.tab_not_mem_opcode_name opcode
  rw [Instruction.firstField, Instruction.fields_text htab, List.headD_cons]

theorem build_of_not_sayable (width : UInt64) (h : op.Denotes parameters instruction)
    (hs : ¬instruction.Sayable) :
    ∃ fault, build width op.name parameters =
      .error (.malformed instruction.opcodeName fault (some instruction.text)) := by
  -- A line that is read would be read as the instruction, which no line can say.
  have hrefused : ¬∃ other, Instruction.Line .hash instruction.text other := by
    rintro ⟨other, hline⟩
    have hread := h.unambiguous.read_text_eq_ok_iff.1 hline.read_eq_ok
    exact hs (h.wellFormed_iff.1 hread.2)
  obtain hline | ⟨fault, herror⟩ := Instruction.line_or_malformed .hash instruction.text
  · exact absurd hline hrefused
  · rw [firstField_text h.unambiguous] at herror
    refine ⟨fault, ?_⟩
    rw [build_of_denotes width h, herror]
    rfl

/-- Why a named call adds nothing to a circuit of this width. The reasons come in the order in
which they are looked for, each with what the earlier ones have left. -/
inductive Refusal (width : UInt64) (name : String) (parameters : List Parameter) :
    CircuitError → Prop
  | operation (h : ∀ op : Operation, op.name ≠ name) :
      Refusal width name parameters (.unknownOperation name)
  | parameters {op : Operation} {fault : Fault} (hname : op.name = name)
      (h : ∀ instruction, ¬op.Denotes parameters instruction) :
      Refusal width name parameters (.malformed name fault none)
  | line {op : Operation} {instruction : Instruction} {fault : Fault} (hname : op.name = name)
      (hd : op.Denotes parameters instruction) (h : ¬instruction.Sayable) :
      Refusal width name parameters
        (.malformed instruction.opcodeName fault (some instruction.text))
  | qubit {op : Operation} {instruction : Instruction} {qubit : Qubit} (hname : op.name = name)
      (hd : op.Denotes parameters instruction) (hs : instruction.Sayable)
      (h : instruction.qubitFields.find? (width ≤ ·) = some qubit) :
      Refusal width name parameters (.qubitOutOfRange qubit width (some instruction.text))

theorem build_cases (width : UInt64) (name : String) (parameters : List Parameter) :
    (∃ (op : Operation) (instruction : Instruction), op.name = name ∧
        op.Denotes parameters instruction ∧ instruction.Sayable ∧ Within width instruction ∧
        build width name parameters = .ok instruction) ∨
      ∃ error, build width name parameters = .error error ∧
        Refusal width name parameters error := by
  by_cases hknown : ∃ op : Operation, op.name = name
  · obtain ⟨op, rfl⟩ := hknown
    obtain ⟨instruction, hd⟩ | ⟨fault, hcall⟩ := op.call_eq_ok_or_malformed parameters
    · by_cases hs : instruction.Sayable
      · have hbuild := build_of_sayable width hd hs
        unfold checked at hbuild
        cases hq : firstOutside? width instruction with
        | none =>
          rw [hq] at hbuild
          exact .inl ⟨op, instruction, rfl, hd, hs, firstOutside?_eq_none_iff.1 hq, hbuild⟩
        | some qubit =>
          rw [hq] at hbuild
          rw [firstOutside?, Instruction.qubits_eq_qubitFields] at hq
          exact .inr ⟨_, hbuild, .qubit rfl hd hs hq⟩
      · obtain ⟨fault, hbuild⟩ := build_of_not_sayable width hd hs
        exact .inr ⟨_, hbuild, .line rfl hd hs⟩
    · have hnot : ∀ instruction, ¬op.Denotes parameters instruction := by
        intro instruction hd
        rw [Operation.call_eq_ok_iff.2 hd] at hcall
        cases hcall
      exact .inr ⟨_, build_of_call_error width hcall, .parameters rfl hnot⟩
  · have hunknown : ∀ op : Operation, op.name ≠ name := fun op hname => hknown ⟨op, hname⟩
    exact .inr ⟨_, build_of_unknown width hunknown, .operation hunknown⟩

theorem appendInPlace_of_build (h : build c.width name parameters = .ok instruction) :
    c.appendInPlace name parameters = (c.extended [instruction], .ok ()) := by
  rw [appendInPlace, h]

theorem appendInPlace_of_build_error {error : CircuitError}
    (h : build c.width name parameters = .error error) :
    c.appendInPlace name parameters = (c, .error error) := by
  rw [appendInPlace, h]

theorem append_eq_ok_iff_build :
    c.append name parameters = .ok d ↔
      ∃ instruction, build c.width name parameters = .ok instruction ∧
        d = ⟨c.width, c.instructions ++ [instruction]⟩ := by
  rw [append, result_eq_ok_iff]
  cases hbuild : build c.width name parameters with
  | error error => simp [appendInPlace_of_build_error hbuild]
  | ok instruction => simp [appendInPlace_of_build hbuild, extended, eq_comm]

theorem append_of_build_error {error : CircuitError}
    (h : build c.width name parameters = .error error) :
    c.append name parameters = .error error := by
  rw [append, appendInPlace_of_build_error h]
  rfl

/-- A named call succeeds exactly when it denotes an instruction that a line can say and whose
qubits exist, and then it adds this instruction. Any other call ends with the reason and leaves the
circuit as it was. -/
theorem append_adds_denoted (c : Circuit) (name : String) (parameters : List Parameter) :
    (∀ d, c.append name parameters = .ok d ↔
      ∃ (op : Operation) (instruction : Instruction), op.name = name ∧
        op.Denotes parameters instruction ∧ instruction.Sayable ∧
        (∀ qubit ∈ instruction.qubitFields, qubit < c.width) ∧
        d = ⟨c.width, c.instructions ++ [instruction]⟩) ∧
    (∀ d, c.append name parameters = .ok d → c.appendInPlace name parameters = (d, .ok ())) ∧
    ∀ error, c.append name parameters = .error error →
      c.appendInPlace name parameters = (c, .error error) ∧
        Refusal c.width name parameters error := by
  refine ⟨?_, fun d happend => result_eq_ok_iff.1 happend, ?_⟩
  · intro d
    rw [append_eq_ok_iff_build]
    constructor
    · rintro ⟨instruction, hbuild, hd⟩
      obtain ⟨op, other, hname, hdenotes, hs, hin, hother⟩ | ⟨error, herror, -⟩ :=
        build_cases c.width name parameters
      · rw [hother] at hbuild
        cases hbuild
        exact ⟨op, _, hname, hdenotes, hs, hin, hd⟩
      · rw [herror] at hbuild
        cases hbuild
    · rintro ⟨op, instruction, rfl, hdenotes, hs, hin, hd⟩
      refine ⟨instruction, ?_, hd⟩
      rw [build_of_sayable c.width hdenotes hs, checked, firstOutside?_eq_none_iff.2 hin]
  · intro error herror
    obtain ⟨op, instruction, -, -, -, -, hbuild⟩ | ⟨other, hbuild, hrefusal⟩ :=
      build_cases c.width name parameters
    · have hok := append_eq_ok_iff_build.2 ⟨instruction, hbuild, rfl⟩
      rw [hok] at herror
      cases herror
    · rw [append_of_build_error hbuild] at herror
      cases herror
      exact ⟨appendInPlace_of_build_error hbuild, hrefusal⟩

end Circuit

end CircuitScript
