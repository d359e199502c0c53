import CircuitScript.Proofs.Circuit.SharedSink
import CircuitScript.Proofs.OneLine
/-!
What a building operation writes. A call gives its writer one line, free of line ends and not blank,
or it fails and the writer stays as it was; so what is read back for a circuit is the line that was
written, and no call is ever refused for the number of its lines.
-/
namespace CircuitScript

open Stateful

variable {σ : Type}

def Writer.english : Writer String where
  write text line := (.ok (), text ++ line.push Text.lineFeed)

namespace Operation

def writeThrough (w : Writer σ) (state : σ) (op : Operation)
    (parameters : List Parameter) : Except CircuitError Unit × σ :=
  match op.call parameters with
  | .error error => (.error error, state)
  | .ok instruction => w.write state instruction.text

theorem write_sink (w : Writer σ) (state : σ) (op : Operation)
    (parameters : List Parameter) :
    op.write parameters w.sink state =
      (op.writeThrough w state parameters).1.map fun _ =>
        (op.writeThrough w state parameters).2 := by
  unfold write writeThrough
  cases op.call parameters <;> rfl

end Operation

def Fault.IsLineCount : Fault → Prop
  | .notOneLine _ => True
  | _ => False

namespace Operation

variable {α β : Type}

/-- A reader of parameters whose reasons are about the parameters, not about what is written. -/
def BlamesParameters (reader : ParameterReader α) : Prop :=
  ∀ parameters fault, reader parameters = .error fault → ¬fault.IsLineCount

theorem blamesParameters_pure (a : α) : BlamesParameters (pure a) := by
  intro parameters fault h
  cases h

theorem blamesParameters_throw {fault : Fault} (h : ¬fault.IsLineCount) :
    BlamesParameters (throw fault : ParameterReader α) := by
  rintro parameters _ ⟨⟩
  exact h

theorem BlamesParameters.bind {reader : ParameterReader α} {next : α → ParameterReader β}
    (h : BlamesParameters reader) (hn : ∀ a, BlamesParameters (next a)) :
    BlamesParameters (reader >>= next) := by
  intro parameters fault hfault
  obtain hfault | ⟨a, rest, -, hfault⟩ := bind_eq_error_iff.1 hfault
  · exact h _ _ hfault
  · exact hn a _ _ hfault

theorem blamesParameters_lift {x : Except Fault α}
    (h : ∀ fault, x = .error fault → ¬fault.IsLineCount) :
    BlamesParameters (liftM x) := by
  intro parameters fault hfault
  cases x with
  | ok a => cases hfault
  | error other =>
    cases hfault
    exact h _ rfl

variable (count : Nat)

theorem blamesParameters_next (what : String) : BlamesParameters (nextParameter count what) := by
  rintro (_ | ⟨parameter, rest⟩) fault ⟨⟩
  exact id

theorem blamesParameters_takeQubit : BlamesParameters (takeQubit count) := by
  refine (blamesParameters_next count _).bind fun parameter => ?_
  cases parameter with
  | int value =>
    dsimp only
    split
    · exact blamesParameters_throw id
    · exact blamesParameters_pure _
  | _ => exact blamesParameters_throw id

theorem blamesParameters_takeInt : BlamesParameters (takeInt count) := by
  refine (blamesParameters_next count _).bind fun parameter => ?_
  cases parameter with
  | int value => exact blamesParameters_pure _
  | _ => exact blamesParameters_throw id

theorem blamesParameters_takeCount (what : String) : BlamesParameters (takeCount count what) := by
  refine (blamesParameters_next count _).bind fun parameter => ?_
  cases parameter with
  | int value =>
    dsimp only
    split
    · exact blamesParameters_pure _
    · exact blamesParameters_throw id
  | _ => exact blamesParameters_throw id

theorem blamesParameters_takeText : BlamesParameters (takeText count) := by
  refine (blamesParameters_next count _).bind fun parameter => ?_
  cases parameter with
  | text value =>
    dsimp only
    split
    · exact blamesParameters_throw id
    · exact blamesParameters_pure _
  | _ => exact blamesParameters_throw id

theorem blamesParameters_takeOptionalFlag : BlamesParameters takeOptionalFlag := by
  rintro (_ | ⟨_ | _ | _ | _ | _, rest⟩) fault ⟨⟩ <;> exact id

theorem not_isLineCount_of_angleOf {parameter : Parameter} {fault : Fault}
    (h : angleOf parameter = .error fault) : ¬fault.IsLineCount := by
  cases parameter with
  | float value =>
    simp only [angleOf] at h
    split at h
    · cases h
    · cases h
      exact id
  | text value =>
    simp only [angleOf, Angle.ofToken] at h
    split at h
    · cases h
    · cases h
      exact id
  | _ =>
    cases h
    try exact id

theorem blamesParameters_takeAngle : BlamesParameters (takeAngle count) :=
  (blamesParameters_next count _).bind fun _ =>
    blamesParameters_lift fun _ => not_isLineCount_of_angleOf

theorem blamesParameters_takeList (what : String) : BlamesParameters (takeList count what) := by
  refine (blamesParameters_next count _).bind fun parameter => ?_
  cases parameter with
  | list items => exact blamesParameters_pure _
  | _ => exact blamesParameters_throw id

theorem blamesParameters_mapM {read : Parameter → Except Fault α}
    (h : ∀ parameter fault, read parameter = .error fault → ¬fault.IsLineCount)
    (items : List Parameter) :
    BlamesParameters (liftM (items.mapM read) : ParameterReader (List α)) := by
  apply blamesParameters_lift
  intro fault hfault
  obtain ⟨parameter, -, hfault⟩ := mapM_eq_error hfault
  exact h parameter fault hfault

theorem blamesParameters_takeAngles : BlamesParameters (takeAngles count) := by
  refine (blamesParameters_takeList count _).bind fun items => ?_
  dsimp only
  split
  · exact (blamesParameters_throw id).bind fun _ =>
      blamesParameters_mapM (fun _ _ => not_isLineCount_of_angleOf) items
  · exact blamesParameters_mapM (fun _ _ => not_isLineCount_of_angleOf) items

theorem blamesParameters_takeThreeAngles : BlamesParameters (takeThreeAngles count) := by
  refine (blamesParameters_takeAngles count).bind fun angles => ?_
  split
  · exact blamesParameters_pure _
  · exact blamesParameters_throw id

theorem not_isLineCount_of_controlOf {parameter : Parameter} {fault : Fault}
    (h : controlOf parameter = .error fault) : ¬fault.IsLineCount := by
  cases parameter with
  | int value =>
    simp only [controlOf] at h
    split at h
    · cases h
      exact id
    · cases h
  | text value =>
    simp only [controlOf, Control.ofToken] at h
    split at h
    · cases h
    · cases h
      exact id
  | _ =>
    cases h
    exact id

theorem blamesParameters_takeControls : BlamesParameters (takeControls count) :=
  (blamesParameters_takeList count _).bind fun items =>
    blamesParameters_mapM (fun _ _ => not_isLineCount_of_controlOf) items

theorem blamesParameters_finish : BlamesParameters (finish count) := by
  rintro (_ | ⟨parameter, rest⟩) fault ⟨⟩
  exact id

theorem BlamesParameters.finished {reader : ParameterReader α} (h : BlamesParameters reader) :
    BlamesParameters (do finish count; reader) :=
  (blamesParameters_finish count).bind fun _ => h

theorem blamesParameters_readCall (op : Operation) : BlamesParameters (readCall count op) := by
  have hfinish (instruction : Instruction) :
      BlamesParameters (do finish count; pure instruction) :=
    (blamesParameters_pure instruction).finished count
  have hqubit := blamesParameters_takeQubit count
  cases op with
  | hadamard | pauli => exact hqubit.bind fun _ => hfinish _
  | controlledX | controlledZ | swap => exact hqubit.bind fun _ => hqubit.bind fun _ => hfinish _
  | rotation | phase =>
    exact hqubit.bind fun _ => (blamesParameters_takeAngle count).bind fun _ => hfinish _
  | rotationVector =>
    exact hqubit.bind fun _ => (blamesParameters_takeThreeAngles count).bind fun _ => hfinish _
  | s | t => exact hqubit.bind fun _ => blamesParameters_takeOptionalFlag.bind fun _ => hfinish _
  | measure =>
    refine hqubit.bind fun _ => (blamesParameters_takeInt count).bind fun kind => ?_
    dsimp only
    split
    · exact (blamesParameters_throw id).bind fun _ => hfinish _
    · exact hfinish _
  | note | print => exact (blamesParameters_takeText count).bind fun _ => hfinish _
  | loopBegin =>
    exact (blamesParameters_takeCount count _).bind fun _ =>
      (blamesParameters_takeCount count _).bind fun _ => hfinish _
  | loopEnd => exact (blamesParameters_takeCount count _).bind fun _ => hfinish _
  | conditionBegin =>
    refine (blamesParameters_takeControls count).bind fun _ => BlamesParameters.finished count ?_
    split
    · exact blamesParameters_pure _
    · exact blamesParameters_throw id
  | conditionEnd => exact hfinish _
  | diagonal =>
    exact (blamesParameters_takeControls count).bind fun _ =>
      (blamesParameters_takeAngles count).bind fun _ => hfinish _
  | multiplexor =>
    refine hqubit.bind fun _ => (blamesParameters_takeControls count).bind fun _ =>
      (blamesParameters_takeAngles count).bind fun _ => BlamesParameters.finished count ?_
    split
    · exact (blamesParameters_throw id).bind fun _ => blamesParameters_pure _
    · exact blamesParameters_pure _

variable {op : Operation} {parameters : List Parameter}

theorem not_isLineCount_of_call {opcode : String} {fault : Fault} {line : Option String}
    (h : op.call parameters = .error (.malformed opcode fault line)) : ¬fault.IsLineCount := by
  unfold call at h
  split at h
  · cases h
  · rename_i hread
    cases h
    exact blamesParameters_readCall _ op _ _ hread

theorem build_ne_notOneLine (width : UInt64) (op : Operation) (parameters : List Parameter)
    (opcode written : String) :
    Circuit.build width op.name parameters ≠
      .error (.malformed opcode (.notOneLine written) none) := by
  intro h
  obtain ⟨instruction, hd⟩ | ⟨fault, hcall⟩ := op.call_eq_ok_or_malformed parameters
  · by_cases hs : instruction.Sayable
    · rw [Circuit.build_of_sayable width hd hs, Circuit.checked] at h
      split at h <;> cases h
    · obtain ⟨fault, hbuild⟩ := Circuit.build_of_not_sayable width hd hs
      rw [hbuild] at h
      cases h
  · rw [Circuit.build_of_call_error width hcall] at h
    cases h
    exact not_isLineCount_of_call hcall trivial

/-- A call gives the text one line, which is neither blank nor broken, or it gives an error and
nothing. A circuit is given that same error, or what its reader makes of that same line; the error
for another number of lines never comes up. -/
theorem writes_one_line (op : Operation) (parameters : List Parameter) :
    (∀ text, op.write parameters LineSink.english text =
      (op.writeThrough .english text parameters).1.map fun _ =>
        (op.writeThrough .english text parameters).2) ∧
    ((∃ error, (∀ text, op.writeThrough .english text parameters = (.error error, text)) ∧
        ∀ width, Circuit.build width op.name parameters = .error error) ∨
      ∃ line : String, Text.isBlank line.toList = false ∧ '\n' ∉ line.toList ∧
        '\r' ∉ line.toList ∧
        (∀ text, op.writeThrough .english text parameters = (.ok (), text ++ line.push '\n')) ∧
        ∀ width, Circuit.build width op.name parameters =
          (Instruction.read .hash line).bind (Circuit.checked width)) ∧
    ∀ width opcode written, Circuit.build width op.name parameters ≠
      .error (.malformed opcode (.notOneLine written) none) := by
  refine ⟨fun text => write_sink .english text op parameters, ?_,
    fun width => build_ne_notOneLine width op parameters⟩
  obtain ⟨instruction, hd⟩ | ⟨fault, hcall⟩ := op.call_eq_ok_or_malformed parameters
  · right
    have hline := hd.unambiguous.significant_text
    refine ⟨instruction.text, hline.isBlank_eq, hline.lineFeed_not_mem,
      hd.unambiguous.not_mem_text (.inr rfl), fun text => ?_,
      fun width => Circuit.build_of_denotes width hd⟩
    rw [writeThrough, call_eq_ok_iff.2 hd]
    rfl
  · left
    refine ⟨_, fun text => ?_, fun width => Circuit.build_of_call_error width hcall⟩
    rw [writeThrough, hcall]

end Operation

end CircuitScript
