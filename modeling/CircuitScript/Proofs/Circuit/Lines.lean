import CircuitScript.Circuit.Basic
import CircuitScript.Proofs.WellFormed
/-!
Circuits from lines: a circuit is read from lines exactly when each line is read as the instruction
of its place and every qubit exists.
-/
namespace CircuitScript.Circuit

open Stateful

def Within (width : UInt64) (instruction : Instruction) : Prop :=
  ∀ qubit ∈ instruction.qubitFields, qubit < width

def ReadsAs (grammar : PlaceholderGrammar) (width : UInt64) (line : String)
    (instruction : Instruction) : Prop :=
  Instruction.read grammar line = .ok instruction ∧ Within width instruction

section

variable {grammar : PlaceholderGrammar} {width : UInt64} {c d : Circuit} {line : String}
  {lines : List String} {instruction : Instruction}

theorem firstOutside?_eq_none_iff :
    firstOutside? width instruction = none ↔ Within width instruction := by
  unfold firstOutside? Within
  rw [Instruction.qubits_eq_qubitFields]
  simp

theorem result_eq_ok_iff {ε : Type} {left : Circuit × Except ε Unit} :
    result left = .ok d ↔ left = (d, .ok ()) := by
  obtain ⟨c, error | ⟨⟨⟩⟩⟩ := left <;> simp [result, Except.map]

theorem result_eq_error_iff {ε : Type} {left : Circuit × Except ε Unit} {error : ε} :
    result left = .error error ↔ ∃ d, left = (d, .error error) := by
  obtain ⟨c, error | ⟨⟨⟩⟩⟩ := left <;> simp [result, Except.map]

theorem push_eq_ok_iff :
    c.push instruction = .ok d ↔
      Within c.width instruction ∧ d = ⟨c.width, c.instructions ++ [instruction]⟩ := by
  rw [← firstOutside?_eq_none_iff, push, result_eq_ok_iff, pushInPlace]
  cases firstOutside? c.width instruction with
  | some qubit => simp
  | none => simp [extended, eq_comm]

theorem pushLine_eq_ok_iff :
    c.pushLine grammar line = .ok d ↔
      ∃ instruction, ReadsAs grammar c.width line instruction ∧
        d = ⟨c.width, c.instructions ++ [instruction]⟩ := by
  unfold pushLine ReadsAs
  simp only [except_bind_eq_ok_iff, mapError_eq_ok_iff, push_eq_ok_iff, and_assoc]

theorem pushLines_eq_ok_iff :
    c.pushLines grammar lines = .ok d ↔
      ∃ added, List.Forall₂ (ReadsAs grammar c.width) lines added ∧
        d = ⟨c.width, c.instructions ++ added⟩ := by
  induction lines generalizing c with
  | nil =>
    rw [pushLines]
    constructor
    · rintro ⟨⟩
      exact ⟨[], .nil, by rw [List.append_nil]⟩
    · rintro ⟨added, ⟨⟩, rfl⟩
      rw [List.append_nil]
  | cons line lines ih =>
    rw [pushLines, except_bind_eq_ok_iff]
    constructor
    · rintro ⟨pushed, hline, h⟩
      obtain ⟨instruction, hread, rfl⟩ := pushLine_eq_ok_iff.1 hline
      obtain ⟨added, hadded, rfl⟩ := ih.1 h
      exact ⟨instruction :: added, .cons hread hadded, by rw [List.append_assoc]; rfl⟩
    · rintro ⟨_, h, rfl⟩
      cases h with
      | @cons _ instruction _ added hread hadded =>
        refine ⟨_, pushLine_eq_ok_iff.2 ⟨instruction, hread, rfl⟩, ih.2 ⟨added, hadded, ?_⟩⟩
        rw [List.append_assoc]
        rfl

theorem ofLines_eq_ok_iff :
    ofLines grammar width lines = .ok c ↔
      c.width = width ∧ List.Forall₂ (ReadsAs grammar width) lines c.instructions := by
  unfold ofLines
  rw [pushLines_eq_ok_iff]
  constructor
  · rintro ⟨added, h, rfl⟩
    exact ⟨rfl, h⟩
  · rintro ⟨rfl, h⟩
    exact ⟨c.instructions, h, rfl⟩

theorem ofLines_lines (hwell : ∀ i ∈ c.instructions, i.WellFormed grammar)
    (hin : ∀ i ∈ c.instructions, Within c.width i) :
    ofLines grammar c.width c.lines = .ok c := by
  rw [ofLines_eq_ok_iff]
  refine ⟨rfl, ?_⟩
  unfold lines
  rw [List.forall₂_map_left_iff, List.forall₂_same]
  intro i hi
  exact ⟨(hwell i hi).read_text, hin i hi⟩

end

end CircuitScript.Circuit
