import CircuitScript.Proofs.Circuit.TextBuilt
import CircuitScript.Proofs.Value
import Mathlib.Algebra.BigOperators.Group.List.Basic
import Mathlib.Algebra.Star.Basic
import Mathlib.Algebra.Star.Rat
import Mathlib.LinearAlgebra.Matrix.ConjTranspose
import Mathlib.LinearAlgebra.Matrix.Notation
import Mathlib.Tactic.FinCases
/-!
The adjoint of a circuit is the adjoint of what it computes. Gates are interpreted in a monoid with
a star, by their opcode, their qubits and the values of their angles alone.
-/
namespace CircuitScript

namespace Instruction

def isGate : Instruction → Bool
  | .hadamard .. | .pauli .. | .phase .. | .rotation .. | .rotationVector .. | .swap ..
  | .diagonal .. | .multiplexor .. => true
  | _ => false

def isComment : Instruction → Bool
  | .note _ | .print _ => true
  | _ => false

def values {K : Type*} [DivisionRing K] (symbols : SymbolValues K) (instruction : Instruction) :
    List K :=
  instruction.angles.map (Angle.value symbols)

end Instruction

/-- An interpretation of gates. It sees a line through opcode, qubits, controls and the values of
the angles; its laws are asked for the gates of readable lines only. -/
structure GateModel (M K : Type*) [Monoid M] [StarMul M] [DivisionRing K] where
  symbols : SymbolValues K
  gate : Opcode → List Qubit → List Control → List K → M
  negated : ∀ (op : Opcode) (instruction : Instruction), instruction.WellFormed .hash →
    instruction.isGate = true → instruction.opcode? = some op → instruction.angles ≠ [] →
    gate op instruction.targets instruction.controls ((instruction.values symbols).map Neg.neg) =
      star (gate op instruction.targets instruction.controls (instruction.values symbols))
  selfAdjoint : ∀ (op : Opcode) (instruction : Instruction), instruction.WellFormed .hash →
    instruction.isGate = true → instruction.opcode? = some op → instruction.angles = [] →
    star (gate op instruction.targets instruction.controls []) =
      gate op instruction.targets instruction.controls []

namespace GateModel

variable {M K : Type*} [Monoid M] [StarMul M] [DivisionRing K] (m : GateModel M K)

/-- Comments are the unit. Of other lines that are no gates nothing is said. -/
def eval (instruction : Instruction) : M :=
  match instruction.isGate, instruction.opcode? with
  | true, some op =>
    m.gate op instruction.targets instruction.controls (instruction.values m.symbols)
  | _, _ => 1

def run (instructions : List Instruction) : M := (instructions.map m.eval).prod

theorem eval_gate {instruction : Instruction} {op : Opcode} (hg : instruction.isGate = true)
    (ho : instruction.opcode? = some op) :
    m.eval instruction =
      m.gate op instruction.targets instruction.controls (instruction.values m.symbols) := by
  rw [eval, hg, ho]

theorem eval_comment {instruction : Instruction} (h : instruction.isComment = true) :
    m.eval instruction = 1 := by
  cases instruction with
  | note | print => rfl
  | _ => cases h

theorem isGate_mapAngles (f : Angle → Angle) (instruction : Instruction) :
    (instruction.mapAngles f).isGate = instruction.isGate := by
  cases instruction <;> rfl

theorem isComment_mapAngles (f : Angle → Angle) (instruction : Instruction) :
    (instruction.mapAngles f).isComment = instruction.isComment := by
  cases instruction <;> rfl

theorem isForeign_eq_false {instruction : Instruction}
    (h : instruction.isGate = true ∨ instruction.isComment = true) :
    instruction.isForeign = false := by
  cases instruction with
  | foreign => simp [Instruction.isGate, Instruction.isComment] at h
  | _ => rfl

theorem values_negated {instruction : Instruction} (h : instruction.WellFormed .hash) :
    (instruction.mapAngles Angle.negated).values m.symbols =
      (instruction.values m.symbols).map Neg.neg := by
  unfold Instruction.values
  rw [Instruction.angles_mapAngles, List.map_map, List.map_map]
  apply List.map_congr_left
  intro angle hmem
  exact Angle.value_negated m.symbols (h.readsBack angle hmem)

theorem eval_negated {instruction : Instruction} (h : instruction.WellFormed .hash)
    (hkind : instruction.isGate = true ∨ instruction.isComment = true) :
    m.eval (instruction.mapAngles Angle.negated) = star (m.eval instruction) := by
  obtain hg | hc := hkind
  · have hg' : (instruction.mapAngles Angle.negated).isGate = true := by
      rw [isGate_mapAngles]
      exact hg
    obtain ⟨op, ho⟩ := Instruction.exists_opcode_of_not_foreign (isForeign_eq_false (.inl hg))
    rw [m.eval_gate hg ho, m.eval_gate hg' ((Instruction.opcode?_mapAngles _ _).trans ho),
      Instruction.targets_mapAngles, Instruction.controls_mapAngles, m.values_negated h]
    -- Without angles the line stays as it is, and its gate is its own adjoint.
    by_cases hangles : instruction.angles = []
    · have hvalues : instruction.values m.symbols = [] := by
        rw [Instruction.values, hangles, List.map_nil]
      rw [hvalues, List.map_nil]
      exact (m.selfAdjoint op instruction h hg ho hangles).symm
    · exact m.negated op instruction h hg ho hangles
  · have hc' : (instruction.mapAngles Angle.negated).isComment = true := by
      rw [isComment_mapAngles]
      exact hc
    rw [m.eval_comment hc, m.eval_comment hc', star_one]

theorem run_reverse_negated {instructions : List Instruction}
    (hwell : ∀ i ∈ instructions, i.WellFormed .hash)
    (hkind : ∀ i ∈ instructions, i.isGate = true ∨ i.isComment = true) :
    m.run (instructions.reverse.map (Instruction.mapAngles Angle.negated)) =
      star (m.run instructions) := by
  unfold run
  induction instructions with
  | nil => simp
  | cons instruction rest ih =>
    have hhead := m.eval_negated (hwell _ List.mem_cons_self) (hkind _ List.mem_cons_self)
    have htail := ih (fun i hi => hwell i (List.mem_cons_of_mem _ hi))
      (fun i hi => hkind i (List.mem_cons_of_mem _ hi))
    rw [List.reverse_cons, List.map_append, List.map_append, List.prod_append, htail,
      List.map_cons, List.map_nil, List.map_cons, List.map_nil, List.prod_singleton, hhead,
      List.map_cons, List.prod_cons, star_mul]

end GateModel

namespace Circuit

/-- A circuit of gates and comments that was read from lines has an adjoint, and the adjoint
computes the adjoint of what the circuit computes. -/
theorem run_adjoint {M K : Type*} [Monoid M] [StarMul M] [DivisionRing K] (m : GateModel M K)
    {width : UInt64} {lines : List String} {c : Circuit}
    (hread : ofLines .hash width lines = .ok c)
    (hkind : ∀ i ∈ c.instructions, i.isGate = true ∨ i.isComment = true) :
    ∃ h, c.adjoint = .ok h ∧ m.run h.instructions = star (m.run c.instructions) := by
  refine ⟨_, adjoint_eq_ok_iff.2 ⟨?_, rfl⟩, ?_⟩
  · intro i hi
    exact GateModel.isForeign_eq_false (hkind i hi)
  · exact m.run_reverse_negated (sound_ofLines hread).wellFormed hkind

/-- Gates on a plane: a gate without angles exchanges the axes, one with angles turns a quarter and
stretches by the sum of its angles. -/
def planeModel : GateModel (Matrix (Fin 2) (Fin 2) ℚ) ℚ where
  symbols numbers _ _ := numbers.length
  gate _ _ _ values := if values = [] then !![0, 1; 1, 0] else !![0, values.sum; -values.sum, 0]
  negated op instruction _ _ _ hangles := by
    have hvalues : instruction.values (fun numbers _ _ => (numbers.length : ℚ)) ≠ [] := by
      unfold Instruction.values
      simpa using hangles
    rw [if_neg hvalues, if_neg (by simpa using hvalues), ← List.sum_neg]
    ext i j
    fin_cases i <;> fin_cases j <;> simp
  selfAdjoint _ _ _ _ _ _ := by
    rw [if_pos rfl]
    ext i j
    fin_cases i <;> fin_cases j <;> simp

theorem run_adjoint_plane :
    let c : Circuit := ⟨2, [.rotation .x (.literal "-90") 0 [], .hadamard 1 [], .note "turned"]⟩
    ofLines .hash 2 ["ROTX\t-90\tAT\t0", "HAD2\tAT\t1", "NOTA\tturned"] = .ok c ∧
      ∃ h, c.adjoint = .ok h ∧
        planeModel.run h.instructions = star (planeModel.run c.instructions) := by
  intro c
  have hread : ofLines .hash 2 ["ROTX\t-90\tAT\t0", "HAD2\tAT\t1", "NOTA\tturned"] = .ok c := by
    apply Stateful.eq_ok_of_toOption
    decide +kernel
  exact ⟨hread, run_adjoint planeModel hread (by decide)⟩

end Circuit

end CircuitScript
