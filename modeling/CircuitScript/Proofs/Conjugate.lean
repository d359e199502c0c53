import CircuitScript.Instruction.Conjugate
import CircuitScript.Proofs.WellFormed
/-!
What changing the angles of an instruction leaves alone, and that the conjugate of a line that is
read is a line that is read.
-/
namespace CircuitScript

theorem map_eq_self_iff {α : Type} {f : α → α} {items : List α} :
    items.map f = items ↔ ∀ item ∈ items, f item = item := by
  have h := List.map_inj_left (l := items) (f := f) (g := id)
  rwa [List.map_id] at h

namespace Instruction

variable {instruction : Instruction}

@[simp] theorem angles_mapAngles (f : Angle → Angle) (instruction : Instruction) :
    (instruction.mapAngles f).angles = instruction.angles.map f := by
  cases instruction <;> rfl

@[simp] theorem opcode?_mapAngles (f : Angle → Angle) (instruction : Instruction) :
    (instruction.mapAngles f).opcode? = instruction.opcode? := by
  cases instruction <;> rfl

@[simp] theorem targets_mapAngles (f : Angle → Angle) (instruction : Instruction) :
    (instruction.mapAngles f).targets = instruction.targets := by
  cases instruction <;> rfl

@[simp] theorem controls_mapAngles (f : Angle → Angle) (instruction : Instruction) :
    (instruction.mapAngles f).controls = instruction.controls := by
  cases instruction <;> rfl

@[simp] theorem qubitFields_mapAngles (f : Angle → Angle) (instruction : Instruction) :
    (instruction.mapAngles f).qubitFields = instruction.qubitFields := by
  cases instruction <;> rfl

@[simp] theorem isForeign_mapAngles (f : Angle → Angle) (instruction : Instruction) :
    (instruction.mapAngles f).isForeign = instruction.isForeign := by
  cases instruction <;> rfl

@[simp] theorem mapAngles_mapAngles (f g : Angle → Angle) (instruction : Instruction) :
    (instruction.mapAngles f).mapAngles g = instruction.mapAngles (g ∘ f) := by
  cases instruction <;> simp [mapAngles]

theorem mapAngles_congr {f g : Angle → Angle} (h : ∀ angle ∈ instruction.angles, f angle = g angle) :
    instruction.mapAngles f = instruction.mapAngles g := by
  cases instruction <;> simp_all [mapAngles, angles]

theorem mapAngles_eq_self_iff {f : Angle → Angle} :
    instruction.mapAngles f = instruction ↔ ∀ angle ∈ instruction.angles, f angle = angle := by
  cases instruction <;> simp [mapAngles, angles, map_eq_self_iff]

theorem HasShape.mapAngles (f : Angle → Angle) (h : instruction.HasShape) :
    (instruction.mapAngles f).HasShape := by
  cases instruction with
  | diagonal controls coefficients =>
    change (coefficients.map f).length = _
    rw [List.length_map]
    exact h
  | multiplexor target controls coefficients =>
    change controls ≠ [] ∧ (coefficients.map f).length = _
    rw [List.length_map]
    exact h
  | _ => exact h

theorem tab_not_mem_of_readsBack {angle : Angle} (h : angle.ReadsBack .hash) :
    '\t' ∉ angle.text.toList := by
  intro hmem
  exact absurd (Angle.IsToken.isTokenChar h _ hmem) (by decide)

theorem WellFormed.negated (h : WellFormed .hash instruction) :
    WellFormed .hash (instruction.mapAngles Angle.negated) := by
  have hback : ∀ angle ∈ (instruction.mapAngles Angle.negated).angles, angle.ReadsBack .hash := by
    intro angle hmem
    rw [angles_mapAngles] at hmem
    obtain ⟨original, horiginal, rfl⟩ := List.mem_map.1 hmem
    exact (h.readsBack original horiginal).negated
  refine ⟨h.shape.mapAngles _, ?_, hback, ?_⟩
  · rw [qubitFields_mapAngles]
    exact h.distinct
  · intro angle hmem
    exact tab_not_mem_of_readsBack (hback angle hmem)

theorem conjugate_eq_ok_iff {conjugated : Instruction} :
    instruction.conjugate = .ok conjugated ↔
      instruction.isForeign = false ∧ instruction.mapAngles Angle.negated = conjugated := by
  cases instruction <;> simp [conjugate, isForeign]

end Instruction

end CircuitScript
