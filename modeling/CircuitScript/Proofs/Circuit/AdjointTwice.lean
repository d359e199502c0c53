import CircuitScript.Proofs.Circuit.TextBuilt
/-!
The adjoint of an adjoint. Every angle comes back as it was written, save that a plus in front is
gone; so from the first adjoint on, taking adjoints goes back and forth between two circuits.
-/
namespace CircuitScript

namespace Instruction

variable {instruction : Instruction}

theorem negated_negated (h : ∀ angle ∈ instruction.angles, angle.ReadsBack .hash) :
    (instruction.mapAngles Angle.negated).mapAngles Angle.negated =
      instruction.mapAngles Angle.withoutPlus := by
  rw [mapAngles_mapAngles]
  apply mapAngles_congr
  intro angle hangle
  exact (h angle hangle).negated_negated

theorem negated_withoutPlus (h : ∀ angle ∈ instruction.angles, angle.ReadsBack .hash) :
    (instruction.mapAngles Angle.withoutPlus).mapAngles Angle.negated =
      instruction.mapAngles Angle.negated := by
  rw [mapAngles_mapAngles]
  apply mapAngles_congr
  intro angle hangle
  exact (h angle hangle).negated_withoutPlus

theorem withoutPlus_eq_self_iff :
    instruction.mapAngles Angle.withoutPlus = instruction ↔
      ∀ angle ∈ instruction.angles, angle.text.toList.head? ≠ some '+' := by
  rw [mapAngles_eq_self_iff]
  simp only [Angle.withoutPlus_eq_self_iff]

end Instruction

namespace Circuit

variable {c : Circuit}

def mapAngles (f : Angle → Angle) (c : Circuit) : Circuit :=
  { c with instructions := c.instructions.map (Instruction.mapAngles f) }

theorem mapAngles_eq_self_iff {f : Angle → Angle} :
    c.mapAngles f = c ↔ ∀ instruction ∈ c.instructions, instruction.mapAngles f = instruction := by
  rw [← map_eq_self_iff]
  constructor
  · exact congrArg Circuit.instructions
  · intro h
    rw [mapAngles, h]

structure Conjugable (c : Circuit) : Prop where
  known : ∀ instruction ∈ c.instructions, instruction.isForeign = false
  angles : ∀ instruction ∈ c.instructions, ∀ angle ∈ instruction.angles, angle.ReadsBack .hash

/-- Two reversals give back the order, so what is left is what two negations do to each line. -/
theorem adjoint_adjoint_eq (h : c.Conjugable) :
    ∃ d, c.adjoint = .ok d ∧ d.adjoint = .ok (c.mapAngles Angle.withoutPlus) := by
  refine ⟨_, adjoint_eq_ok_iff.2 ⟨h.known, rfl⟩, adjoint_eq_ok_iff.2 ⟨?_, ?_⟩⟩
  · intro instruction hmem
    obtain ⟨original, horiginal, rfl⟩ := List.mem_map.1 hmem
    rw [Instruction.isForeign_mapAngles]
    exact h.known original (List.mem_reverse.1 horiginal)
  · rw [← List.map_reverse, List.reverse_reverse, List.map_map, mapAngles]
    congr 1
    apply List.map_congr_left
    intro instruction hmem
    exact (Instruction.negated_negated (h.angles instruction hmem)).symm

theorem adjoint_withoutPlus (h : c.Conjugable) :
    (c.mapAngles Angle.withoutPlus).adjoint = c.adjoint := by
  have hlines : (c.mapAngles Angle.withoutPlus).instructions.reverse.map
      (Instruction.mapAngles Angle.negated) =
        c.instructions.reverse.map (Instruction.mapAngles Angle.negated) := by
    rw [mapAngles, ← List.map_reverse, List.map_map]
    apply List.map_congr_left
    intro instruction hmem
    exact Instruction.negated_withoutPlus (h.angles instruction (List.mem_reverse.1 hmem))
  have hadjoint : c.adjoint = .ok ⟨c.width, _⟩ := adjoint_eq_ok_iff.2 ⟨h.known, rfl⟩
  rw [hadjoint, adjoint_eq_ok_iff, hlines]
  refine ⟨?_, rfl⟩
  intro instruction hmem
  obtain ⟨original, horiginal, rfl⟩ := List.mem_map.1 hmem
  rw [Instruction.isForeign_mapAngles]
  exact h.known original horiginal

/-- The adjoint of the adjoint is the circuit with each plus in front of an angle removed. It is the
circuit itself just when there is no such plus, and its own adjoint is the first one. -/
theorem adjoint_adjoint (c : Circuit)
    (hknown : ∀ instruction ∈ c.instructions, instruction.isForeign = false)
    (hread : ∀ instruction ∈ c.instructions, ∀ angle ∈ instruction.angles,
      Angle.read? .hash angle.text = some angle) :
    ∃ d e, c.adjoint = .ok d ∧ d.adjoint = .ok e ∧
      e = ⟨c.width, c.instructions.map (Instruction.mapAngles Angle.withoutPlus)⟩ ∧
      (e = c ↔ ∀ instruction ∈ c.instructions, ∀ angle ∈ instruction.angles,
        angle.text.toList.head? ≠ some '+') ∧
      e.adjoint = .ok d := by
  have h : c.Conjugable := by
    refine ⟨hknown, ?_⟩
    intro instruction hmem angle hangle
    exact Angle.read?_eq_some_iff.1 (hread instruction hmem angle hangle)
  obtain ⟨d, hd, he⟩ := adjoint_adjoint_eq h
  refine ⟨d, _, hd, he, rfl, ?_, (adjoint_withoutPlus h).trans hd⟩
  rw [mapAngles_eq_self_iff]
  simp only [Instruction.withoutPlus_eq_self_iff]

theorem adjoint_adjoint_plus :
    let c : Circuit := ⟨2, [.rotation .x (.literal "+45") 0 [⟨1, .isOne⟩],
      .diagonal [⟨1, .multiplexed 0⟩] [.literal "-.5e1", .placeholder "-f#2#1"]]⟩
    let e : Circuit := ⟨2, [.rotation .x (.literal "45") 0 [⟨1, .isOne⟩],
      .diagonal [⟨1, .multiplexed 0⟩] [.literal "-.5e1", .placeholder "-f#2#1"]]⟩
    (∀ instruction ∈ c.instructions, instruction.isForeign = false) ∧
      (∀ instruction ∈ c.instructions, ∀ angle ∈ instruction.angles,
        Angle.read? .hash angle.text = some angle) ∧
      ∃ d, c.adjoint = .ok d ∧ d.adjoint = .ok e ∧ e ≠ c ∧ e.adjoint = .ok d := by
  intro c e
  have hknown : ∀ instruction ∈ c.instructions, instruction.isForeign = false := by decide
  have hread : ∀ instruction ∈ c.instructions, ∀ angle ∈ instruction.angles,
      Angle.read? .hash angle.text = some angle := by decide +kernel
  obtain ⟨d, _, hd, he, rfl, -, hback⟩ := adjoint_adjoint c hknown hread
  exact ⟨hknown, hread, d, hd, he, by decide, hback⟩

end Circuit

end CircuitScript
