import CircuitScript.Proofs.Circuit.TextBuilt
/-!
The adjoint against concatenation. It turns the order around, and where a foreign line stands in the
way, the last one of the whole is the one that is named.
-/
namespace CircuitScript

open Stateful

def Instruction.foreignOpcode? : Instruction → Option String
  | .foreign opcode _ => some opcode
  | _ => none

theorem Instruction.foreignOpcode?_eq_none_iff {instruction : Instruction} :
    instruction.foreignOpcode? = none ↔ instruction.isForeign = false := by
  cases instruction <;> simp [foreignOpcode?, isForeign]

theorem Instruction.conjugate_eq (instruction : Instruction) :
    instruction.conjugate =
      match instruction.foreignOpcode? with
      | some opcode => .error (.notConjugable opcode)
      | none => .ok (instruction.mapAngles Angle.negated) := by
  cases instruction <;> rfl

namespace Circuit

def lastForeign? (c : Circuit) : Option String :=
  (c.instructions.filterMap Instruction.foreignOpcode?).getLast?

theorem lastForeign?_eq_none_iff {c : Circuit} :
    c.lastForeign? = none ↔ ∀ instruction ∈ c.instructions, instruction.isForeign = false := by
  simp [lastForeign?, Instruction.foreignOpcode?_eq_none_iff]

theorem mapM_conjugate (instructions : List Instruction) :
    instructions.mapM Instruction.conjugate =
      match (instructions.filterMap Instruction.foreignOpcode?).head? with
      | some opcode => .error (.notConjugable opcode)
      | none => .ok (instructions.map (Instruction.mapAngles Angle.negated)) := by
  induction instructions with
  | nil => rfl
  | cons instruction rest ih =>
    rw [List.mapM_cons, ih, Instruction.conjugate_eq]
    cases hopcode : instruction.foreignOpcode? with
    | some opcode =>
      rw [List.filterMap_cons_some hopcode]
      rfl
    | none =>
      rw [List.filterMap_cons_none hopcode]
      cases (rest.filterMap Instruction.foreignOpcode?).head? <;> rfl

/-- The list is conjugated from its end, so the first foreign line met is the last one. -/
theorem adjoint_eq (c : Circuit) :
    c.adjoint =
      match c.lastForeign? with
      | some opcode => .error (.notConjugable opcode)
      | none =>
        .ok ⟨c.width, c.instructions.reverse.map (Instruction.mapAngles Angle.negated)⟩ := by
  unfold adjoint lastForeign?
  rw [mapM_conjugate, List.filterMap_reverse, List.head?_reverse]
  cases (c.instructions.filterMap Instruction.foreignOpcode?).getLast? <;> rfl

theorem adjoint_of_foreign {c : Circuit} {opcode : String} (h : c.lastForeign? = some opcode) :
    c.adjoint = .error (.notConjugable opcode) := by
  rw [adjoint_eq, h]

theorem adjoint_of_not_foreign {c : Circuit} (h : c.lastForeign? = none) :
    c.adjoint =
      .ok ⟨c.width, c.instructions.reverse.map (Instruction.mapAngles Angle.negated)⟩ := by
  rw [adjoint_eq, h]

theorem lastForeign?_append (a b : Circuit) :
    lastForeign? ⟨a.width, a.instructions ++ b.instructions⟩ =
      b.lastForeign?.or a.lastForeign? := by
  simp only [lastForeign?, List.filterMap_append, List.getLast?_append]

structure IsReversal (c d : Circuit) : Prop where
  width : d.width = c.width
  size : d.size = c.size
  conjugate : ∀ index < c.size, ∃ original conjugated,
    c.get? (c.size - 1 - index) = some original ∧ d.get? index = some conjugated ∧
      original.conjugate = .ok conjugated

theorem isReversal_of_adjoint {c d : Circuit} (h : c.adjoint = .ok d) : IsReversal c d := by
  obtain ⟨hforeign, rfl⟩ := adjoint_eq_ok_iff.1 h
  refine ⟨rfl, by simp [size], ?_⟩
  intro index hindex
  have hlast : c.instructions.length - 1 - index < c.instructions.length := by
    unfold size at hindex
    omega
  have horiginal := List.getElem?_eq_getElem hlast
  refine ⟨_, _, horiginal, ?_, Instruction.conjugate_eq_ok_iff.2 ⟨?_, rfl⟩⟩
  · rw [get?, List.getElem?_map, List.getElem?_reverse hindex, horiginal]
    rfl
  · exact hforeign _ (List.getElem_mem hlast)

/-- The adjoint of a sum is the sum of the adjoints the other way round. It fails for the last
foreign line of the second part, else for that of the first. So it fails for foreign lines only, and
what it gives stands in reverse order. -/
theorem adjoint_add :
    (∀ a b : Circuit, a.width = b.width →
      ∃ ab, (a + b : Except Abort Circuit) = .ok ab ∧
        (∀ opcode, b.lastForeign? = some opcode →
          ab.adjoint = .error (.notConjugable opcode)) ∧
        (∀ opcode, b.lastForeign? = none → a.lastForeign? = some opcode →
          ab.adjoint = .error (.notConjugable opcode)) ∧
        (b.lastForeign? = none → a.lastForeign? = none →
          ∃ a' b' d, a.adjoint = .ok a' ∧ b.adjoint = .ok b' ∧
            (b' + a' : Except Abort Circuit) = .ok d ∧ ab.adjoint = .ok d)) ∧
    ∀ c : Circuit,
      ((∃ d, c.adjoint = .ok d) ↔
        ∀ instruction ∈ c.instructions, instruction.isForeign = false) ∧
      ∀ d, c.adjoint = .ok d → IsReversal c d := by
  constructor
  · intro a b hwidth
    have hadd := hAdd_eq_ok_iff.2 (concat_eq_ok_iff.2 ⟨hwidth, rfl⟩)
    refine ⟨_, hadd, ?_, ?_, ?_⟩
    · intro opcode hb
      apply adjoint_of_foreign
      rw [lastForeign?_append, hb, Option.some_or]
    · intro opcode hb ha
      apply adjoint_of_foreign
      rw [lastForeign?_append, hb, Option.none_or, ha]
    · intro hb ha
      have hnone : lastForeign? ⟨a.width, a.instructions ++ b.instructions⟩ = none := by
        rw [lastForeign?_append, hb, Option.none_or, ha]
      refine ⟨_, _, _, adjoint_of_not_foreign ha, adjoint_of_not_foreign hb,
        hAdd_eq_ok_iff.2 (concat_eq_ok_iff.2 ⟨hwidth.symm, rfl⟩), ?_⟩
      rw [adjoint_of_not_foreign hnone, List.reverse_append, List.map_append, hwidth]
  · intro c
    refine ⟨?_, fun d => isReversal_of_adjoint⟩
    rw [← lastForeign?_eq_none_iff]
    constructor
    · rintro ⟨d, hd⟩
      exact lastForeign?_eq_none_iff.2 (adjoint_eq_ok_iff.1 hd).1
    · intro hnone
      exact ⟨_, adjoint_of_not_foreign hnone⟩

theorem adjoint_add_two_foreign :
    let a : Circuit := ⟨2, [.hadamard 0 [], .foreign "QFT" ["0", "1"]]⟩
    let b : Circuit := ⟨2, [.foreign "CUSTOM" [], .foreign "ORACLE" ["f#1"], .swap 0 1 []]⟩
    a.width = b.width ∧ ∃ ab, (a + b : Except Abort Circuit) = .ok ab ∧
      ab.adjoint = .error (.notConjugable "ORACLE") := by
  intro a b
  obtain ⟨ab, hadd, hb, -⟩ := adjoint_add.1 a b rfl
  exact ⟨rfl, ab, hadd, hb "ORACLE" rfl⟩

end Circuit

end CircuitScript
