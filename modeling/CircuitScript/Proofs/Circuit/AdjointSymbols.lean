import CircuitScript.Proofs.Circuit.Symbols
/-!
The adjoint names the same variables and functions as the circuit. It has the instructions in
another order and other texts in them; but the minus in front of a token is no part of what the
token names, and no number becomes a token by it.
-/
namespace CircuitScript

namespace Angle.ReadsBack

variable {angle : Angle}

theorem isLegal_negated (h : angle.ReadsBack .hash) :
    PlaceholderGrammar.hash.isLegal angle.negated.text =
      PlaceholderGrammar.hash.isLegal angle.text := by
  simp [PlaceholderGrammar.hash, h.read?_negated]

theorem variableNumbers_negated (h : angle.ReadsBack .hash) :
    PlaceholderGrammar.hash.variableNumbers angle.negated.text =
      PlaceholderGrammar.hash.variableNumbers angle.text := by
  simp [PlaceholderGrammar.hash, h.read?_negated, Function.comp_def]

theorem function_negated (h : angle.ReadsBack .hash) :
    PlaceholderGrammar.hash.function angle.negated.text =
      PlaceholderGrammar.hash.function angle.text := by
  simp only [PlaceholderGrammar.hash, h.read?_negated, Option.bind_map]
  rfl

end Angle.ReadsBack

namespace Instruction

variable {instruction : Instruction} {p : String → Prop}

theorem tokens_of_not_foreign (h : instruction.isForeign = false) :
    instruction.tokens = instruction.angles.map Angle.text := by
  cases instruction with
  | foreign => cases h
  | _ => rfl

theorem exists_token_negated_iff
    (hp : ∀ angle : Angle, angle.ReadsBack .hash → (p angle.negated.text ↔ p angle.text))
    (hforeign : instruction.isForeign = false)
    (hread : ∀ angle ∈ instruction.angles, angle.ReadsBack .hash) :
    (∃ token ∈ (instruction.mapAngles Angle.negated).tokens, p token) ↔
      ∃ token ∈ instruction.tokens, p token := by
  have hforeign' : (instruction.mapAngles Angle.negated).isForeign = false := by
    rw [isForeign_mapAngles, hforeign]
  rw [tokens_of_not_foreign hforeign, tokens_of_not_foreign hforeign', angles_mapAngles]
  simp only [List.mem_map, exists_exists_and_eq_and]
  exact exists_congr fun angle => and_congr_right fun hangle => hp angle (hread angle hangle)

end Instruction

namespace Circuit

variable {c d : Circuit}

theorem exists_token_adjoint_iff {p : String → Prop}
    (hp : ∀ angle : Angle, angle.ReadsBack .hash → (p angle.negated.text ↔ p angle.text))
    (hread : ∀ instruction ∈ c.instructions, ∀ angle ∈ instruction.angles, angle.ReadsBack .hash)
    (h : c.adjoint = .ok d) :
    (∃ instruction ∈ d.instructions, ∃ token ∈ instruction.tokens, p token) ↔
      ∃ instruction ∈ c.instructions, ∃ token ∈ instruction.tokens, p token := by
  obtain ⟨hforeign, rfl⟩ := adjoint_eq_ok_iff.1 h
  simp only [List.mem_map, List.mem_reverse, exists_exists_and_eq_and]
  exact exists_congr fun instruction => and_congr_right fun hmem =>
    Instruction.exists_token_negated_iff hp (hforeign instruction hmem) (hread instruction hmem)

/-- The adjoint of a circuit that was read names the same variables and functions as the circuit,
each of them once in both. -/
theorem symbols_adjoint
    (hread : ∀ instruction ∈ c.instructions, ∃ line, Instruction.read .hash line = .ok instruction)
    (h : c.adjoint = .ok d) :
    (∀ number, number ∈ (d.symbols .hash).variableNumbers ↔
        number ∈ (c.symbols .hash).variableNumbers) ∧
      (∀ name, name ∈ (d.symbols .hash).functions ↔ name ∈ (c.symbols .hash).functions) ∧
      (c.symbols .hash).variableNumbers.Nodup ∧ (c.symbols .hash).functions.Nodup ∧
      (d.symbols .hash).variableNumbers.Nodup ∧ (d.symbols .hash).functions.Nodup := by
  have hback : ∀ instruction ∈ c.instructions, ∀ angle ∈ instruction.angles,
      angle.ReadsBack .hash := by
    intro instruction hmem
    obtain ⟨line, hline⟩ := hread instruction hmem
    exact (Instruction.WellFormed.of_read hline).readsBack
  refine ⟨?_, ?_, nodup_variableNumbers_symbols, nodup_functions_symbols,
    nodup_variableNumbers_symbols, nodup_functions_symbols⟩
  · intro number
    rw [mem_variableNumbers_symbols_iff, mem_variableNumbers_symbols_iff]
    refine exists_token_adjoint_iff (fun angle hangle => ?_) hback h
    rw [hangle.isLegal_negated, hangle.variableNumbers_negated]
  · intro name
    rw [mem_functions_symbols_iff, mem_functions_symbols_iff]
    refine exists_token_adjoint_iff (fun angle hangle => ?_) hback h
    rw [hangle.isLegal_negated, hangle.function_negated]

theorem symbols_adjoint_signs :
    let c : Circuit := ⟨2, [.rotation .x (.literal "+45") 0 [],
      .rotationVector (.placeholder "#3*-2") (.literal "-.5") (.placeholder "-g#1#3") 1 [],
      .note "#9"]⟩
    (∀ instruction ∈ c.instructions, ∃ line, Instruction.read .hash line = .ok instruction) ∧
      ∃ d, c.adjoint = .ok d ∧
        (∀ number, number ∈ (d.symbols .hash).variableNumbers ↔ number ∈ [3, 1]) ∧
        ∀ name, name ∈ (d.symbols .hash).functions ↔ name ∈ ["g"] := by
  intro c
  have hread : ∀ instruction ∈ c.instructions,
      ∃ line, Instruction.read .hash line = .ok instruction := by
    have hlines : ∀ instruction ∈ c.instructions,
        (Instruction.read .hash instruction.text).toOption = some instruction := by decide +kernel
    intro instruction hmem
    exact ⟨instruction.text, Stateful.eq_ok_of_toOption (hlines instruction hmem)⟩
  have hadjoint : c.adjoint = .ok _ := rfl
  have hsymbols : c.symbols .hash = ⟨[3, 1], ["g"]⟩ := by decide +kernel
  obtain ⟨hvariables, hfunctions, -⟩ := symbols_adjoint hread hadjoint
  rw [hsymbols] at hvariables hfunctions
  exact ⟨hread, _, hadjoint, hvariables, hfunctions⟩

end Circuit

end CircuitScript
