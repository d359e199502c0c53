import CircuitScript.Proofs.Circuit.QubitRange
/-!
Instructions can be added as they are or as lines. Of an instruction that is added as it is only the
qubits are looked up, while a line is checked in all its parts, so the two ways agree for the
instructions that keep what a line demands and for no others that a circuit takes.
-/
namespace CircuitScript.Circuit

open Stateful

/-- The instruction is accepted as it is exactly when its line is read back as it. -/
structure AddsAlike (width : UInt64) (instruction : Instruction) : Prop where
  push (c : Circuit) (hwidth : c.width = width) :
    (∃ d, c.push instruction = .ok d) ↔
      ofLines .hash width [instruction.text] = .ok ⟨width, [instruction]⟩
  ofInstructions :
    (∃ d, ofInstructions width [instruction] = .ok d) ↔
      ofLines .hash width [instruction.text] = .ok ⟨width, [instruction]⟩

section

variable {width : UInt64} {c d : Circuit} {instruction : Instruction}
  {instructions : List Instruction}

theorem exists_push_eq_ok_iff :
    (∃ d, c.push instruction = .ok d) ↔ Within c.width instruction := by
  constructor
  · rintro ⟨d, hpush⟩
    exact (push_eq_ok_iff.1 hpush).1
  · intro hwithin
    exact ⟨_, push_eq_ok_iff.2 ⟨hwithin, rfl⟩⟩

theorem ofInstructions_eq_ok_iff :
    ofInstructions width instructions = .ok c ↔
      (∀ instruction ∈ instructions, Within width instruction) ∧ c = ⟨width, instructions⟩ :=
  pushAll_eq_ok_iff

theorem ofInstructions_of_ofLines {grammar : PlaceholderGrammar} {lines : List String}
    (h : ofLines grammar width lines = .ok c) : ofInstructions width c.instructions = .ok c := by
  obtain ⟨rfl, hread⟩ := ofLines_eq_ok_iff.1 h
  have hwithin := forall_mem_right hread fun _ _ hline => hline.2
  exact ofInstructions_eq_ok_iff.2 ⟨hwithin, rfl⟩

theorem ofLines_texts_eq_ok_iff (width : UInt64) (instructions : List Instruction) :
    ofLines .hash width (instructions.map Instruction.text) = .ok ⟨width, instructions⟩ ↔
      ∀ instruction ∈ instructions,
        instruction.WellFormed .hash ∧ Within width instruction := by
  rw [ofLines_eq_ok_iff, List.forall₂_map_left_iff, List.forall₂_same]
  simp only [ReadsAs, Instruction.wellFormed_iff_read_text, true_and]

theorem ofLines_text_eq_ok_iff :
    ofLines .hash width [instruction.text] = .ok ⟨width, [instruction]⟩ ↔
      instruction.WellFormed .hash ∧ Within width instruction := by
  have hlines := ofLines_texts_eq_ok_iff width [instruction]
  rwa [List.forall_mem_singleton] at hlines

theorem addsAlike_iff :
    AddsAlike width instruction ↔ (Within width instruction → instruction.WellFormed .hash) := by
  constructor
  · intro h hwithin
    have hpush := exists_push_eq_ok_iff (c := empty width).2 hwithin
    have hread := (h.push (empty width) rfl).1 hpush
    exact (ofLines_text_eq_ok_iff.1 hread).1
  · intro hwell
    have hread : Within width instruction ↔
        ofLines .hash width [instruction.text] = .ok ⟨width, [instruction]⟩ := by
      rw [ofLines_text_eq_ok_iff]
      exact ⟨fun hwithin => ⟨hwell hwithin, hwithin⟩, And.right⟩
    constructor
    · rintro c rfl
      rw [exists_push_eq_ok_iff, hread]
    · rw [← hread]
      simp [ofInstructions_eq_ok_iff]

theorem ofLines_lines_ofInstructions_iff (h : ofInstructions width instructions = .ok c) :
    ofLines .hash width c.lines = .ok c ↔
      ∀ instruction ∈ instructions, instruction.WellFormed .hash := by
  obtain ⟨hwithin, rfl⟩ := ofInstructions_eq_ok_iff.1 h
  refine (ofLines_texts_eq_ok_iff width instructions).trans ⟨?_, ?_⟩
  · intro hboth instruction hmem
    exact (hboth instruction hmem).1
  · intro hwell instruction hmem
    exact ⟨hwell instruction hmem, hwithin instruction hmem⟩

/-- The two ways agree on an instruction exactly when it is well-formed or has a qubit too many. A
circuit of instructions that were added as they are is read back from its lines exactly when all of
them are well-formed, and whatever is read from lines can be added as it is. -/
theorem addsAlike_iff_wellFormed (width : UInt64) (instruction : Instruction) :
    (AddsAlike width instruction ↔ (Within width instruction → instruction.WellFormed .hash)) ∧
    (∀ instructions c, ofInstructions width instructions = .ok c →
      (ofLines .hash width c.lines = .ok c ↔
        ∀ instruction ∈ instructions, instruction.WellFormed .hash)) ∧
    ∀ grammar lines c, ofLines grammar width lines = .ok c →
      ofInstructions width c.instructions = .ok c :=
  ⟨addsAlike_iff, fun _ _ => ofLines_lines_ofInstructions_iff,
    fun _ _ _ => ofInstructions_of_ofLines⟩

theorem addsAlike_iff_wellFormed_measure :
    let measure : Instruction := .measure 2 1
    let c : Circuit := ⟨3, [.swap 0 1 [.onOne 2], measure]⟩
    AddsAlike 3 measure ∧ ofInstructions 3 c.instructions = .ok c ∧
      ofLines .hash 3 c.lines = .ok c := by
  intro measure c
  have hadd : ofInstructions 3 c.instructions = .ok c := by
    apply eq_ok_of_toOption
    decide +kernel
  have hwell : ∀ instruction ∈ c.instructions, instruction.WellFormed .hash := by
    intro instruction hmem
    rw [Instruction.wellFormed_iff_read_text]
    have hread : ∀ instruction ∈ c.instructions,
        (Instruction.read .hash instruction.text).toOption = some instruction := by decide +kernel
    exact eq_ok_of_toOption (hread instruction hmem)
  obtain ⟨hagree, hlines, -⟩ := addsAlike_iff_wellFormed 3 measure
  refine ⟨hagree.2 ?_, hadd, (hlines c.instructions c hadd).2 hwell⟩
  intro _
  exact hwell measure (by simp [c])

/-- A swap of a qubit with itself is added as it is, and its line is refused. -/
theorem not_addsAlike_swap :
    let swap : Instruction := .swap 1 1 []
    (empty 2).push swap = .ok ⟨2, [swap]⟩ ∧
      (ofLines .hash 2 [swap.text]).mapError CircuitError.message =
        .error (CircuitError.malformed "SWAP" (.repeatedQubit 1) (some "SWAP\t1\t1")).message ∧
      ¬AddsAlike 2 swap := by
  intro swap
  have hpush : (empty 2).push swap = .ok ⟨2, [swap]⟩ := by
    apply eq_ok_of_toOption
    decide +kernel
  have hrefused : (ofLines .hash 2 [swap.text]).mapError CircuitError.message =
      .error (CircuitError.malformed "SWAP" (.repeatedQubit 1) (some "SWAP\t1\t1")).message := by
    decide +kernel
  refine ⟨hpush, hrefused, ?_⟩
  intro h
  rw [(h.push (empty 2) rfl).1 ⟨_, hpush⟩] at hrefused
  cases hrefused

end

end CircuitScript.Circuit
