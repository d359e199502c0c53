import CircuitScript.Circuit.Adjoint
import CircuitScript.Circuit.Append
import CircuitScript.Circuit.Files
import CircuitScript.Circuit.Slice
import CircuitScript.Proofs.Circuit.Join
import CircuitScript.Proofs.Conjugate
/-!
Circuits that come from text and from named calls, and what becomes of them: such a circuit always
prints lines that read back as the circuit.
-/
namespace CircuitScript.Circuit

open Stateful

/-- The circuits that text and named calls build. Of an operation in place it is what then stands in
the circuit's place, also where the operation fails. -/
inductive TextBuilt : Circuit → Prop
  | empty (width : UInt64) : TextBuilt (.empty width)
  | ofLines {width : UInt64} {lines : List String} {c : Circuit}
      (h : ofLines .hash width lines = .ok c) : TextBuilt c
  | load {directory : Directory} {folder stem : String} {width : UInt64} {c : Circuit}
      (h : load directory folder stem width = .ok c) : TextBuilt c
  | append {c : Circuit} (name : String) (parameters : List Parameter) (hc : TextBuilt c) :
      TextBuilt (c.appendInPlace name parameters).1
  | appendThrough {σ : Type} {c : Circuit} (w : Writer σ) (state : σ) (name : String)
      (parameters : List Parameter) (hc : TextBuilt c) :
      TextBuilt (c.appendThrough w state name parameters).2.2
  | concat {a b d : Circuit} (ha : TextBuilt a) (hb : TextBuilt b) (h : a.concat b = .ok d) :
      TextBuilt d
  | extend {a b : Circuit} (ha : TextBuilt a) (hb : TextBuilt b) : TextBuilt (a.extend b).1
  | add {a b d : Circuit} (passing : Passing) (ha : TextBuilt a) (hb : TextBuilt b)
      (h : a.add passing b = .ok d) : TextBuilt d
  | addAssign {a b : Circuit} (passing : Passing) (ha : TextBuilt a) (hb : TextBuilt b) :
      TextBuilt (a.addAssign passing b).1
  | slice {c : Circuit} (lower upper : Bound) (hc : TextBuilt c) : TextBuilt (c.slice lower upper)
  | sliceStep {c d : Circuit} {start stop : Option Int64} {step : Int64} (hc : TextBuilt c)
      (h : c.sliceStep start stop step = .ok d) : TextBuilt d
  | adjoint {c d : Circuit} (hc : TextBuilt c) (h : c.adjoint = .ok d) : TextBuilt d

structure Sound (c : Circuit) : Prop where
  wellFormed : ∀ instruction ∈ c.instructions, instruction.WellFormed .hash
  within : ∀ instruction ∈ c.instructions, Within c.width instruction

section

variable {a b c d : Circuit}

theorem Sound.of_subset {instructions : List Instruction} (h : c.Sound)
    (hsub : ∀ instruction ∈ instructions, instruction ∈ c.instructions) :
    Sound ⟨c.width, instructions⟩ where
  wellFormed instruction hmem := h.wellFormed instruction (hsub instruction hmem)
  within instruction hmem := h.within instruction (hsub instruction hmem)

theorem Sound.join {others : List Instruction} (h : c.Sound) (ho : Sound ⟨c.width, others⟩) :
    Sound ⟨c.width, c.instructions ++ others⟩ where
  wellFormed instruction hmem := by
    have hcases := List.mem_append.1 hmem
    exact hcases.elim (h.wellFormed instruction) (ho.wellFormed instruction)
  within instruction hmem := by
    have hcases := List.mem_append.1 hmem
    exact hcases.elim (h.within instruction) (ho.within instruction)

theorem sound_of_readsAs {width : UInt64} {lines : List String}
    {instructions : List Instruction}
    (h : List.Forall₂ (ReadsAs .hash width) lines instructions) : Sound ⟨width, instructions⟩ where
  wellFormed := forall_mem_right h fun _ _ hread => .of_read hread.1
  within := forall_mem_right h fun _ _ hread => hread.2

theorem sound_ofLines {width : UInt64} {lines : List String}
    (h : ofLines .hash width lines = .ok c) : c.Sound := by
  have hread := ofLines_eq_ok_iff.1 h
  rw [← hread.1] at hread
  exact sound_of_readsAs hread.2

theorem readsAs_of_build {width : UInt64} {name : String} {parameters : List Parameter}
    {instruction : Instruction} (h : build width name parameters = .ok instruction) :
    ∃ line, ReadsAs .hash width line instruction := by
  unfold build at h
  obtain ⟨op, -, h⟩ := except_bind_eq_ok_iff.1 h
  obtain ⟨written, -, h⟩ := except_bind_eq_ok_iff.1 h
  split at h
  · rename_i line _
    obtain ⟨read, hread, h⟩ := except_bind_eq_ok_iff.1 h
    cases ho : firstOutside? width read with
    | some qubit =>
      simp only [ho] at h
      cases h
    | none =>
      simp only [ho] at h
      cases h
      exact ⟨line, hread, firstOutside?_eq_none_iff.1 ho⟩
  · cases h

theorem Sound.build {name : String} {parameters : List Parameter} {instruction : Instruction}
    (h : c.Sound) (hb : build c.width name parameters = .ok instruction) :
    Sound ⟨c.width, c.instructions ++ [instruction]⟩ := by
  obtain ⟨line, hread⟩ := readsAs_of_build hb
  apply h.join
  exact sound_of_readsAs (.cons hread .nil)

theorem appendInPlace_cases (c : Circuit) (name : String) (parameters : List Parameter) :
    (c.appendInPlace name parameters).1 = c ∨
      ∃ instruction, Circuit.build c.width name parameters = .ok instruction ∧
        (c.appendInPlace name parameters).1 = c.extended [instruction] := by
  unfold appendInPlace
  cases Circuit.build c.width name parameters with
  | error error => exact .inl rfl
  | ok instruction => exact .inr ⟨instruction, rfl, rfl⟩

/-- The writer has its say only after the instruction is built. -/
theorem appendThrough_cases {σ : Type} (w : Writer σ) (state : σ) (c : Circuit) (name : String)
    (parameters : List Parameter) :
    (c.appendThrough w state name parameters).2.2 = c ∨
      ∃ instruction, Circuit.build c.width name parameters = .ok instruction ∧
        (c.appendThrough w state name parameters).2.2 = c.extended [instruction] := by
  unfold appendThrough
  cases Circuit.build c.width name parameters with
  | error error => exact .inl rfl
  | ok instruction =>
    dsimp only
    rcases w.write state instruction.text with ⟨error | _, later⟩
    · exact .inl rfl
    · exact .inr ⟨instruction, rfl, rfl⟩

theorem Sound.appendInPlace (h : c.Sound) (name : String) (parameters : List Parameter) :
    (c.appendInPlace name parameters).1.Sound := by
  obtain hkept | ⟨instruction, hbuild, hadded⟩ := appendInPlace_cases c name parameters
  · rwa [hkept]
  · rw [hadded]
    exact h.build hbuild

theorem Sound.appendThrough {σ : Type} (h : c.Sound) (w : Writer σ) (state : σ) (name : String)
    (parameters : List Parameter) : (c.appendThrough w state name parameters).2.2.Sound := by
  obtain hkept | ⟨instruction, hbuild, hadded⟩ := appendThrough_cases w state c name parameters
  · rwa [hkept]
  · rw [hadded]
    exact h.build hbuild

theorem Sound.extend (ha : a.Sound) (hb : b.Sound) : (a.extend b).1.Sound := by
  by_cases hwidth : a.width = b.width
  · rw [extend_of_eq hwidth]
    apply ha.join
    rw [hwidth]
    exact hb
  · rw [extend_of_ne hwidth]
    exact ha

theorem Sound.concat (ha : a.Sound) (hb : b.Sound) (h : a.concat b = .ok d) : d.Sound := by
  have hextend := ha.extend hb
  rw [concat_eq_extend, result_eq_ok_iff] at h
  rwa [h] at hextend

theorem Sound.addAssign (passing : Passing) (ha : a.Sound) (hb : b.Sound) :
    (a.addAssign passing b).1.Sound := by
  rw [addAssign_eq_extend]
  exact ha.extend hb

theorem slice_subset (lower upper : Bound) :
    ∀ instruction ∈ (c.slice lower upper).instructions, instruction ∈ c.instructions := by
  intro instruction hmem
  rw [slice_eq] at hmem
  exact List.mem_of_mem_drop (List.mem_of_mem_take hmem)

theorem width_slice (lower upper : Bound) : (c.slice lower upper).width = c.width := by
  rw [slice_eq]

theorem Sound.slice (lower upper : Bound) (h : c.Sound) : (c.slice lower upper).Sound := by
  have hpart := h.of_subset (slice_subset lower upper)
  rwa [← width_slice lower upper] at hpart

theorem sliceStep_subset {start stop : Option Int64} {step : Int64}
    (h : c.sliceStep start stop step = .ok d) :
    ∀ instruction ∈ d.instructions, instruction ∈ c.instructions := by
  obtain ⟨positions, rfl⟩ := eq_of_sliceStep h
  intro instruction hmem
  obtain ⟨position, -, hposition⟩ := List.mem_filterMap.1 hmem
  unfold atWord? at hposition
  split at hposition
  · exact List.mem_of_getElem? hposition
  · cases hposition

theorem width_sliceStep {start stop : Option Int64} {step : Int64}
    (h : c.sliceStep start stop step = .ok d) : d.width = c.width := by
  obtain ⟨positions, rfl⟩ := eq_of_sliceStep h
  rfl

theorem Sound.sliceStep {start stop : Option Int64} {step : Int64} (h : c.Sound)
    (hs : c.sliceStep start stop step = .ok d) : d.Sound := by
  have hpart := h.of_subset (sliceStep_subset hs)
  rwa [← width_sliceStep hs] at hpart

theorem adjoint_eq_ok_iff :
    c.adjoint = .ok d ↔
      (∀ instruction ∈ c.instructions, instruction.isForeign = false) ∧
        d = ⟨c.width, c.instructions.reverse.map (Instruction.mapAngles Angle.negated)⟩ := by
  unfold adjoint
  simp only [except_bind_eq_ok_iff, mapM_eq_ok_iff, Instruction.conjugate_eq_ok_iff,
    List.forall₂_and_left, forall₂_eq_iff, List.mem_reverse]
  constructor
  · rintro ⟨_, ⟨hforeign, rfl⟩, ⟨⟩⟩
    exact ⟨hforeign, rfl⟩
  · rintro ⟨hforeign, rfl⟩
    exact ⟨_, ⟨hforeign, rfl⟩, rfl⟩

theorem Sound.adjoint (h : c.Sound) (ha : c.adjoint = .ok d) : d.Sound := by
  obtain ⟨-, rfl⟩ := adjoint_eq_ok_iff.1 ha
  constructor
  · intro instruction hmem
    obtain ⟨original, horiginal, rfl⟩ := List.mem_map.1 hmem
    exact (h.wellFormed original (List.mem_reverse.1 horiginal)).negated
  · intro instruction hmem
    obtain ⟨original, horiginal, rfl⟩ := List.mem_map.1 hmem
    unfold Within
    rw [Instruction.qubitFields_mapAngles]
    exact h.within original (List.mem_reverse.1 horiginal)

theorem TextBuilt.sound (h : TextBuilt c) : c.Sound := by
  induction h with
  | empty width => exact sound_of_readsAs .nil
  | ofLines h => exact sound_ofLines h
  | load h =>
    unfold Circuit.load at h
    obtain ⟨text, -, h⟩ := except_bind_eq_ok_iff.1 h
    exact sound_ofLines h
  | append name parameters _ ih => exact ih.appendInPlace name parameters
  | appendThrough w state name parameters _ ih => exact ih.appendThrough w state name parameters
  | concat _ _ h iha ihb => exact iha.concat ihb h
  | extend _ _ iha ihb => exact iha.extend ihb
  | add passing _ _ h iha ihb => exact iha.concat ihb ((add_eq_ok_iff passing).1 h)
  | addAssign passing _ _ iha ihb => exact iha.addAssign passing ihb
  | slice lower upper _ ih => exact ih.slice lower upper
  | sliceStep _ h ih => exact ih.sliceStep h
  | adjoint _ h ih => exact ih.adjoint h

/-- The lines of a circuit that text builds read back as the circuit, and each of its instructions
keeps what a line demands: distinct qubits that exist, the shape of its row, and legal angles. -/
theorem textBuilt_reads_back (h : TextBuilt c) :
    ofLines .hash c.width c.lines = .ok c ∧
      ∀ instruction ∈ c.instructions,
        instruction.qubitFields.Nodup ∧ (∀ qubit ∈ instruction.qubitFields, qubit < c.width) ∧
          instruction.HasShape ∧
          ∀ angle ∈ instruction.angles, Angle.read? .hash angle.text = some angle := by
  have hsound := h.sound
  refine ⟨ofLines_lines hsound.wellFormed hsound.within, ?_⟩
  intro instruction hmem
  have hwell := hsound.wellFormed instruction hmem
  refine ⟨hwell.distinct, hsound.within instruction hmem, hwell.shape, ?_⟩
  intro angle hangle
  rw [Angle.read?_eq_some_iff]
  exact hwell.readsBack angle hangle

theorem textBuilt_reads_back_diagonal :
    let c : Circuit :=
      ⟨2, [.note "done", .diagonal [⟨1, .multiplexed 0⟩] [.literal "-45", .placeholder "#1"]]⟩
    TextBuilt c ∧ ofLines .hash 2 c.lines = .ok c := by
  intro c
  have hdiagonal : ofLines .hash 2 ["DIAG\tIF\t1(0)\tBY\t45\t-#1"] =
      .ok ⟨2, [.diagonal [⟨1, .multiplexed 0⟩] [.literal "45", .placeholder "-#1"]]⟩ := by
    apply eq_ok_of_toOption
    decide +kernel
  have hnote : ofLines .hash 2 ["NOTA\tdone"] = .ok ⟨2, [.note "done"]⟩ := by
    apply eq_ok_of_toOption
    decide +kernel
  -- Of the two additions in place, the second is refused and leaves what the first has built.
  have hjoined : TextBuilt ⟨2, [.diagonal [⟨1, .multiplexed 0⟩] [.literal "45", .placeholder "-#1"],
      .note "done"]⟩ :=
    .addAssign .given (.addAssign .lent (.ofLines hdiagonal) (.ofLines hnote)) (.empty 3)
  have hbuilt : TextBuilt c := .adjoint hjoined rfl
  exact ⟨hbuilt, (textBuilt_reads_back hbuilt).1⟩

end

end CircuitScript.Circuit
