import CircuitScript.Proofs.Circuit.TextBuilt
/-!
Loops and conditional blocks under the adjoint. The marks of a block stay as they are and only change
places, so the adjoint of a circuit in blocks is its mirror image: every block holds the adjoint of
what it held, but ends where it should begin.
-/
namespace CircuitScript

namespace Instruction

def isMark : Instruction → Bool
  | .loopBegin .. | .loopEnd _ | .conditionBegin _ | .conditionEnd => true
  | _ => false

inductive Encloses : Instruction → Instruction → Prop
  | loop (id repetitions : UInt32) : Encloses (.loopBegin id repetitions) (.loopEnd id)
  | condition (conditions : List Control) : Encloses (.conditionBegin conditions) .conditionEnd

variable {first last : Instruction}

theorem Encloses.isMark_first (h : Encloses first last) : first.isMark = true := by
  cases h <;> rfl

theorem Encloses.isMark_last (h : Encloses first last) : last.isMark = true := by
  cases h <;> rfl

theorem Encloses.asymm (h : Encloses first last) {other : Instruction} :
    ¬Encloses last other := by
  cases h <;> nofun

@[simp] theorem isMark_mapAngles (f : Angle → Angle) (instruction : Instruction) :
    (instruction.mapAngles f).isMark = instruction.isMark := by
  cases instruction <;> rfl

theorem mapAngles_of_isMark {f : Angle → Angle} {instruction : Instruction}
    (h : instruction.isMark = true) : instruction.mapAngles f = instruction := by
  cases instruction with
  | loopBegin | loopEnd | conditionBegin | conditionEnd => rfl
  | _ => cases h

theorem Encloses.mapAngles (f : Angle → Angle) (h : Encloses first last) :
    Encloses (first.mapAngles f) (last.mapAngles f) := by
  rwa [mapAngles_of_isMark h.isMark_first, mapAngles_of_isMark h.isMark_last]

end Instruction

open Instruction (Encloses)

/-- The marks among the lines pair up like brackets, a pair being two marks related by `pair`, the
one that comes first on the left. -/
inductive Nested (pair : Instruction → Instruction → Prop) : List Instruction → Prop
  | nil : Nested pair []
  | line {instruction : Instruction} {rest : List Instruction}
      (h : instruction.isMark = false) (hrest : Nested pair rest) :
      Nested pair (instruction :: rest)
  | block {first last : Instruction} {body rest : List Instruction} (h : pair first last)
      (hbody : Nested pair body) (hrest : Nested pair rest) :
      Nested pair (first :: body ++ last :: rest)

namespace Nested

variable {pair : Instruction → Instruction → Prop} {lines others : List Instruction}

theorem append (h : Nested pair lines) (ho : Nested pair others) :
    Nested pair (lines ++ others) := by
  induction h with
  | nil => exact ho
  | line h _ ih => exact .line h ih
  | block h hbody _ _ ih =>
    rw [List.append_assoc]
    exact .block h hbody ih

theorem reverse (h : Nested pair lines) : Nested (flip pair) lines.reverse := by
  induction h with
  | nil => exact .nil
  | line h _ ih =>
    rw [List.reverse_cons]
    exact ih.append (.line h .nil)
  | @block first last body rest h _ _ ihbody ihrest =>
    -- Read from the end, the last mark comes first and is the left one of the flipped pair.
    have hblock : Nested (flip pair) (last :: body.reverse ++ [first]) := .block h ihbody .nil
    have hlines : (first :: body ++ last :: rest).reverse =
        rest.reverse ++ (last :: body.reverse ++ [first]) := by simp
    rw [hlines]
    exact ihrest.append hblock

theorem map {f : Instruction → Instruction} (hmark : ∀ i, (f i).isMark = i.isMark)
    (hpair : ∀ first last, pair first last → pair (f first) (f last)) (h : Nested pair lines) :
    Nested pair (lines.map f) := by
  induction h with
  | nil => exact .nil
  | line h _ ih => exact .line ((hmark _).trans h) ih
  | block h _ _ ihbody ihrest =>
    rw [List.map_append]
    exact .block (hpair _ _ h) ihbody ihrest

theorem pair_of_find? {mark : Instruction}
    (hmarks : ∀ first last, pair first last → first.isMark = true) (h : Nested pair lines)
    (hfind : lines.find? Instruction.isMark = some mark) : ∃ last, pair mark last := by
  induction h with
  | nil => cases hfind
  | line h _ ih =>
    rw [List.find?_cons_of_neg (by simp [h])] at hfind
    exact ih hfind
  | block h _ _ _ _ =>
    rw [List.cons_append, List.find?_cons_of_pos (hmarks _ _ h)] at hfind
    cases hfind
    exact ⟨_, h⟩

theorem of_forall_not_isMark (h : ∀ instruction ∈ lines, instruction.isMark = false) :
    Nested pair lines := by
  induction lines with
  | nil => exact .nil
  | cons instruction rest ih =>
    have hrest := ih fun other hmem => h other (List.mem_cons_of_mem _ hmem)
    exact .line (h instruction List.mem_cons_self) hrest

theorem both_iff (h : Nested (flip Encloses) lines) :
    Nested Encloses lines ↔ ∀ instruction ∈ lines, instruction.isMark = false := by
  refine ⟨fun hforward => ?_, of_forall_not_isMark⟩
  have hnone : lines.find? Instruction.isMark = none := by
    cases hfind : lines.find? Instruction.isMark with
    | none => rfl
    | some mark =>
      -- The first mark would have to begin a block and to end one.
      obtain ⟨last, hlast⟩ := hforward.pair_of_find? (fun _ _ h => h.isMark_first) hfind
      obtain ⟨first, hfirst⟩ := h.pair_of_find? (fun _ _ h => Encloses.isMark_last h) hfind
      exact absurd hlast (Encloses.asymm hfirst)
  simpa using hnone

end Nested

namespace Circuit

variable {c d : Circuit}

/-- Loops and conditional blocks lie in one another or one after the other, and each begins before
it ends. -/
def BlockStructured (c : Circuit) : Prop := Nested Encloses c.instructions

def MirrorStructured (c : Circuit) : Prop := Nested (flip Encloses) c.instructions

theorem BlockStructured.adjoint (h : c.BlockStructured) (ha : c.adjoint = .ok d) :
    d.MirrorStructured := by
  obtain ⟨-, rfl⟩ := adjoint_eq_ok_iff.1 ha
  apply Nested.map (Instruction.isMark_mapAngles _) _ h.reverse
  intro last first hpair
  exact Encloses.mapAngles _ hpair

theorem isMark_adjoint (ha : c.adjoint = .ok d) :
    (∀ instruction ∈ d.instructions, instruction.isMark = false) ↔
      ∀ instruction ∈ c.instructions, instruction.isMark = false := by
  obtain ⟨-, rfl⟩ := adjoint_eq_ok_iff.1 ha
  simp

/-- Where a block of the circuit lies: the lines before it, its marks with the lines between them,
and the lines after it. -/
structure BlockAt (c : Circuit) (before : List Instruction) (first : Instruction)
    (body : List Instruction) (last : Instruction) (after : List Instruction) : Prop where
  lines : c.instructions = before ++ first :: body ++ last :: after
  marks : Encloses first last
  nested : Nested Encloses body

theorem adjoint_part {part : List Instruction} (ha : c.adjoint = .ok d)
    (hpart : ∀ instruction ∈ part, instruction ∈ c.instructions) :
    adjoint ⟨c.width, part⟩ =
      .ok ⟨c.width, part.reverse.map (Instruction.mapAngles Angle.negated)⟩ := by
  obtain ⟨hknown, -⟩ := adjoint_eq_ok_iff.1 ha
  refine adjoint_eq_ok_iff.2 ⟨?_, rfl⟩
  intro instruction hmem
  exact hknown instruction (hpart instruction hmem)

/-- The adjoint of a circuit in blocks has the same blocks with the same marks, and each of them
holds the adjoint of its lines; but the mark that ends a block comes first now. So the blocks nest
as before only for the reader who starts at the end, and in a circuit without blocks. -/
theorem adjoint_mirrors_blocks (hc : c.BlockStructured) (ha : c.adjoint = .ok d) :
    d.MirrorStructured ∧
      (∀ before first body last after, c.BlockAt before first body last after →
        ∃ before' body' after',
          adjoint ⟨c.width, before⟩ = .ok ⟨c.width, before'⟩ ∧
          adjoint ⟨c.width, body⟩ = .ok ⟨c.width, body'⟩ ∧
          adjoint ⟨c.width, after⟩ = .ok ⟨c.width, after'⟩ ∧
          d.instructions = after' ++ last :: body' ++ first :: before') ∧
      (d.BlockStructured ↔ ∀ instruction ∈ c.instructions, instruction.isMark = false) := by
  have hmirror := hc.adjoint ha
  refine ⟨hmirror, ?_, hmirror.both_iff.trans (isMark_adjoint ha)⟩
  intro before first body last after hblock
  refine ⟨_, _, _, adjoint_part ha ?_, adjoint_part ha ?_, adjoint_part ha ?_, ?_⟩
  · simp +contextual [hblock.lines]
  · simp +contextual [hblock.lines]
  · simp +contextual [hblock.lines]
  · obtain ⟨-, rfl⟩ := adjoint_eq_ok_iff.1 ha
    simp [hblock.lines, Instruction.mapAngles_of_isMark hblock.marks.isMark_first,
      Instruction.mapAngles_of_isMark hblock.marks.isMark_last]

theorem adjoint_mirrors_blocks_nested :
    let c : Circuit := ⟨2, [.loopBegin 7 3, .conditionBegin [⟨0, .isOne⟩],
      .rotation .x (.literal "30") 1 [], .conditionEnd, .loopEnd 7, .hadamard 0 []]⟩
    let d : Circuit := ⟨2, [.hadamard 0 [], .loopEnd 7, .conditionEnd,
      .rotation .x (.literal "-30") 1 [], .conditionBegin [⟨0, .isOne⟩], .loopBegin 7 3]⟩
    c.BlockStructured ∧ c.adjoint = .ok d ∧ d.MirrorStructured ∧ ¬d.BlockStructured := by
  intro c d
  have hc : c.BlockStructured :=
    .block (.loop 7 3) (.block (.condition _) (.line rfl .nil) .nil) (.line rfl .nil)
  have ha : c.adjoint = .ok d := rfl
  obtain ⟨hmirror, -, hplain⟩ := adjoint_mirrors_blocks hc ha
  refine ⟨hc, ha, hmirror, ?_⟩
  rw [hplain]
  decide

/-- A loop whose end comes first is no loop. -/
theorem adjoint_not_blockStructured :
    let c : Circuit := ⟨2, [.loopBegin 1 4, .rotation .x (.literal "30") 0 [], .loopEnd 1]⟩
    let d : Circuit := ⟨2, [.loopEnd 1, .rotation .x (.literal "-30") 0 [], .loopBegin 1 4]⟩
    c.BlockStructured ∧ c.adjoint = .ok d ∧ ¬d.BlockStructured := by
  intro c d
  have hc : c.BlockStructured := .block (.loop 1 4) (.line rfl .nil) .nil
  have ha : c.adjoint = .ok d := rfl
  refine ⟨hc, ha, ?_⟩
  intro hd
  have hnone := (hc.adjoint ha).both_iff.1 hd
  exact absurd (hnone (.loopEnd 1) List.mem_cons_self) (by decide)

end Circuit

end CircuitScript
