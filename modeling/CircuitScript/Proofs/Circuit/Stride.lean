import CircuitScript.Circuit.Slice
import Mathlib.Tactic.Ring
/-!
Slices with a stride, said over unbounded integers: the positions from the first end on, one step
apart, as long as they stand before the last end. The words neither overflow on the way nor cut the
positions short.
-/
namespace CircuitScript.Circuit

def StandsBefore (step position last : Int) : Prop :=
  if 0 < step then position < last else last < position

/-- The positions are `first`, `first + step`, `first + 2 * step` and so on, and all of these that
stand before the end. -/
structure Visits (first last step : Int) (positions : List Int) : Prop where
  getElem_eq : ∀ i (h : i < positions.length), positions[i] = first + i * step
  lt_length_iff : ∀ i : Nat, i < positions.length ↔ StandsBefore step (first + i * step) last

section

variable {first last step : Int} {positions : List Int}

theorem StandsBefore.of_add (i : Nat) (h : StandsBefore step (first + i * step) last) :
    StandsBefore step first last := by
  unfold StandsBefore at h ⊢
  split at h
  · have hpos : 0 ≤ i * step := Int.mul_nonneg (Int.natCast_nonneg i) (by omega)
    rw [if_pos ‹_›]
    omega
  · have hneg : i * step ≤ 0 := Int.mul_nonpos_of_nonneg_of_nonpos (Int.natCast_nonneg i) (by omega)
    rw [if_neg ‹_›]
    omega

theorem visits_nil (h : ¬StandsBefore step first last) : Visits first last step [] where
  getElem_eq i hi := absurd hi (Nat.not_lt_zero i)
  lt_length_iff i := iff_of_false (Nat.not_lt_zero i) fun hi => h hi.of_add

theorem Visits.cons (h : Visits (first + step) last step positions)
    (hfirst : StandsBefore step first last) : Visits first last step (first :: positions) := by
  have hnext (i : Nat) : first + (i + 1 : Nat) * step = first + step + i * step := by
    push_cast
    ring
  constructor
  · intro i hi
    cases i with
    | zero => simp
    | succ i => rw [List.getElem_cons_succ, h.getElem_eq, hnext]
  · intro i
    cases i with
    | zero => simpa using hfirst
    | succ i => rw [List.length_cons, Nat.succ_lt_succ_iff, h.lt_length_iff, hnext]

theorem Visits.standsBefore (h : Visits first last step positions) {position : Int}
    (hmem : position ∈ positions) :
    StandsBefore step position last ∧ ∃ i : Nat, position = first + i * step := by
  obtain ⟨i, hi, rfl⟩ := List.getElem_of_mem hmem
  rw [h.getElem_eq i hi]
  exact ⟨(h.lt_length_iff i).1 hi, i, rfl⟩

end

theorem goesOn_iff {last step position : Int64} (hstep : step ≠ 0) :
    (0 < step ∧ position < last ∨ step < 0 ∧ last < position) ↔
      StandsBefore step.toInt position.toInt last.toInt := by
  have hne : step.toInt ≠ 0 := mt (fun h => Int64.toInt_inj.1 (h.trans Int64.toInt_zero.symm)) hstep
  simp only [Int64.lt_iff_toInt_lt, Int64.toInt_zero, StandsBefore]
  split <;> omega

/-- A position that is no word would stand behind the end, which is one. -/
theorem not_standsBefore_of_word?_eq_none {last step position : Int64}
    (h : word? (position.toInt + step.toInt) = none) :
    ¬StandsBefore step.toInt (position.toInt + step.toInt) last.toInt := by
  rw [word?_eq_none_iff, Int64.toInt_minValue, Int64.toInt_maxValue] at h
  have := position.le_toInt
  have := position.toInt_lt
  have := last.le_toInt
  have := last.toInt_lt
  unfold StandsBefore
  split <;> omega

theorem visits_stride {step : Int64} (last position : Int64) (hstep : step ≠ 0) :
    Visits position.toInt last.toInt step.toInt ((stride last step position).map Int64.toInt) := by
  fun_induction stride last step position with
  | case1 position hgo ih =>
    rw [List.map_cons]
    apply Visits.cons _ ((goesOn_iff hstep).1 hgo)
    split
    · rename_i next hnext
      rw [← word?_eq_some_iff.1 hnext]
      exact ih next hnext
    · rename_i hnext
      exact visits_nil (not_standsBefore_of_word?_eq_none hnext)
  | case2 position hgo => exact visits_nil (mt (goesOn_iff hstep).2 hgo)

section

variable {length step : Int}

def IsPlace (length step place : Int) : Prop :=
  if 0 < step then 0 ≤ place ∧ place ≤ length else -1 ≤ place ∧ place < length

theorem IsPlace.elim {default : Int} (given : Option Int) (hlength : 0 ≤ length)
    (h : IsPlace length step default) :
    IsPlace length step (given.elim default (exactPlace length step)) := by
  cases given with
  | none => exact h
  | some index =>
    simp only [IsPlace, Option.elim_some, exactPlace]
    split <;> omega

theorem isPlace_exactStart (step : Int) (start : Option Int) (hlength : 0 ≤ length) :
    IsPlace length step (exactStart length start step) := by
  apply IsPlace.elim start hlength
  unfold IsPlace
  split <;> omega

theorem isPlace_exactStop (step : Int) (stop : Option Int) (hlength : 0 ≤ length) :
    IsPlace length step (exactStop length stop step) := by
  apply IsPlace.elim stop hlength
  unfold IsPlace
  split <;> omega

theorem Visits.mem_range {positions : List Int} {start stop : Option Int} (hlength : 0 ≤ length)
    (h : Visits (exactStart length start step) (exactStop length stop step) step positions) :
    ∀ position ∈ positions, 0 ≤ position ∧ position < length := by
  intro position hmem
  obtain ⟨hbefore, i, hposition⟩ := h.standsBefore hmem
  have hstart := isPlace_exactStart step start hlength
  have hstop := isPlace_exactStop step stop hlength
  unfold IsPlace at hstart hstop
  unfold StandsBefore at hbefore
  split at hbefore
  · have hpos : 0 ≤ i * step := Int.mul_nonneg (Int.natCast_nonneg i) (by omega)
    rw [if_pos ‹_›] at hstart hstop
    omega
  · have hneg : i * step ≤ 0 := Int.mul_nonpos_of_nonneg_of_nonpos (Int.natCast_nonneg i) (by omega)
    rw [if_neg ‹_›] at hstart hstop
    omega

end

theorem atWord?_eq {c : Circuit} {position : Int64} (h : 0 ≤ position.toInt) :
    c.atWord? position = c.get? position.toInt.toNat :=
  if_pos (by rw [Int64.le_iff_toInt_le, Int64.toInt_zero]; exact h)

theorem map_some_filterMap_atWord? {c : Circuit} {positions : List Int64}
    (h : ∀ position ∈ positions.map Int64.toInt, 0 ≤ position ∧ position < c.size) :
    (positions.filterMap c.atWord?).map some =
      (positions.map Int64.toInt).map fun position => c.get? position.toNat := by
  induction positions with
  | nil => rfl
  | cons position positions ih =>
    rw [List.map_cons, List.forall_mem_cons] at h
    obtain ⟨⟨hlower, hupper⟩, hrest⟩ := h
    have hlt : position.toInt.toNat < c.instructions.length := by
      change _ < c.size
      omega
    have hsome : c.atWord? position = some c.instructions[position.toInt.toNat] := by
      rw [atWord?_eq hlower]
      exact List.getElem?_eq_getElem hlt
    rw [List.filterMap_cons_some hsome, List.map_cons, ih hrest, List.map_cons, List.map_cons,
      ← hsome, atWord?_eq hlower]

theorem exists_sliceStep_visits {c : Circuit} (hsize : c.size < 2 ^ 63) (start stop : Option Int64)
    {step : Int64} (hstep : step ≠ 0) :
    ∃ d positions, c.sliceStep start stop step = .ok d ∧ d.width = c.width ∧
      Visits (exactStart c.size (start.map Int64.toInt) step.toInt)
        (exactStop c.size (stop.map Int64.toInt) step.toInt) step.toInt positions ∧
      (∀ position ∈ positions, 0 ≤ position ∧ position < c.size) ∧
      d.instructions.map some = positions.map fun position => c.get? position.toNat := by
  have hword : word? c.size ≠ none := by
    rw [Ne, word?_eq_none_iff, Int64.toInt_minValue, Int64.toInt_maxValue]
    omega
  obtain ⟨-, hcause⟩ | ⟨length, first, last, -, hlength, hends, hsliced⟩ :=
    c.sliceStepOrAbort_cases start stop step
  · exact absurd hcause (not_or_intro hstep hword)
  · have hlengthValue := word?_eq_some_iff.1 hlength
    have hpos : 0 ≤ length.toInt := by omega
    obtain ⟨_, _, hends', hfirst, hlast⟩ := strideEnds_eq_ok start stop step hpos
    cases hends.symm.trans hends'
    rw [hlengthValue] at hfirst hlast
    have hvisits := visits_stride last first hstep
    rw [hfirst, hlast] at hvisits
    have hrange := hvisits.mem_range (Int.natCast_nonneg _)
    exact ⟨_, _, sliceStep_eq_iff.2 hsliced, rfl, hvisits, hrange,
      map_some_filterMap_atWord? hrange⟩

/-- A slice with a stride never aborts, is refused for the step zero alone, and else holds the
instructions at the positions that the stride visits over the integers, each of them in the list. -/
theorem sliceStep_visits {c : Circuit} (hsize : c.size < 2 ^ 63) (start stop : Option Int64)
    (step : Int64) :
    c.sliceStepOrAbort start stop step = .ok (c.sliceStep start stop step) ∧
      (∀ error, c.sliceStep start stop step = .error error ↔ step = 0 ∧ error = .zeroStep) ∧
      (step ≠ 0 → ∃ d positions, c.sliceStep start stop step = .ok d ∧ d.width = c.width ∧
        Visits (exactStart c.size (start.map Int64.toInt) step.toInt)
          (exactStop c.size (stop.map Int64.toInt) step.toInt) step.toInt positions ∧
        (∀ position ∈ positions, 0 ≤ position ∧ position < c.size) ∧
        d.instructions.map some = positions.map fun position => c.get? position.toNat) := by
  refine ⟨c.sliceStepOrAbort_eq_ok start stop step, ?_, exists_sliceStep_visits hsize start stop⟩
  intro error
  by_cases hstep : step = 0
  · have hrefused : c.sliceStep start stop step = .error .zeroStep :=
      sliceStep_eq_iff.2 (if_pos hstep)
    rw [hrefused]
    simp [hstep, eq_comm]
  · obtain ⟨d, _, hok, -⟩ := exists_sliceStep_visits hsize start stop hstep
    simp [hok, hstep]

theorem sliceStep_visits_leastStep :
    ∃ d positions,
      Circuit.sliceStep ⟨3, [.measure 0 0, .measure 0 1, .measure 0 2]⟩ none (some (-3))
        Int64.minValue = .ok d ∧ d.width = 3 ∧ Visits 2 0 (-2 ^ 63) positions ∧
      (∀ position ∈ positions, 0 ≤ position ∧ position < 3) ∧
      d.instructions.map some = positions.map fun position =>
        Circuit.get? ⟨3, [.measure 0 0, .measure 0 1, .measure 0 2]⟩ position.toNat :=
  (sliceStep_visits (by decide) none (some (-3)) Int64.minValue).2.2 (by decide)

end CircuitScript.Circuit
