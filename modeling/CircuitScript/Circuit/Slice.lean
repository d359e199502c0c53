import CircuitScript.Circuit.Stride
/-!
Parts of a circuit: the instructions of a range of indices, or those that a stride visits.
-/
namespace CircuitScript

inductive Bound where
  | included (index : UInt64)
  | excluded (index : UInt64)
  | unbounded
  deriving DecidableEq, Repr

namespace Circuit

/-- The next word; the greatest one stays. -/
def nextWord (index : UInt64) : UInt64 :=
  if index.toNat + 1 < UInt64.size then index + 1 else index

theorem toNat_nextWord (index : UInt64) :
    (nextWord index).toNat = min (index.toNat + 1) (UInt64.size - 1) := by
  have hlt := index.toNat_lt_size
  unfold nextWord
  split
  · rw [UInt64.toNat_add, UInt64.toNat_one, Nat.mod_eq_of_lt ‹_›]
    omega
  · omega

def firstIndex : Bound → Nat
  | .included index => index.toNat
  | .excluded index => (nextWord index).toNat
  | .unbounded => 0

def endIndex (length : Nat) : Bound → Nat
  | .included index => (nextWord index).toNat
  | .excluded index => index.toNat
  | .unbounded => length

/-- The items from one index up to another one. Indices that cross and an end behind the list end
the program. -/
def itemsOrAbort (items : List α) (first last : Nat) : Except Abort (List α) :=
  let length := items.length
  if last < first then .error ⟨s!"slice index starts at {first} but ends at {last}"⟩
  else if length < last then
    .error ⟨s!"range end index {last} out of range for slice of length {length}"⟩
  else .ok ((items.drop first).take (last - first))

def sliceOrAbort (c : Circuit) (lower upper : Bound) : Except Abort Circuit := do
  let first := min (firstIndex lower) c.size
  let last := min (endIndex c.size upper) c.size
  return { c with instructions := ← itemsOrAbort c.instructions first (max last first) }

theorem take_drop_min (items : List α) (first last : Nat) :
    (items.drop (min first items.length)).take (min last items.length - min first items.length) =
      (items.drop first).take (last - first) := by
  by_cases hfirst : first ≤ items.length
  · rw [Nat.min_eq_left hfirst, List.take_eq_take_iff, List.length_drop]
    omega
  · rw [List.drop_eq_nil_of_le (by omega), List.drop_eq_nil_of_le (by omega), List.take_nil,
      List.take_nil]

theorem itemsOrAbort_clamped (items : List α) (first last : Nat) :
    itemsOrAbort items (min first items.length)
        (max (min last items.length) (min first items.length)) =
      .ok ((items.drop first).take (last - first)) := by
  have hcrossed : ¬max (min last items.length) (min first items.length) <
      min first items.length := by omega
  have hbehind : ¬items.length < max (min last items.length) (min first items.length) := by omega
  unfold itemsOrAbort
  simp only [if_neg hcrossed, if_neg hbehind]
  rw [← take_drop_min items first last]
  congr 2
  omega

theorem sliceOrAbort_eq (c : Circuit) (lower upper : Bound) :
    c.sliceOrAbort lower upper =
      .ok { c with
        instructions := (c.instructions.drop (firstIndex lower)).take
          (endIndex c.size upper - firstIndex lower) } := by
  unfold sliceOrAbort
  dsimp only [size]
  rw [itemsOrAbort_clamped]
  rfl

/-- The instructions between two bounds, for callers that need not think of aborts. -/
def slice (c : Circuit) (lower upper : Bound) : Circuit :=
  match h : c.sliceOrAbort lower upper with
  | .ok part => part
  | .error _ => absurd (c.sliceOrAbort_eq lower upper) (by simp [h])

theorem slice_eq (c : Circuit) (lower upper : Bound) :
    c.slice lower upper =
      { c with
        instructions := (c.instructions.drop (firstIndex lower)).take
          (endIndex c.size upper - firstIndex lower) } := by
  unfold slice
  split
  · rename_i heq
    exact Except.ok.inj (heq.symm.trans (c.sliceOrAbort_eq lower upper))
  · rename_i heq
    cases heq.symm.trans (c.sliceOrAbort_eq lower upper)

theorem sliceOrAbort_eq_ok (c : Circuit) (lower upper : Bound) :
    c.sliceOrAbort lower upper = .ok (c.slice lower upper) := by
  rw [sliceOrAbort_eq, slice_eq]

def atWord? (c : Circuit) (position : Int64) : Option Instruction :=
  if 0 ≤ position then c.instructions[position.toInt.toNat]? else none

/-- The instructions that a stride visits. A step of zero visits nothing and is refused, and so is a
list that is too long for its positions to be words. -/
def sliceStepOrAbort (c : Circuit) (start stop : Option Int64) (step : Int64) :
    Except Abort (Except CircuitError Circuit) :=
  if step = 0 then .ok (.error .zeroStep)
  else match word? c.size with
    | none => .ok (.error .zeroStep)
    | some length => do
      let (first, last) ← strideEnds length start stop step
      return .ok { c with instructions := (stride last step first).filterMap c.atWord? }

theorem sliceStepOrAbort_cases (c : Circuit) (start stop : Option Int64) (step : Int64) :
    c.sliceStepOrAbort start stop step = .ok (.error .zeroStep) ∧
        (step = 0 ∨ word? c.size = none) ∨
      ∃ length first last, step ≠ 0 ∧ word? c.size = some length ∧
        strideEnds length start stop step = .ok (first, last) ∧
        c.sliceStepOrAbort start stop step =
          .ok (.ok { c with instructions := (stride last step first).filterMap c.atWord? }) := by
  unfold sliceStepOrAbort
  by_cases hstep : step = 0
  · exact .inl ⟨if_pos hstep, .inl hstep⟩
  · rw [if_neg hstep]
    cases hlength : word? c.size with
    | none => exact .inl ⟨rfl, .inr rfl⟩
    | some length =>
      have hpos : 0 ≤ length.toInt := by
        rw [word?_eq_some_iff.1 hlength]
        exact Int.natCast_nonneg _
      obtain ⟨first, last, hends, -⟩ := strideEnds_eq_ok start stop step hpos
      refine .inr ⟨length, first, last, hstep, rfl, hends, ?_⟩
      simp only [hends]
      rfl

theorem exists_sliceStepOrAbort (c : Circuit) (start stop : Option Int64) (step : Int64) :
    ∃ outcome, c.sliceStepOrAbort start stop step = .ok outcome := by
  obtain ⟨h, -⟩ | ⟨_, _, _, -, -, -, h⟩ := c.sliceStepOrAbort_cases start stop step
  · exact ⟨_, h⟩
  · exact ⟨_, h⟩

def sliceStep (c : Circuit) (start stop : Option Int64) (step : Int64) :
    Except CircuitError Circuit :=
  match h : c.sliceStepOrAbort start stop step with
  | .ok outcome => outcome
  | .error _ => absurd (c.exists_sliceStepOrAbort start stop step) (by simp [h])

theorem sliceStepOrAbort_eq_ok (c : Circuit) (start stop : Option Int64) (step : Int64) :
    c.sliceStepOrAbort start stop step = .ok (c.sliceStep start stop step) := by
  obtain ⟨outcome, h⟩ := c.exists_sliceStepOrAbort start stop step
  rw [h]
  congr 1
  unfold sliceStep
  split
  · rename_i heq
    exact Except.ok.inj (h.symm.trans heq)
  · rename_i heq
    cases h.symm.trans heq

theorem sliceStep_eq_iff {c : Circuit} {start stop : Option Int64} {step : Int64}
    {outcome : Except CircuitError Circuit} :
    c.sliceStep start stop step = outcome ↔ c.sliceStepOrAbort start stop step = .ok outcome := by
  rw [sliceStepOrAbort_eq_ok, Except.ok.injEq]

theorem eq_of_sliceStep {c d : Circuit} {start stop : Option Int64} {step : Int64}
    (h : c.sliceStep start stop step = .ok d) :
    ∃ positions : List Int64, d = { c with instructions := positions.filterMap c.atWord? } := by
  rw [sliceStep_eq_iff] at h
  obtain ⟨hok, -⟩ | ⟨_, first, last, -, -, -, hok⟩ := c.sliceStepOrAbort_cases start stop step
  · cases h.symm.trans hok
  · cases h.symm.trans hok
    exact ⟨_, rfl⟩

end Circuit

end CircuitScript
