import CircuitScript.Circuit.Basic
/-!
Strides over a list in 64-bit words: where a stride begins and ends, and the positions it visits. A
sum that is no word ends the program, except for the next position of the stride: there the stride
ends.
-/
namespace CircuitScript.Circuit

def word? (n : Int) : Option Int64 :=
  if Int64.minValue.toInt ≤ n ∧ n ≤ Int64.maxValue.toInt then some (Int64.ofInt n) else none

theorem word?_eq_some_iff {n : Int} {word : Int64} : word? n = some word ↔ word.toInt = n := by
  unfold word?
  constructor
  · intro h
    split at h
    · rename_i hn
      cases h
      exact Int64.toInt_ofInt_of_le hn.1 (Int.lt_add_one_of_le hn.2)
    · cases h
  · rintro rfl
    rw [if_pos ⟨word.le_toInt, Int.le_of_lt_add_one word.toInt_lt⟩, Int64.ofInt_toInt]

theorem word?_eq_none_iff {n : Int} :
    word? n = none ↔ n < Int64.minValue.toInt ∨ Int64.maxValue.toInt < n := by
  unfold word?
  split
  · rw [iff_false_left (by simp)]
    omega
  · rw [iff_true_left rfl]
    omega

/-- The word of a sum or a difference; the program ends where there is none. -/
def wordOrAbort (operation : String) (n : Int) : Except Abort Int64 :=
  match word? n with
  | some word => .ok word
  | none => .error ⟨s!"attempt to {operation} with overflow"⟩

theorem wordOrAbort_eq_ok (operation : String) {n : Int} (hl : Int64.minValue.toInt ≤ n)
    (hu : n ≤ Int64.maxValue.toInt) :
    ∃ word, wordOrAbort operation n = .ok word ∧ word.toInt = n := by
  have hword : word? n = some (Int64.ofInt n) := if_pos ⟨hl, hu⟩
  exact ⟨_, by rw [wordOrAbort, hword], word?_eq_some_iff.1 hword⟩

def clampOrAbort (lower upper word : Int64) : Except Abort Int64 :=
  if upper < lower then .error ⟨"assertion failed: min <= max"⟩
  else .ok (if word < lower then lower else if upper < word then upper else word)

theorem clampOrAbort_eq_ok {lower upper : Int64} (word : Int64) (h : lower.toInt ≤ upper.toInt) :
    ∃ clamped, clampOrAbort lower upper word = .ok clamped ∧
      clamped.toInt = max lower.toInt (min upper.toInt word.toInt) := by
  unfold clampOrAbort
  rw [if_neg (by rw [Int64.lt_iff_toInt_lt]; omega)]
  refine ⟨_, rfl, ?_⟩
  simp only [Int64.lt_iff_toInt_lt]
  split
  · omega
  · split <;> omega

def endBounds (length step : Int64) : Except Abort (Int64 × Int64) :=
  if 0 < step then .ok (0, length)
  else do return (-1, ← wordOrAbort "subtract" (length.toInt - 1))

def countOrAbort (length index : Int64) : Except Abort Int64 :=
  if index < 0 then wordOrAbort "add" (index.toInt + length.toInt) else .ok index

def placeEnd (length : Int64) (bounds : Int64 × Int64) (index : Int64) : Except Abort Int64 := do
  clampOrAbort bounds.1 bounds.2 (← countOrAbort length index)

/-- Where a stride begins and before what it ends. A missing end is the end of the list in the
direction of the stride. -/
def strideEnds (length : Int64) (start stop : Option Int64) (step : Int64) :
    Except Abort (Int64 × Int64) := do
  let bounds ← endBounds length step
  let (first, last) := if 0 < step then bounds else bounds.swap
  return (← start.elim (pure first) (placeEnd length bounds),
    ← stop.elim (pure last) (placeEnd length bounds))

def stride (last step position : Int64) : List Int64 :=
  if 0 < step ∧ position < last ∨ step < 0 ∧ last < position then
    position :: match _ : word? (position.toInt + step.toInt) with
      | some next => stride last step next
      | none => []
  else []
termination_by
  (if 0 < step then last.toInt - position.toInt else position.toInt - last.toInt).toNat
decreasing_by
  rename_i hgo hnext
  have hvalue := word?_eq_some_iff.1 hnext
  simp only [Int64.lt_iff_toInt_lt, Int64.toInt_zero] at hgo ⊢
  split <;> omega

/-! The same ends over the integers. -/

def exactPlace (length step index : Int) : Int :=
  let counted := if index < 0 then index + length else index
  if 0 < step then max 0 (min length counted) else max (-1) (min (length - 1) counted)

def exactStart (length : Int) (start : Option Int) (step : Int) : Int :=
  start.elim (if 0 < step then 0 else length - 1) (exactPlace length step)

def exactStop (length : Int) (stop : Option Int) (step : Int) : Int :=
  stop.elim (if 0 < step then length else -1) (exactPlace length step)

theorem zero_lt_iff {word : Int64} : 0 < word ↔ 0 < word.toInt := by
  rw [Int64.lt_iff_toInt_lt, Int64.toInt_zero]

theorem lt_zero_iff {word : Int64} : word < 0 ↔ word.toInt < 0 := by
  rw [Int64.lt_iff_toInt_lt, Int64.toInt_zero]

variable {length : Int64}

theorem endBounds_eq_ok (step : Int64) (h : 0 ≤ length.toInt) :
    ∃ bounds, endBounds length step = .ok bounds ∧
      bounds.1.toInt = (if 0 < step.toInt then 0 else -1) ∧
      bounds.2.toInt = if 0 < step.toInt then length.toInt else length.toInt - 1 := by
  unfold endBounds
  simp only [zero_lt_iff]
  split
  · exact ⟨_, rfl, rfl, rfl⟩
  · have hlt := length.toInt_lt
    obtain ⟨upper, hok, hupper⟩ := wordOrAbort_eq_ok "subtract" (n := length.toInt - 1)
      (by rw [Int64.toInt_minValue]; omega) (by rw [Int64.toInt_maxValue]; omega)
    rw [hok]
    exact ⟨(-1, upper), rfl, rfl, hupper⟩

theorem countOrAbort_eq_ok (index : Int64) (h : 0 ≤ length.toInt) :
    ∃ counted, countOrAbort length index = .ok counted ∧
      counted.toInt = if index.toInt < 0 then index.toInt + length.toInt else index.toInt := by
  have hle := index.le_toInt
  have hlt := length.toInt_lt
  unfold countOrAbort
  simp only [lt_zero_iff]
  split
  · apply wordOrAbort_eq_ok
    · rw [Int64.toInt_minValue]
      omega
    · rw [Int64.toInt_maxValue]
      omega
  · exact ⟨index, rfl, rfl⟩

theorem placeEnd_eq_ok {bounds : Int64 × Int64} {step : Int64} (index : Int64)
    (h : 0 ≤ length.toInt) (hbounds : endBounds length step = .ok bounds) :
    ∃ place, placeEnd length bounds index = .ok place ∧
      place.toInt = exactPlace length.toInt step.toInt index.toInt := by
  obtain ⟨_, hok, hlower, hupper⟩ := endBounds_eq_ok step h
  cases hbounds.symm.trans hok
  obtain ⟨counted, hcounted, hvalue⟩ := countOrAbort_eq_ok index h
  have hle : bounds.1.toInt ≤ bounds.2.toInt := by
    rw [hlower, hupper]
    split <;> omega
  obtain ⟨place, hplace, hclamped⟩ := clampOrAbort_eq_ok counted hle
  refine ⟨place, ?_, ?_⟩
  · rw [placeEnd, hcounted]
    exact hplace
  · rw [hclamped, hlower, hupper, hvalue, exactPlace]
    split <;> rfl

theorem strideEnds_eq_ok (start stop : Option Int64) (step : Int64) (h : 0 ≤ length.toInt) :
    ∃ first last, strideEnds length start stop step = .ok (first, last) ∧
      first.toInt = exactStart length.toInt (start.map Int64.toInt) step.toInt ∧
      last.toInt = exactStop length.toInt (stop.map Int64.toInt) step.toInt := by
  obtain ⟨bounds, hok, hlower, hupper⟩ := endBounds_eq_ok step h
  have helim (default : Int64) (given : Option Int64) :
      ∃ place, given.elim (pure default) (placeEnd length bounds) = Except.ok place ∧
        place.toInt = (given.map Int64.toInt).elim default.toInt
          (exactPlace length.toInt step.toInt) := by
    cases given with
    | none => exact ⟨default, rfl, rfl⟩
    | some index => exact placeEnd_eq_ok index h hok
  obtain ⟨first, hfirst, hfirstValue⟩ := helim (if 0 < step then bounds else bounds.swap).1 start
  obtain ⟨last, hlast, hlastValue⟩ := helim (if 0 < step then bounds else bounds.swap).2 stop
  refine ⟨first, last, ?_, ?_, ?_⟩
  · simp only [strideEnds, hok, bind, Except.bind, hfirst, hlast]
    rfl
  · rw [hfirstValue, exactStart]
    congr 1
    simp only [zero_lt_iff]
    split
    · rw [hlower, if_pos ‹_›]
    · rw [Prod.fst_swap, hupper, if_neg ‹_›]
  · rw [hlastValue, exactStop]
    congr 1
    simp only [zero_lt_iff]
    split
    · rw [hupper, if_pos ‹_›]
    · rw [Prod.snd_swap, hlower, if_neg ‹_›]

end CircuitScript.Circuit
