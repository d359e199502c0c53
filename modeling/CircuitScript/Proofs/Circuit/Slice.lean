import CircuitScript.Proofs.Circuit.Stride
import CircuitScript.Proofs.Circuit.TextBuilt
/-!
Slices between two bounds keep the instructions whose index satisfies both, and so agree with the
stride of step one, with concatenation and with the adjoint.
-/
namespace CircuitScript

namespace Bound

def isBelow (index : Nat) : Bound → Bool
  | included bound => bound.toNat ≤ index
  | excluded bound => bound.toNat < index
  | unbounded => true

def isAbove (index : Nat) : Bound → Bool
  | included bound => index ≤ bound.toNat
  | excluded bound => index < bound.toNat
  | unbounded => true

end Bound

namespace Circuit

section

variable {index : Nat}

/-- The greatest word has no successor, which makes no difference: no index comes after it. -/
theorem isBelow_iff (lower : Bound) (h : index + 1 < UInt64.size) :
    lower.isBelow index ↔ firstIndex lower ≤ index := by
  cases lower with
  | included bound => simp [Bound.isBelow, firstIndex]
  | excluded bound =>
    simp only [Bound.isBelow, decide_eq_true_eq, firstIndex, toNat_nextWord]
    omega
  | unbounded => simp [Bound.isBelow, firstIndex]

theorem isAbove_iff {length : Nat} (upper : Bound) (h : index < length)
    (hlength : length < UInt64.size) :
    upper.isAbove index ↔ index < endIndex length upper := by
  cases upper with
  | included bound =>
    simp only [Bound.isAbove, decide_eq_true_eq, endIndex, toNat_nextWord]
    omega
  | excluded bound => simp [Bound.isAbove, endIndex]
  | unbounded => simpa [Bound.isAbove, endIndex] using h

theorem map_fst_filter_zipIdx (items : List α) (first last index : Nat) :
    ((items.zipIdx index).filter fun entry => first ≤ entry.2 ∧ entry.2 < last).map Prod.fst =
      (items.drop (first - index)).take (last - max first index) := by
  induction items generalizing index with
  | nil => simp
  | cons item items ih =>
    rw [List.zipIdx_cons, List.filter_cons]
    by_cases hfirst : index < first
    · have hskip : first - index = first - (index + 1) + 1 := by omega
      rw [if_neg (by simp [hfirst]), ih, hskip, List.drop_succ_cons, Nat.max_eq_left (by omega),
        Nat.max_eq_left (by omega)]
    · have hhere : first - index = 0 := by omega
      have hnext : first - (index + 1) = 0 := by omega
      rw [hhere, List.drop_zero, Nat.max_eq_right (by omega)]
      by_cases hlast : index < last
      · have hkeep : last - index = last - (index + 1) + 1 := by omega
        rw [if_pos (by simp [hlast, Nat.not_lt.1 hfirst]), List.map_cons, ih, hkeep,
          List.take_succ_cons, hnext, List.drop_zero, Nat.max_eq_right (by omega)]
      · have hend : last - index = 0 := by omega
        have hbehind : last - max first (index + 1) = 0 := by omega
        rw [if_neg (by simp [hlast]), ih, hend, hbehind, List.take_zero, List.take_zero]

end

section

variable {c : Circuit}

theorem instructions_slice (lower upper : Bound) (hsize : c.size < UInt64.size) :
    (c.slice lower upper).instructions =
      (c.instructions.zipIdx.filter fun entry =>
        lower.isBelow entry.2 && upper.isAbove entry.2).map Prod.fst := by
  have hbounds : ∀ entry ∈ c.instructions.zipIdx,
      (lower.isBelow entry.2 && upper.isAbove entry.2) =
        decide (firstIndex lower ≤ entry.2 ∧ entry.2 < endIndex c.size upper) := by
    rintro ⟨instruction, index⟩ hmem
    have hindex : index < c.size := (List.mem_zipIdx' hmem).1
    rw [Bool.eq_iff_iff, Bool.and_eq_true, decide_eq_true_eq]
    exact and_congr (isBelow_iff lower (by omega)) (isAbove_iff upper hindex hsize)
  rw [List.filter_congr hbounds, map_fst_filter_zipIdx, slice_eq, Nat.sub_zero, Nat.max_zero]

theorem Visits.eq_range' {first last : Nat} {positions : List Int}
    (h : Visits first last 1 positions) :
    positions = (List.range' first (last - first)).map Nat.cast := by
  have hlt (i : Nat) : i < positions.length ↔ first + i < last := by
    rw [h.lt_length_iff, StandsBefore, if_pos Int.one_pos]
    omega
  have hlength : positions.length = last - first := by
    have hlast := hlt positions.length
    have hprevious := hlt (positions.length - 1)
    omega
  apply List.ext_getElem
  · rw [List.length_map, List.length_range', hlength]
  · intro i hi _
    rw [h.getElem_eq i hi, List.getElem_map, List.getElem_range']
    push_cast
    ring

theorem map_getElem?_range' (items : List α) {first last : Nat} (h : last ≤ items.length) :
    (List.range' first (last - first)).map (items[·]?) =
      ((items.drop first).take (last - first)).map some := by
  apply List.ext_getElem
  · simp only [List.length_map, List.length_range', List.length_take, List.length_drop]
    omega
  · intro i hi _
    rw [List.length_map, List.length_range'] at hi
    have hlt : first + i < items.length := by omega
    simp [List.getElem?_eq_getElem hlt]

theorem exactPlace_one (length index : Nat) :
    exactPlace length 1 index = (min index length : Nat) := by
  rw [exactPlace, if_pos Int.one_pos, if_neg (Int.not_lt.2 (Int.natCast_nonneg index))]
  omega

theorem sliceStep_one {s e : Nat} (hsize : c.size < 2 ^ 63) (hs : s < 2 ^ 63) (he : e < 2 ^ 63) :
    c.sliceStep (some (.ofNat s)) (some (.ofNat e)) 1 =
      .ok (c.slice (.included (.ofNat s)) (.excluded (.ofNat e))) := by
  obtain ⟨⟨width, instructions⟩, positions, hok, hwidth, hvisits, -, hinstructions⟩ :=
    exists_sliceStep_visits hsize (some (.ofNat s)) (some (.ofNat e))
      (show (1 : Int64) ≠ 0 by decide)
  have hplace {index : Nat} (h : index < 2 ^ 63) :
      exactPlace c.size (1 : Int64).toInt (Int64.ofNat index).toInt = (min index c.size : Nat) := by
    rw [Int64.toInt_ofNat_of_lt h]
    exact exactPlace_one c.size index
  have hword {index : Nat} (h : index < 2 ^ 63) : (UInt64.ofNat index).toNat = index :=
    UInt64.toNat_ofNat_of_lt' (Nat.lt_trans h (by decide))
  simp only [exactStart, exactStop, Option.map_some, Option.elim_some, hplace hs, hplace he]
    at hvisits
  have hpart : instructions.map some = ((c.instructions.drop s).take (e - s)).map some := by
    rw [hinstructions, hvisits.eq_range', List.map_map, ← take_drop_min]
    exact map_getElem?_range' c.instructions (Nat.min_le_right e c.size)
  rw [hok, slice_eq, firstIndex, endIndex, hword hs, hword he]
  cases hwidth
  cases List.map_injective_iff.2 (Option.some_injective _) hpart
  rfl

theorem concat_slice (c : Circuit) (k : UInt64) :
    (c.slice .unbounded (.excluded k)).concat (c.slice (.included k) .unbounded) = .ok c := by
  have hrest : (c.instructions.drop k.toNat).take (c.size - k.toNat) =
      c.instructions.drop k.toNat := by
    rw [List.take_of_length_le]
    rw [List.length_drop]
    exact Nat.le_refl _
  rw [concat_eq_ok_iff, slice_eq, slice_eq]
  refine ⟨rfl, ?_⟩
  simp only [firstIndex, endIndex, List.drop_zero, Nat.sub_zero, hrest, List.take_append_drop]

theorem reverse_take_drop (items : List α) {i j : Nat} (hij : i ≤ j) (hj : j ≤ items.length) :
    ((items.drop i).take (j - i)).reverse =
      (items.reverse.drop (items.length - j)).take (items.length - i - (items.length - j)) := by
  have hcount : items.length - i - (items.length - j) = j - i := by omega
  have hkept : (items.take j).length - (j - i) = i := by
    rw [List.length_take]
    omega
  rw [hcount, List.drop_reverse, Nat.sub_sub_self hj, List.take_reverse, hkept, List.drop_take]

theorem adjoint_slice {i j : Nat} (hforeign : ∀ instruction ∈ c.instructions,
    instruction.isForeign = false) (hsize : c.size < UInt64.size) (hij : i ≤ j) (hj : j ≤ c.size) :
    ∃ d, c.adjoint = .ok d ∧
      (c.slice (.included (.ofNat i)) (.excluded (.ofNat j))).adjoint =
        .ok (d.slice (.included (.ofNat (c.size - j))) (.excluded (.ofNat (c.size - i)))) := by
  refine ⟨_, adjoint_eq_ok_iff.2 ⟨hforeign, rfl⟩, adjoint_eq_ok_iff.2 ⟨?_, ?_⟩⟩
  · intro instruction hmem
    exact hforeign instruction (slice_subset _ _ instruction hmem)
  · have hword {index : Nat} (h : index ≤ c.size) : (UInt64.ofNat index).toNat = index :=
      UInt64.toNat_ofNat_of_lt' (by omega)
    simp only [slice_eq, firstIndex, endIndex, hword (Nat.sub_le c.size _), hword hj,
      hword (hij.trans hj)]
    rw [reverse_take_drop c.instructions hij hj, List.map_take, List.map_drop]
    rfl

/-- A slice never aborts. It has the width of the circuit and, in their order, the instructions
whose index satisfies both bounds. So it agrees with the stride of step one, the two parts at a place
make up the circuit, and the adjoint of a part is a part of the adjoint. The length of a list is a
word, and in a stride a signed one. -/
theorem slice_indexed (hsize : c.size < UInt64.size) :
    (∀ lower upper, c.sliceOrAbort lower upper = .ok (c.slice lower upper) ∧
        (c.slice lower upper).width = c.width ∧
        (c.slice lower upper).instructions =
          (c.instructions.zipIdx.filter fun entry =>
            lower.isBelow entry.2 && upper.isAbove entry.2).map Prod.fst) ∧
      (c.size < 2 ^ 63 → ∀ s e : Nat, s < 2 ^ 63 → e < 2 ^ 63 →
        c.sliceStep (some (.ofNat s)) (some (.ofNat e)) 1 =
          .ok (c.slice (.included (.ofNat s)) (.excluded (.ofNat e)))) ∧
      (∀ k, (c.slice .unbounded (.excluded k)).concat (c.slice (.included k) .unbounded) = .ok c) ∧
      ((∀ instruction ∈ c.instructions, instruction.isForeign = false) →
        ∀ i j : Nat, i ≤ j → j ≤ c.size → ∃ d, c.adjoint = .ok d ∧
          (c.slice (.included (.ofNat i)) (.excluded (.ofNat j))).adjoint =
            .ok (d.slice (.included (.ofNat (c.size - j))) (.excluded (.ofNat (c.size - i))))) := by
  refine ⟨?_, ?_, concat_slice c, ?_⟩
  · intro lower upper
    exact ⟨c.sliceOrAbort_eq_ok lower upper, width_slice lower upper,
      instructions_slice lower upper hsize⟩
  · intro hsigned s e hs he
    exact sliceStep_one hsigned hs he
  · intro hforeign i j hij hj
    exact adjoint_slice hforeign hsize hij hj

end

theorem slice_indexed_greatest :
    let c : Circuit := ⟨2, [.hadamard 0 [], .rotation .x (.literal "45") 1 [], .swap 0 1 []]⟩
    c.size < UInt64.size ∧ c.size < 2 ^ 63 ∧
      (∀ instruction ∈ c.instructions, instruction.isForeign = false) ∧
      (c.slice (.excluded 0) (.included 18446744073709551615)).instructions =
        [.rotation .x (.literal "45") 1 [], .swap 0 1 []] ∧
      (c.slice (.excluded 18446744073709551615) .unbounded).instructions = [] ∧
      (c.slice (.included 2) (.excluded 1)).instructions = [] ∧
      c.sliceStep (some 1) (some 9) 1 = .ok (c.slice (.included 1) (.excluded 9)) ∧
      (c.slice .unbounded (.excluded 2)).concat (c.slice (.included 2) .unbounded) = .ok c ∧
      ∃ d, c.adjoint = .ok d ∧
        (c.slice (.included 0) (.excluded 2)).adjoint =
          .ok (d.slice (.included 1) (.excluded 3)) := by
  intro c
  have hsize : c.size < UInt64.size := by decide
  have hsigned : c.size < 2 ^ 63 := by decide
  have hforeign : ∀ instruction ∈ c.instructions, instruction.isForeign = false := by decide
  obtain ⟨hindexed, hstep, hconcat, hadjoint⟩ := slice_indexed hsize
  exact ⟨hsize, hsigned, hforeign, (hindexed _ _).2.2.trans rfl, (hindexed _ _).2.2.trans rfl,
    (hindexed _ _).2.2.trans rfl, hstep hsigned 1 9 (by decide) (by decide), hconcat 2,
    hadjoint hforeign 0 2 (by decide) (by decide)⟩

end Circuit

end CircuitScript
