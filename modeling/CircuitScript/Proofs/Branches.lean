import Mathlib.Combinatorics.Colex
import Mathlib.Data.List.OfFn
import CircuitScript.Proofs.WellFormed
/-!
Branches of the instructions with multiplexed controls. The values of the multiplexed qubits choose
a branch, and written at their positions they are the number of its coefficient. Reading makes sure
of as many coefficients as there are branches; each branch has its own one exactly when the
positions are those of a number with as many digits as there are multiplexed qubits.
-/
namespace CircuitScript

/-! Numbers from digits at given positions. -/

section

variable {m : ℕ} {position : Fin m → ℕ} {value : Fin m → Bool}

def digitSum (position : Fin m → ℕ) (value : Fin m → Bool) : ℕ :=
  ∑ j, if value j then 2 ^ position j else 0

theorem digitSum_single (j : Fin m) :
    digitSum position (fun i => decide (i = j)) = 2 ^ position j := by
  simp [digitSum]

theorem digitSum_eq_sum_image (h : Function.Injective position) :
    digitSum position value = ∑ p ∈ ({j | value j} : Finset (Fin m)).image position, 2 ^ p := by
  rw [Finset.sum_image h.injOn, Finset.sum_filter]
  rfl

theorem digitSum_injective (h : Function.Injective position) :
    Function.Injective (digitSum position) := by
  intro value other heq
  rw [digitSum_eq_sum_image h, digitSum_eq_sum_image h] at heq
  have hones := Finset.image_injective h (Finset.geomSum_injective le_rfl heq)
  funext j
  have hj : j ∈ ({j | value j} : Finset (Fin m)) ↔ j ∈ ({j | other j} : Finset (Fin m)) := by
    rw [hones]
  simp only [Finset.mem_filter, Finset.mem_univ, true_and] at hj
  exact Bool.eq_iff_iff.2 hj

theorem digitSum_lt (h : Function.Injective position) (hlt : ∀ j, position j < m) :
    digitSum position value < 2 ^ m := by
  rw [digitSum_eq_sum_image h]
  apply Nat.geomSum_lt le_rfl
  intro p hp
  obtain ⟨j, -, rfl⟩ := Finset.mem_image.1 hp
  exact hlt j

/-- There are as many values as numbers, so that injectivity is enough. -/
theorem bijOn_digitSum (h : Function.Injective position) (hlt : ∀ j, position j < m) :
    Set.BijOn (digitSum position) Set.univ (Set.Iio (2 ^ m)) := by
  have hmaps : Finset.univ.image (digitSum position) ⊆ Finset.range (2 ^ m) := by
    intro n hn
    obtain ⟨value, -, rfl⟩ := Finset.mem_image.1 hn
    exact Finset.mem_range.2 (digitSum_lt h hlt)
  have himage : Finset.univ.image (digitSum position) = Finset.range (2 ^ m) := by
    apply Finset.eq_of_subset_of_card_le hmaps
    rw [Finset.card_image_of_injective _ (digitSum_injective h)]
    simp
  refine ⟨fun _ _ => digitSum_lt h hlt, (digitSum_injective h).injOn, ?_⟩
  intro n hn
  have hmem : n ∈ Finset.univ.image (digitSum position) := by
    rw [himage]
    exact Finset.mem_range.2 hn
  obtain ⟨value, -, hvalue⟩ := Finset.mem_image.1 hmem
  exact ⟨value, Set.mem_univ value, hvalue⟩

theorem bijOn_digitSum_iff :
    Set.BijOn (digitSum position) Set.univ (Set.Iio (2 ^ m)) ↔
      Function.Injective position ∧ ∀ j, position j < m := by
  constructor
  · intro h
    constructor
    · intro i j hij
      have hsum : digitSum position (fun l => decide (l = i)) =
          digitSum position (fun l => decide (l = j)) := by
        rw [digitSum_single, digitSum_single, hij]
      have hvalue := congrFun (h.injOn (Set.mem_univ _) (Set.mem_univ _) hsum) i
      simpa using hvalue
    · intro j
      have hlt := h.mapsTo (Set.mem_univ fun i => decide (i = j))
      rw [digitSum_single] at hlt
      exact (Nat.pow_lt_pow_iff_right one_lt_two).1 hlt
  · rintro ⟨hinjective, hlt⟩
    exact bijOn_digitSum hinjective hlt

theorem ofFn_perm_range_iff :
    (List.ofFn position).Perm (List.range m) ↔
      Function.Injective position ∧ ∀ j, position j < m := by
  constructor
  · intro h
    refine ⟨List.nodup_ofFn.1 (h.nodup_iff.2 List.nodup_range), ?_⟩
    intro j
    exact List.mem_range.1 (h.mem_iff.1 (List.mem_ofFn.2 ⟨j, rfl⟩))
  · rintro ⟨hinjective, hlt⟩
    have hsubset : List.ofFn position ⊆ List.range m := by
      intro p hp
      obtain ⟨j, rfl⟩ := List.mem_ofFn.1 hp
      exact List.mem_range.2 (hlt j)
    apply ((List.nodup_ofFn.2 hinjective).subperm hsubset).perm_of_length_le
    simp

end

namespace Instruction

def selectors (controls : List Control) : List (Qubit × UInt32) :=
  controls.filterMap fun control =>
    match control.condition with
    | .multiplexed position => some (control.qubit, position)
    | .isOne | .isZero => none

def multiplexedQubits (controls : List Control) : List Qubit := (selectors controls).map Prod.fst

def positions (controls : List Control) : List ℕ :=
  (selectors controls).map fun selector => selector.2.toNat

abbrev Assignment (controls : List Control) : Type :=
  {qubit // qubit ∈ multiplexedQubits controls} → Bool

def multiplexedQubit (controls : List Control) (j : Fin (selectors controls).length) :
    {qubit // qubit ∈ multiplexedQubits controls} :=
  ⟨(selectors controls)[j].1, List.mem_map_of_mem (List.getElem_mem j.2)⟩

/-- The number of a branch: the value of each multiplexed qubit stands at the qubit's position. -/
def branchNumber (controls : List Control) (value : Assignment controls) : ℕ :=
  digitSum (fun j => (selectors controls)[j].2.toNat) fun j => value (multiplexedQubit controls j)

def branches? : Instruction → Option (List Control × List Angle)
  | .diagonal controls coefficients | .multiplexor _ controls coefficients =>
    some (controls, coefficients)
  | _ => none

section

variable {grammar : PlaceholderGrammar} {line : String} {instruction : Instruction}
  {controls : List Control} {coefficients : List Angle}

theorem length_selectors (controls : List Control) :
    (selectors controls).length = controls.countP Control.isMultiplexed := by
  induction controls with
  | nil => rfl
  | cons control controls ih =>
    unfold selectors at ih ⊢
    rw [List.filterMap_cons, List.countP_cons]
    obtain ⟨qubit, _ | _ | position⟩ := control
    · exact ih
    · exact ih
    · exact congrArg (· + 1) ih

theorem multiplexedQubits_sublist (controls : List Control) :
    (multiplexedQubits controls).Sublist (controls.map Control.qubit) := by
  induction controls with
  | nil => exact .slnil
  | cons control controls ih =>
    unfold multiplexedQubits selectors at ih ⊢
    rw [List.filterMap_cons]
    obtain ⟨qubit, _ | _ | position⟩ := control
    · exact ih.cons _
    · exact ih.cons _
    · exact ih.cons_cons _

theorem multiplexedQubit_bijective (h : (multiplexedQubits controls).Nodup) :
    Function.Bijective (multiplexedQubit controls) := by
  have hlist : multiplexedQubits controls =
      List.ofFn fun j : Fin (selectors controls).length => (selectors controls)[j].1 :=
    (List.ofFn_getElem_eq_map _ _).symm
  rw [hlist, List.nodup_ofFn] at h
  constructor
  · intro i j hij
    exact h (congrArg Subtype.val hij)
  · rintro ⟨qubit, hmem⟩
    obtain ⟨selector, hselector, rfl⟩ := List.mem_map.1 hmem
    obtain ⟨j, hj, rfl⟩ := List.getElem_of_mem hselector
    exact ⟨⟨j, hj⟩, rfl⟩

theorem assignment_bijective (h : (multiplexedQubits controls).Nodup) :
    Function.Bijective fun (value : Assignment controls) j =>
      value (multiplexedQubit controls j) :=
  ⟨(multiplexedQubit_bijective h).surjective.injective_comp_right,
    (multiplexedQubit_bijective h).injective.surjective_comp_right⟩

theorem card_assignment (h : (multiplexedQubits controls).Nodup) :
    Fintype.card (Assignment controls) = branchCount controls := by
  rw [Fintype.card_of_bijective (assignment_bijective h)]
  simp [branchCount, length_selectors]

theorem bijOn_branchNumber_iff (h : (multiplexedQubits controls).Nodup) :
    Set.BijOn (branchNumber controls) Set.univ (Set.Iio (branchCount controls)) ↔
      (positions controls).Perm (List.range (positions controls).length) := by
  have hassign := assignment_bijective h
  have hcomp : branchNumber controls =
      digitSum (fun j => (selectors controls)[j].2.toNat) ∘
        fun value j => value (multiplexedQubit controls j) := rfl
  have hcount : branchCount controls = 2 ^ (selectors controls).length := by
    rw [length_selectors]
    rfl
  have hpositions : positions controls =
      List.ofFn fun j : Fin (selectors controls).length => (selectors controls)[j].2.toNat :=
    (List.ofFn_getElem_eq_map _ _).symm
  rw [hcomp, Set.bijOn_comp_iff hassign.injective.injOn,
    Set.image_univ_of_surjective hassign.surjective, hcount, bijOn_digitSum_iff, hpositions,
    List.length_ofFn, ofFn_perm_range_iff]

theorem multiplexedQubits_nodup_of_read (hread : read grammar line = .ok instruction)
    (hbranches : instruction.branches? = some (controls, coefficients)) :
    (multiplexedQubits controls).Nodup := by
  have hdistinct := (WellFormed.of_read hread).distinct
  have hcontrols : instruction.controls = controls := by
    cases instruction with
    | diagonal | multiplexor =>
      cases hbranches
      rfl
    | _ => cases hbranches
  rw [← qubits_eq_qubitFields] at hdistinct
  have hqubits := (List.nodup_append.1 hdistinct).2.1
  rw [hcontrols] at hqubits
  exact hqubits.sublist (multiplexedQubits_sublist controls)

theorem length_coefficients_of_read (hread : read grammar line = .ok instruction)
    (hbranches : instruction.branches? = some (controls, coefficients)) :
    coefficients.length = branchCount controls := by
  have hshape := (WellFormed.of_read hread).shape
  cases instruction with
  | diagonal =>
    cases hbranches
    exact hshape
  | multiplexor =>
    cases hbranches
    exact hshape.2
  | _ => cases hbranches

/-- A line has as many coefficients as its multiplexed qubits have values together. Every branch has
a coefficient of its own, and every coefficient a branch, exactly when the positions are the numbers
below that of the multiplexed qubits in some order. -/
theorem branches_cover_coefficients_iff (hread : read grammar line = .ok instruction)
    (hbranches : instruction.branches? = some (controls, coefficients)) :
    (multiplexedQubits controls).Nodup ∧
      Fintype.card (Assignment controls) = coefficients.length ∧
      (Set.BijOn (branchNumber controls) Set.univ (Set.Iio coefficients.length) ↔
        (positions controls).Perm (List.range (positions controls).length)) := by
  have hnodup := multiplexedQubits_nodup_of_read hread hbranches
  rw [length_coefficients_of_read hread hbranches]
  exact ⟨hnodup, card_assignment hnodup, bijOn_branchNumber_iff hnodup⟩

theorem branches_cover_coefficients_iff_two :
    let controls : List Control := [.multiplexed 2 1, .multiplexed 1 0, .onOne 3]
    let coefficients : List Angle := [.literal "1", .literal "2", .placeholder "#3", .literal "4"]
    read .hash "MP_Y\tAT\t0\tIF\t2(1)\t1(0)\t3T\tBY\t1\t2\t#3\t4" =
        .ok (.multiplexor 0 controls coefficients) ∧
      (multiplexor 0 controls coefficients).branches? = some (controls, coefficients) ∧
      Set.BijOn (branchNumber controls) Set.univ (Set.Iio 4) := by
  intro controls coefficients
  have hread : read .hash "MP_Y\tAT\t0\tIF\t2(1)\t1(0)\t3T\tBY\t1\t2\t#3\t4" =
      .ok (.multiplexor 0 controls coefficients) := by
    apply Stateful.eq_ok_of_toOption
    decide +kernel
  have hpositions : (positions controls).Perm (List.range (positions controls).length) := by
    decide
  refine ⟨hread, rfl, ?_⟩
  exact (branches_cover_coefficients_iff hread rfl).2.2.2 hpositions

/-- A single multiplexed qubit at position one: the line is read, and the qubit's value one asks for
a coefficient that it does not have. -/
theorem read_diagonal_without_coefficient :
    let controls : List Control := [.multiplexed 0 1]
    let coefficients : List Angle := [.literal "10", .literal "20"]
    read .hash "DIAG\tIF\t0(1)\tBY\t10\t20" = .ok (.diagonal controls coefficients) ∧
      branchNumber controls (fun _ => true) = 2 ∧
      ¬Set.BijOn (branchNumber controls) Set.univ (Set.Iio coefficients.length) := by
  intro controls coefficients
  have hread : read .hash "DIAG\tIF\t0(1)\tBY\t10\t20" =
      .ok (.diagonal controls coefficients) := by
    apply Stateful.eq_ok_of_toOption
    decide +kernel
  have hnumber : branchNumber controls (fun _ => true) = 2 := by decide
  refine ⟨hread, hnumber, ?_⟩
  intro h
  have hlt := h.mapsTo (Set.mem_univ fun _ => true)
  rw [hnumber] at hlt
  exact lt_irrefl 2 hlt

end

end Instruction

end CircuitScript
