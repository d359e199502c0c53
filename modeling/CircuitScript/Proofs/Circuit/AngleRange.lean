import CircuitScript.Proofs.Angle.Radians
import CircuitScript.Proofs.Circuit.Append
import CircuitScript.Proofs.Decimal.Overflow
/-!
Which numbers of radians a call can take. A call that is in order otherwise adds its instruction
exactly when each of its numbers has a finite number of the units in which degrees are rounded.
Whole numbers of 64 bits have one, and so has every double below a bound; the doubles from another
bound on have none.
-/
namespace CircuitScript

open Decimal

def Parameter.radians? : Parameter → Option Float
  | .int value => some (Float.ofInt value.toInt)
  | .float value => some value
  | .flag _ | .text _ | .list _ => none

namespace Angle

/-- The number of units of a number of radians does not overflow. -/
def HasUnits (radians : Float) : Prop := (toDegrees radians * unitsPerDegree).isFinite = true

theorem fitsExponent_degreesPerRadian : FitsExponent (-47) degreesPerRadian.toModel.unpack := by
  decide +kernel

theorem reachesExponent_degreesPerRadian :
    ReachesExponent (-47) degreesPerRadian.toModel.unpack := by
  decide +kernel

theorem fitsExponent_unitsPerDegree : FitsExponent (-19) unitsPerDegree.toModel.unpack := by
  decide +kernel

theorem reachesExponent_unitsPerDegree : ReachesExponent (-19) unitsPerDegree.toModel.unpack := by
  decide +kernel

theorem hasUnits_of_fitsExponent {radians : Float} (h : FitsExponent 931 radians.toModel.unpack) :
    HasUnits radians := by
  have hdegrees : FitsExponent 937 (toDegrees radians).toModel.unpack :=
    fitsExponent_unpack_pack (by decide) (by decide)
      (fitsExponent_mul h fitsExponent_degreesPerRadian (by decide) (by decide))
  exact isFinite_pack
    (fitsExponent_mul hdegrees fitsExponent_unitsPerDegree (by decide) (by decide))

theorem not_hasUnits_of_reachesExponent {radians : Float}
    (h : ReachesExponent 934 radians.toModel.unpack) : ¬HasUnits radians := by
  have hdegrees : ReachesExponent 939 (toDegrees radians).toModel.unpack :=
    reachesExponent_unpack_pack (by decide)
      (reachesExponent_mul h reachesExponent_degreesPerRadian (by decide) (by decide))
  have hunits : ReachesExponent 972 (toDegrees radians * unitsPerDegree).toModel.unpack :=
    reachesExponent_unpack_pack (by decide)
      (reachesExponent_mul hdegrees reachesExponent_unitsPerDegree (by decide) (by decide))
  exact Bool.eq_false_iff.1 (isFinite_eq_false_of_reachesExponent hunits)

theorem hasUnits_ofInt (value : Int64) : HasUnits (Float.ofInt value.toInt) := by
  apply hasUnits_of_fitsExponent
  have hle := value.le_toInt
  have hlt := value.toInt_lt
  cases hvalue : value.toInt with
  | ofNat n =>
    rw [hvalue, Int.ofNat_eq_natCast] at hlt
    have hn : n < 2 ^ 64 := by omega
    exact (fitsExponent_ofNat_toModel hn).mono (by decide)
  | negSucc n =>
    rw [hvalue] at hle
    have hn : n + 1 < 2 ^ 64 := by omega
    have hmagnitude := (fitsExponent_ofNat_toModel hn).mono (by decide : (75 : ℤ) ≤ 931)
    exact fitsExponent_unpack_pack (by decide) (by decide) (fitsExponent_neg hmagnitude)

section

variable {radians : Float} {negative : Bool} {significand : ℕ} {exponent : ℤ}

theorem hasUnits_of_lt (h : Binary.ofFloat radians = .finite negative significand exponent)
    (hlt : (significand : ℚ) * 2 ^ exponent < 2 ^ 984) : HasUnits radians :=
  hasUnits_of_fitsExponent (fitsExponent_of_ofFloat (by decide) h hlt)

theorem not_hasUnits_of_le (h : Binary.ofFloat radians = .finite negative significand exponent)
    (hle : 2 ^ 986 ≤ (significand : ℚ) * 2 ^ exponent) : ¬HasUnits radians :=
  not_hasUnits_of_reachesExponent (reachesExponent_of_ofFloat (by decide) h hle)

end

variable {items : List Parameter} {angles : List Angle}

theorem literal_iff_hasUnits {radians : Float} :
    (∀ text, .literal text = ofRadians radians → isFiniteNumber text = true) ↔
      HasUnits radians := by
  have hfinite := isFiniteNumber_ofRadians radians
  rw [HasUnits, ← hfinite]
  constructor
  · intro h
    exact h _ rfl
  · rintro h _ ⟨⟩
    exact h

theorem forall_literal_iff_hasUnits (h : List.Forall₂ Parameter.IsAngle items angles) :
    (∀ text, .literal text ∈ angles → isFiniteNumber text = true) ↔
      ∀ p ∈ items, ∀ radians ∈ p.radians?, HasUnits radians := by
  induction h with
  | nil => simp
  | @cons p angle items angles hangle _ ih =>
    have hfirst : (∀ text, .literal text = angle → isFiniteNumber text = true) ↔
        ∀ radians ∈ p.radians?, HasUnits radians := by
      cases hangle with
      | int => simp [literal_iff_hasUnits, Parameter.radians?]
      | float => simp [literal_iff_hasUnits, Parameter.radians?]
      | text htoken => cases htoken <;> simp_all [Parameter.radians?]
    simp only [List.mem_cons, or_imp, forall_and, forall_eq, ih, hfirst]

end Angle

namespace Operation

def angleParameters : Operation → List Parameter → List Parameter
  | .rotation _, [_, angle] | .phase _, [_, angle] => [angle]
  | .rotationVector, [_, .list items] | .diagonal, [_, .list items]
  | .multiplexor, [_, _, .list items] => items
  | _, _ => []

def HasUnits (op : Operation) (parameters : List Parameter) : Prop :=
  ∀ p ∈ op.angleParameters parameters, ∀ radians ∈ p.radians?, Angle.HasUnits radians

variable {op : Operation} {parameters : List Parameter} {instruction : Instruction}

theorem isFiniteNumber_turn :
    ∀ turn ∈ ["90", "-90", "45", "-45"], Angle.isFiniteNumber turn = true := by decide +kernel

theorem Denotes.forall_literal_iff (h : op.Denotes parameters instruction) :
    (∀ text, .literal text ∈ instruction.angles → Angle.isFiniteNumber text = true) ↔
      op.HasUnits parameters := by
  -- Two operations have literals of their own, which come from no parameter.
  have hturn {turn : String} (hmem : turn ∈ ["90", "-90", "45", "-45"]) :
      (∀ text, .literal text ∈ [Angle.literal turn] → Angle.isFiniteNumber text = true) ↔
        ∀ p ∈ ([] : List Parameter), ∀ radians ∈ p.radians?, Angle.HasUnits radians := by
    simp [isFiniteNumber_turn turn hmem]
  cases h with
  | rotation _ ha | phase _ ha => exact Angle.forall_literal_iff_hasUnits (.cons ha .nil)
  | @s _ _ _ dagger _ _ => exact hturn (by cases dagger <;> decide)
  | @t _ _ _ dagger _ _ => exact hturn (by cases dagger <;> decide)
  | rotationVector _ ha | diagonal _ ha | multiplexor _ _ _ ha =>
    obtain ⟨items, rfl, -, hangles⟩ := ha
    exact Angle.forall_literal_iff_hasUnits hangles
  | _ => exact Angle.forall_literal_iff_hasUnits .nil

end Operation

namespace Circuit

variable {op : Operation} {parameters : List Parameter} {instruction : Instruction}

/-- A call that is in order apart from the size of its numbers adds its instruction exactly when
the units of all of them are finite, and otherwise is refused with its line. The units of an integer
are finite. So are those of a double below the smaller power of two, and those of a double from the
larger one on are not. -/
theorem append_iff_hasUnits (c : Circuit) (hd : op.Denotes parameters instruction)
    (hdistinct : instruction.qubitFields.Nodup) (hbranches : instruction.HasBranches)
    (hstyle : instruction.HasPlainStyle) (hin : ∀ qubit ∈ instruction.qubitFields, qubit < c.width) :
    (op.HasUnits parameters →
      c.append op.name parameters = .ok ⟨c.width, c.instructions ++ [instruction]⟩) ∧
    (¬op.HasUnits parameters → ∃ fault, c.append op.name parameters =
      .error (.malformed instruction.opcodeName fault (some instruction.text))) ∧
    (∀ value : Int64, Angle.HasUnits (Float.ofInt value.toInt)) ∧
    ∀ radians negative significand exponent,
      Binary.ofFloat radians = .finite negative significand exponent →
      ((significand : ℚ) * 2 ^ exponent < 2 ^ 984 → Angle.HasUnits radians) ∧
      (2 ^ 986 ≤ (significand : ℚ) * 2 ^ exponent → ¬Angle.HasUnits radians) := by
  have hsayable : instruction.Sayable ↔ op.HasUnits parameters := by
    rw [← hd.forall_literal_iff]
    exact ⟨(·.finite), fun hfinite => ⟨hdistinct, hbranches, hstyle, hfinite⟩⟩
  refine ⟨?_, ?_, Angle.hasUnits_ofInt,
    fun _ _ _ _ h => ⟨Angle.hasUnits_of_lt h, Angle.not_hasUnits_of_le h⟩⟩
  · intro hfits
    have hbuild : build c.width op.name parameters = .ok instruction := by
      rw [build_of_sayable c.width hd (hsayable.2 hfits), checked, firstOutside?_eq_none_iff.2 hin]
    exact append_eq_ok_iff_build.2 ⟨instruction, hbuild, rfl⟩
  · intro hlarge
    obtain ⟨fault, hbuild⟩ := build_of_not_sayable c.width hd (mt hsayable.1 hlarge)
    exact ⟨fault, append_of_build_error hbuild⟩

theorem append_iff_hasUnits_mixed :
    let angles : List Parameter := [.float 1.0, .int Int64.minValue, .text "#1"]
    ∃ instruction, Operation.Denotes .rotationVector [.int 0, .list angles] instruction ∧
      (Circuit.empty 1).append "write_Rn" [.int 0, .list angles] = .ok ⟨1, [instruction]⟩ := by
  intro angles
  have hone : (1.0 : Float).isFinite = true := by decide +kernel
  have htext : Parameter.IsAngle (.text "#1") (.placeholder "#1") :=
    .text (.placeholder (by decide +kernel) (by decide +kernel))
  have hd : Operation.Denotes .rotationVector [.int 0, .list angles] (.rotationVector
      (Angle.ofRadians 1.0) (Angle.ofRadians (Float.ofInt Int64.minValue.toInt))
      (.placeholder "#1") 0 []) :=
    .rotationVector ⟨0, rfl, rfl⟩
      ⟨angles, rfl, List.cons_ne_nil _ _, .cons (.float hone) (.cons (.int _) (.cons htext .nil))⟩
  have hin : ∀ qubit ∈ [(0 : Qubit)], qubit < 1 := List.forall_mem_singleton.2 (by decide)
  obtain ⟨hfits, -, hints, -⟩ :=
    append_iff_hasUnits (Circuit.empty 1) hd (List.nodup_singleton 0) trivial trivial hin
  refine ⟨_, hd, hfits ?_⟩
  intro p hp radians hradians
  simp only [Operation.angleParameters, List.mem_cons, List.not_mem_nil, or_false, angles] at hp
  rcases hp with rfl | rfl | rfl <;> cases hradians
  · unfold Angle.HasUnits
    decide +kernel
  · exact hints _

/-- A double whose degrees are finite as well, and yet it cannot be written: the units in which the
degrees are rounded overflow. -/
theorem append_of_large_radians :
    (1e300 : Float).isFinite = true ∧ (Angle.toDegrees 1e300).isFinite = true ∧
      (Operation.rotation .x).Denotes [.int 0, .float 1e300]
        (.rotation .x (Angle.ofRadians 1e300) 0 []) ∧
      (Circuit.empty 1).append "write_Rx" [.int 0, .float 1e300] =
        .error (.malformed "ROTX" (.notAnAngle "inf") (some "ROTX\tinf\tAT\t0")) := by
  have hfinite : (1e300 : Float).isFinite = true := by decide +kernel
  have hd : (Operation.rotation .x).Denotes [.int 0, .float 1e300]
      (.rotation .x (Angle.ofRadians 1e300) 0 []) := .rotation ⟨0, rfl, rfl⟩ (.float hfinite)
  have htext : (Instruction.rotation .x (Angle.ofRadians 1e300) 0 []).text =
      "ROTX\tinf\tAT\t0" := by
    decide +kernel
  have hread : Instruction.read .hash "ROTX\tinf\tAT\t0" =
      .error (.malformed "ROTX" (.notAnAngle "inf") (some "ROTX\tinf\tAT\t0")) := by
    rfl
  have hbuild := build_of_denotes 1 hd
  rw [htext, hread] at hbuild
  exact ⟨hfinite, by decide +kernel, hd, append_of_build_error hbuild⟩

end Circuit

end CircuitScript
