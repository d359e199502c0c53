import CircuitScript.Proofs.Gate.Unitary
/-!
What a kernel is asked. Of a gate with complex entries it is asked once, with the parameters that
are listed here for each gate, and its answer is the matrix. Of a gate that is a constant it is not
asked at all.
-/
namespace CircuitScript

variable {K : Type} [Scalar K]

def UnitaryParameters.along (phase angle : K) (axis : Axis) : UnitaryParameters K :=
  let component (other : Axis) : K := if axis = other then angle else Scalar.zero
  ⟨phase, component .x, component .y, component .z⟩

namespace Gate

open UnitaryParameters (along)

/-- The parameters of each gate that a kernel makes. -/
inductive HasParameters : Gate K → UnitaryParameters K → Prop
  | hadamard :
      HasParameters (.hadamard .complex)
        ⟨-Scalar.quarterTurn, Scalar.quarterTurn / Scalar.sqrtTwo, Scalar.zero,
          Scalar.quarterTurn / Scalar.sqrtTwo⟩
  | pauliX : HasParameters (.pauliX .complex) (along (-Scalar.quarterTurn) Scalar.quarterTurn .x)
  | pauliY : HasParameters .pauliY (along (-Scalar.quarterTurn) Scalar.quarterTurn .y)
  | pauliZ : HasParameters (.pauliZ .complex) (along (-Scalar.quarterTurn) Scalar.quarterTurn .z)
  | phaseZero (angle : K) :
      HasParameters (.phaseZero angle) (along (angle / Scalar.two) (angle / Scalar.two) .z)
  | phaseOne (angle : K) :
      HasParameters (.phaseOne angle) (along (angle / Scalar.two) (-(angle / Scalar.two)) .z)
  | phaseAll (angle : K) :
      HasParameters (.phaseAll angle) ⟨angle, Scalar.zero, Scalar.zero, Scalar.zero⟩
  | rotationVector (x y z : K) : HasParameters (.rotationVector x y z) ⟨Scalar.zero, x, y, z⟩
  | rotationAxis (angle : K) (axis : Axis) :
      HasParameters (.rotationAxis angle axis) (along Scalar.zero angle axis)
  | s {dagger : Bool} {p : UnitaryParameters K}
      (h : HasParameters
        (.phaseOne (if dagger then -Scalar.quarterTurn else Scalar.quarterTurn)) p) :
      HasParameters (.s dagger) p
  | t {dagger : Bool} {p : UnitaryParameters K}
      (h : HasParameters
        (.phaseOne (if dagger then -Scalar.eighthTurn else Scalar.eighthTurn)) p) :
      HasParameters (.t dagger) p
  | unitary (phase x y z : K) : HasParameters (.unitary phase x y z) ⟨phase, x, y, z⟩

def entryKind : Gate K → EntryKind
  | .hadamard kind | .projectZero kind | .projectOne kind | .pauliX kind | .pauliZ kind => kind
  | .pauliY | .phaseZero _ | .phaseOne _ | .phaseAll _ | .rotationVector .. | .rotationAxis ..
  | .s _ | .t _ | .unitary .. => .complex

def IsConstant (gate : Gate K) : Prop := gate.entryKind = .real ∨ gate.isProjector = true

variable {gate : Gate K} {p : UnitaryParameters K}

theorem HasParameters.kernelParameters?_eq (h : gate.HasParameters p) :
    gate.kernelParameters? = some p := by
  induction h with
  | rotationAxis angle axis => cases axis <;> rfl
  | s _ ih | t _ ih => exact ih
  | _ => rfl

theorem isConstant_or_hasParameters (gate : Gate K) :
    gate.IsConstant ∨ ∃ p, gate.HasParameters p := by
  cases gate with
  | hadamard kind =>
    cases kind with
    | real => exact .inl (.inl rfl)
    | complex => exact .inr ⟨_, .hadamard⟩
  | projectZero kind | projectOne kind => exact .inl (.inr rfl)
  | pauliX kind =>
    cases kind with
    | real => exact .inl (.inl rfl)
    | complex => exact .inr ⟨_, .pauliX⟩
  | pauliY => exact .inr ⟨_, .pauliY⟩
  | pauliZ kind =>
    cases kind with
    | real => exact .inl (.inl rfl)
    | complex => exact .inr ⟨_, .pauliZ⟩
  | phaseZero angle => exact .inr ⟨_, .phaseZero angle⟩
  | phaseOne angle => exact .inr ⟨_, .phaseOne angle⟩
  | phaseAll angle => exact .inr ⟨_, .phaseAll angle⟩
  | rotationVector x y z => exact .inr ⟨_, .rotationVector x y z⟩
  | rotationAxis angle axis => exact .inr ⟨_, .rotationAxis angle axis⟩
  | s dagger => exact .inr ⟨_, .s (.phaseOne _)⟩
  | t dagger => exact .inr ⟨_, .t (.phaseOne _)⟩
  | unitary phase x y z => exact .inr ⟨_, .unitary phase x y z⟩

theorem IsConstant.kernelParameters?_eq (h : gate.IsConstant) : gate.kernelParameters? = none := by
  cases gate with
  | projectZero kind | projectOne kind => rfl
  | hadamard kind | pauliX kind | pauliZ kind =>
    obtain rfl : kind = .real := by simpa [IsConstant, entryKind, isProjector] using h
    rfl
  | _ => simp [IsConstant, entryKind, isProjector] at h

theorem HasParameters.unique {q : UnitaryParameters K} (hp : gate.HasParameters p)
    (hq : gate.HasParameters q) : p = q :=
  Option.some.inj (hp.kernelParameters?_eq.symm.trans hq.kernelParameters?_eq)

theorem isConstant_iff : gate.IsConstant ↔ ¬∃ p, gate.HasParameters p := by
  constructor
  · rintro h ⟨p, hp⟩
    have hnone := h.kernelParameters?_eq
    rw [hp.kernelParameters?_eq] at hnone
    cases hnone
  · exact (isConstant_or_hasParameters gate).resolve_right

end Gate

/-- A kernel that gives the matrices of a function and notes what it was asked. -/
def Kernel.noting (name : String) (u2 : UnitaryParameters K → Square (Amplitude K)) :
    Kernel (StateM (List (UnitaryParameters K))) K where
  name := name
  matrix p := do
    modify (· ++ [p])
    return u2 p

namespace Strategy

variable {gate : Gate K} {p : UnitaryParameters K}

section

variable {m : Type → Type} [Monad m]

theorem gate_of_hasParameters (kernel : Kernel m K) (h : gate.HasParameters p) :
    (uniform kernel).gate gate = do return .complex (← kernel.matrix p) := by
  simp only [Strategy.gate, h.kernelParameters?_eq]

theorem gate_of_isConstant (kernel : Kernel m K) (h : gate.IsConstant) :
    (uniform kernel).gate gate = pure gate.closedForm := by
  simp only [Strategy.gate, h.kernelParameters?_eq]

theorem gate_congr {kernel other : Kernel m K}
    (h : ∀ p, gate.HasParameters p → kernel.matrix p = other.matrix p) :
    (uniform kernel).gate gate = (uniform other).gate gate := by
  obtain hconstant | ⟨p, hp⟩ := gate.isConstant_or_hasParameters
  · rw [gate_of_isConstant kernel hconstant, gate_of_isConstant other hconstant]
  · rw [gate_of_hasParameters kernel hp, gate_of_hasParameters other hp, h p hp]

end

variable {u2 : UnitaryParameters K → Square (Amplitude K)}

inductive Answers (u2 : UnitaryParameters K → Square (Amplitude K)) :
    Gate K → GateMatrix K × List (UnitaryParameters K) → Prop
  | asked {gate : Gate K} {p : UnitaryParameters K} (h : gate.HasParameters p) :
      Answers u2 gate (.complex (u2 p), [p])
  | constant {gate : Gate K} (h : gate.IsConstant) : Answers u2 gate (gate.closedForm, [])

theorem exists_answers (name : String) (gate : Gate K) :
    ∃ answer, Answers u2 gate answer ∧
      ∀ calls, ((uniform (.noting name u2)).gate gate).run calls =
        (answer.1, calls ++ answer.2) := by
  obtain hconstant | ⟨p, hp⟩ := gate.isConstant_or_hasParameters
  · refine ⟨_, .constant hconstant, fun calls => ?_⟩
    rw [gate_of_isConstant _ hconstant, List.append_nil]
    rfl
  · refine ⟨_, .asked hp, fun calls => ?_⟩
    rw [gate_of_hasParameters _ hp]
    rfl

theorem exists_forall₂_answers (name : String) (gates : List (Gate K)) :
    ∃ answers, List.Forall₂ (Answers u2) gates answers ∧
      ∀ calls, (gates.mapM (uniform (.noting name u2)).gate).run calls =
        (answers.map Prod.fst, calls ++ answers.flatMap Prod.snd) := by
  induction gates with
  | nil => exact ⟨[], .nil, fun calls => by rw [List.flatMap_nil, List.append_nil]; rfl⟩
  | cons gate gates ih =>
    obtain ⟨answer, hanswer, hgate⟩ := exists_answers name gate
    obtain ⟨answers, hanswers, hgates⟩ := ih
    refine ⟨answer :: answers, .cons hanswer hanswers, fun calls => ?_⟩
    rw [List.mapM_cons, StateT.run_bind, hgate]
    change StateT.run (_ >>= _) (calls ++ answer.2) = _
    rw [StateT.run_bind, hgates, List.append_assoc]
    rfl

/-- A gate is a constant or has parameters of its own. A kernel is asked for them once and its
matrix is the gate; a constant is what its own formula gives, and no kernel is asked. So kernels
that agree on the parameters give the same gate, and of a kernel that notes its calls every gate in
a row leaves its own call and no other. -/
theorem uniform_asks_kernel_once :
    (∀ gate : Gate K, (gate.IsConstant ↔ ¬∃ p, gate.HasParameters p) ∧
      ∀ p q, gate.HasParameters p → gate.HasParameters q → p = q) ∧
    (∀ (m : Type → Type) [Monad m] (kernel : Kernel m K) (gate : Gate K),
      (∀ p, gate.HasParameters p →
        (uniform kernel).gate gate = do return .complex (← kernel.matrix p)) ∧
      (gate.IsConstant → (uniform kernel).gate gate = (closedForm : Strategy m K).gate gate) ∧
      ∀ other : Kernel m K, (∀ p, gate.HasParameters p → kernel.matrix p = other.matrix p) →
        (uniform kernel).gate gate = (uniform other).gate gate) ∧
    ∀ (name : String) (u2 : UnitaryParameters K → Square (Amplitude K)) (gates : List (Gate K)),
      ∃ answers, List.Forall₂ (Answers u2) gates answers ∧
        ∀ calls, (gates.mapM (uniform (.noting name u2)).gate).run calls =
          (answers.map Prod.fst, calls ++ answers.flatMap Prod.snd) := by
  refine ⟨fun gate => ⟨Gate.isConstant_iff, fun p q => Gate.HasParameters.unique⟩, ?_,
    fun name u2 => exists_forall₂_answers name⟩
  intro m _ kernel gate
  exact ⟨fun p => gate_of_hasParameters kernel, gate_of_isConstant kernel, fun other => gate_congr⟩

example (name : String) (u2 : UnitaryParameters K → Square (Amplitude K)) (angle : K) :
    (([.s true, .projectZero .complex, .rotationAxis angle .y].mapM
      (uniform (.noting name u2)).gate).run []).2 =
      [⟨-Scalar.quarterTurn / Scalar.two, Scalar.zero, Scalar.zero,
        -(-Scalar.quarterTurn / Scalar.two)⟩,
       ⟨Scalar.zero, Scalar.zero, angle, Scalar.zero⟩] :=
  rfl

end Strategy

end CircuitScript
