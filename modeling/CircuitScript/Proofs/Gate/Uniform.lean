import CircuitScript.Proofs.Gate.Turn
/-!
The two built-in strategies give the same gates. Each closed form is a phase times a turn, and the
parameters that go to the kernel are that phase and the turn's vector; a vector that is short but
not zero is where they part.
-/
namespace CircuitScript

noncomputable def Parametrization.gate (p : Parametrization) (gate : Gate ℝ) : GateMatrix ℝ :=
  Id.run ((p.strategy : Strategy Id ℝ).gate gate)

namespace UnitaryParameters

def vector (p : UnitaryParameters ℝ) : ℝ × ℝ × ℝ := (p.x, p.y, p.z)

noncomputable def norm (p : UnitaryParameters ℝ) : ℝ := √(p.x ^ 2 + p.y ^ 2 + p.z ^ 2)

noncomputable def matrix (p : UnitaryParameters ℝ) : Square (Amplitude ℝ) :=
  ClosedForm.unitary p.phase p.x p.y p.z

def ofTurn (phase r : ℝ) (d : Direction) : UnitaryParameters ℝ :=
  ⟨phase, r * d.x, r * d.y, r * d.z⟩

variable {p : UnitaryParameters ℝ}

theorem matrix_of_norm_lt (h : p.norm < 1e-8) :
    p.matrix = Square.identity.scale (.unit p.phase) := by
  unfold matrix ClosedForm.unitary
  rw [ClosedForm.rotationVector_of_lt]
  simpa only [norm, sq] using h

section

variable (phase r : ℝ) (d : Direction)

@[simp] theorem norm_ofTurn : (ofTurn phase r d).norm = |r| := by
  rw [← d.norm_mul r]
  simp only [norm, ofTurn, sq]

theorem matrix_ofTurn {r : ℝ} (h : r = 0 ∨ 1e-8 ≤ |r|) :
    (ofTurn phase r d).matrix = (turn r d).scale (.unit phase) := by
  unfold matrix ClosedForm.unitary ofTurn
  rw [ClosedForm.rotationVector_mul d h]

end

theorem norm_eq_zero_of_vector (h : p.vector = 0) : p.norm = 0 := by
  obtain ⟨hx, hy, hz⟩ : p.x = 0 ∧ p.y = 0 ∧ p.z = 0 := by simpa [vector, Prod.ext_iff] using h
  simp [norm, hx, hy, hz]

end UnitaryParameters

theorem Axis.vector_eq (axis : Axis) (r : ℝ) :
    axis.vector r = (r * axis.direction.x, r * axis.direction.y, r * axis.direction.z) := by
  cases axis <;> simp [Axis.vector, Axis.direction]

namespace Gate

/-- The direction of the Hadamard gate, half way between `x` and `z`. -/
noncomputable def hadamardDirection : Direction :=
  ⟨Scalar.invSqrtTwo, 0, Scalar.invSqrtTwo, by norm_num [div_pow]⟩

open UnitaryParameters (ofTurn)

theorem diagonal_unit (phase half : ℝ) :
    Square.diagonal (.unit (phase + half)) (.unit (phase - half)) =
      (turn half Axis.z.direction).scale (.unit phase) := by
  ext <;> simp [Square.diagonal, Square.scale, Square.map, turn, Axis.direction, Real.cos_add,
    Real.sin_add, Real.cos_sub, Real.sin_sub] <;> ring

theorem phaseZero_eq (angle : ℝ) :
    ClosedForm.phaseZero angle =
      (turn (angle / 2) Axis.z.direction).scale (.unit (angle / 2)) := by
  rw [← diagonal_unit, add_halves, sub_self, Amplitude.unit_zero, ClosedForm.phaseZero]

theorem phaseOne_eq (angle : ℝ) :
    ClosedForm.phaseOne angle =
      (turn (-(angle / 2)) Axis.z.direction).scale (.unit (angle / 2)) := by
  rw [← diagonal_unit, add_neg_cancel, sub_neg_eq_add, add_halves, Amplitude.unit_zero,
    ClosedForm.phaseOne]

theorem phaseAll_eq (angle : ℝ) :
    ClosedForm.phaseAll angle = (turn 0 Axis.z.direction).scale (.unit angle) := by
  rw [← diagonal_unit, add_zero, sub_zero, ClosedForm.phaseAll]

/-- A quarter turn and the phase that undoes its `i`. -/
noncomputable def quarter (d : Direction) : Square (Amplitude ℝ) :=
  (turn Scalar.quarterTurn d).scale (.unit (-Scalar.quarterTurn))

theorem quarter_eq (d : Direction) :
    quarter d = ⟨⟨d.z, 0⟩, ⟨d.x, -d.y⟩, ⟨d.x, d.y⟩, ⟨-d.z, 0⟩⟩ := by
  ext <;> simp [quarter, turn, Square.scale, Square.map]

/-- The gate goes to the kernel as a phase and a turn, and its closed form is the two multiplied. -/
structure IsTurn (gate : Gate ℝ) (phase r : ℝ) (d : Direction) : Prop where
  parameters : gate.kernelParameters? = some (ofTurn phase r d)
  closedForm : gate.closedForm = .complex ((turn r d).scale (.unit phase))

theorem isTurn_of_quarter {gate : Gate ℝ} {d : Direction}
    (h : gate.kernelParameters? = some (ofTurn (-(Real.pi / 2)) (Real.pi / 2) d))
    (hm : gate.closedForm = .complex (quarter d)) :
    gate.IsTurn (-(Real.pi / 2)) (Real.pi / 2) d :=
  ⟨h, hm⟩

theorem isTurn_hadamard :
    (hadamard .complex : Gate ℝ).IsTurn (-(Real.pi / 2)) (Real.pi / 2) hadamardDirection := by
  apply isTurn_of_quarter
  · simp [kernelParameters?, ofTurn, hadamardDirection, div_eq_mul_inv]
  · rw [quarter_eq]
    simp [Gate.closedForm, GateMatrix.ofReal, ClosedForm.hadamard, Square.map, Amplitude.ofReal,
      hadamardDirection]

theorem isTurn_pauliX :
    (pauliX .complex : Gate ℝ).IsTurn (-(Real.pi / 2)) (Real.pi / 2) Axis.x.direction := by
  apply isTurn_of_quarter
  · simp [kernelParameters?, ofTurn, Axis.direction]
  · rw [quarter_eq]
    simp [Gate.closedForm, GateMatrix.ofReal, ClosedForm.pauliX, Square.map, Amplitude.ofReal,
      Axis.direction]

theorem isTurn_pauliY :
    (pauliY : Gate ℝ).IsTurn (-(Real.pi / 2)) (Real.pi / 2) Axis.y.direction := by
  apply isTurn_of_quarter
  · simp [kernelParameters?, ofTurn, Axis.direction]
  · rw [quarter_eq]
    simp [Gate.closedForm, ClosedForm.pauliY, Amplitude.zero, Axis.direction]

theorem isTurn_pauliZ :
    (pauliZ .complex : Gate ℝ).IsTurn (-(Real.pi / 2)) (Real.pi / 2) Axis.z.direction := by
  apply isTurn_of_quarter
  · simp [kernelParameters?, ofTurn, Axis.direction]
  · rw [quarter_eq]
    simp [Gate.closedForm, GateMatrix.ofReal, ClosedForm.pauliZ, Square.map, Amplitude.ofReal,
      Axis.direction]

section

variable (angle : ℝ)

theorem isTurn_phaseZero :
    (phaseZero angle).IsTurn (angle / 2) (angle / 2) Axis.z.direction := by
  constructor
  · simp [kernelParameters?, ofTurn, Axis.direction]
  · rw [Gate.closedForm, phaseZero_eq]

theorem isTurn_phaseOne :
    (phaseOne angle).IsTurn (angle / 2) (-(angle / 2)) Axis.z.direction := by
  constructor
  · simp [kernelParameters?, phaseOneParameters, ofTurn, Axis.direction]
  · rw [Gate.closedForm, phaseOne_eq]

theorem isTurn_s (dagger : Bool) :
    (s dagger).IsTurn (turned (Real.pi / 2) dagger / 2) (-(turned (Real.pi / 2) dagger / 2))
      Axis.z.direction :=
  ⟨(isTurn_phaseOne _).parameters, (isTurn_phaseOne _).closedForm⟩

theorem isTurn_t (dagger : Bool) :
    (t dagger).IsTurn (turned (Real.pi / 4) dagger / 2) (-(turned (Real.pi / 4) dagger / 2))
      Axis.z.direction :=
  ⟨(isTurn_phaseOne _).parameters, (isTurn_phaseOne _).closedForm⟩

theorem isTurn_phaseAll : (phaseAll angle).IsTurn angle 0 Axis.z.direction := by
  constructor
  · simp [kernelParameters?, ofTurn, Axis.direction]
  · rw [Gate.closedForm, phaseAll_eq]

theorem isTurn_rotationAxis (axis : Axis) :
    (rotationAxis angle axis).IsTurn 0 angle axis.direction := by
  constructor
  · simp [kernelParameters?, ofTurn, axis.vector_eq]
  · rw [Gate.closedForm, ClosedForm.rotationAxis_eq, Amplitude.unit_zero, Square.scale_one]

end

theorem isTurn_or_eq_matrix {gate : Gate ℝ} {p : UnitaryParameters ℝ}
    (h : gate.kernelParameters? = some p) :
    (∃ phase r d, gate.IsTurn phase r d) ∨ gate.closedForm = .complex p.matrix := by
  cases gate with
  | hadamard kind =>
    cases kind with
    | real => cases h
    | complex => exact .inl ⟨_, _, _, isTurn_hadamard⟩
  | projectZero kind => cases h
  | projectOne kind => cases h
  | pauliX kind =>
    cases kind with
    | real => cases h
    | complex => exact .inl ⟨_, _, _, isTurn_pauliX⟩
  | pauliY => exact .inl ⟨_, _, _, isTurn_pauliY⟩
  | pauliZ kind =>
    cases kind with
    | real => cases h
    | complex => exact .inl ⟨_, _, _, isTurn_pauliZ⟩
  | phaseZero angle => exact .inl ⟨_, _, _, isTurn_phaseZero angle⟩
  | phaseOne angle => exact .inl ⟨_, _, _, isTurn_phaseOne angle⟩
  | phaseAll angle => exact .inl ⟨_, _, _, isTurn_phaseAll angle⟩
  | rotationVector x y z =>
    cases h
    right
    simp [Gate.closedForm, UnitaryParameters.matrix, ClosedForm.unitary]
  | rotationAxis angle axis => exact .inl ⟨_, _, _, isTurn_rotationAxis angle axis⟩
  | s dagger => exact .inl ⟨_, _, _, isTurn_s dagger⟩
  | t dagger => exact .inl ⟨_, _, _, isTurn_t dagger⟩
  | unitary phase x y z =>
    cases h
    exact .inr rfl

variable {gate : Gate ℝ} {p : UnitaryParameters ℝ}

theorem generalUnitary_gate_of_some (h : gate.kernelParameters? = some p) :
    Parametrization.generalUnitary.gate gate = .complex p.matrix := by
  simp only [Parametrization.gate, Parametrization.strategy, Strategy.gate, h]
  rfl

theorem generalUnitary_gate_of_none (h : gate.kernelParameters? = none) :
    Parametrization.generalUnitary.gate gate = gate.closedForm := by
  simp only [Parametrization.gate, Parametrization.strategy, Strategy.gate, h]
  rfl

theorem closedForm_gate (gate : Gate ℝ) :
    Parametrization.closedForm.gate gate = gate.closedForm :=
  rfl

theorem closedForm_eq_matrix (h : gate.kernelParameters? = some p)
    (hv : p.vector = 0 ∨ 1e-8 ≤ p.norm) : gate.closedForm = .complex p.matrix := by
  obtain ⟨phase, r, d, hturn⟩ | h := isTurn_or_eq_matrix h
  · obtain rfl : p = ofTurn phase r d := Option.some.inj (h.symm.trans hturn.parameters)
    have hr : r = 0 ∨ 1e-8 ≤ |r| := by
      rw [← abs_eq_zero, ← UnitaryParameters.norm_ofTurn phase r d]
      exact hv.imp_left UnitaryParameters.norm_eq_zero_of_vector
    rw [hturn.closedForm, UnitaryParameters.matrix_ofTurn phase d hr]
  · exact h

end Gate

/-- Through the kernel a gate is what its own formula gives, unless its rotation vector is short but
not zero. Of a short vector nothing is left but the phase. -/
theorem Parametrization.generalUnitary_eq_closedForm (gate : Gate ℝ) :
    ((∀ p, gate.kernelParameters? = some p → p.vector = 0 ∨ 1e-8 ≤ p.norm) →
      generalUnitary.gate gate = closedForm.gate gate) ∧
    ∀ p, gate.kernelParameters? = some p → p.norm < 1e-8 →
      generalUnitary.gate gate = .complex (Square.identity.scale (.unit p.phase)) := by
  constructor
  · intro hv
    cases h : gate.kernelParameters? with
    | none => exact Gate.generalUnitary_gate_of_none h
    | some p =>
      rw [Gate.generalUnitary_gate_of_some h, Gate.closedForm_gate,
        Gate.closedForm_eq_matrix h (hv p h)]
  · intro p h hlt
    rw [Gate.generalUnitary_gate_of_some h, p.matrix_of_norm_lt hlt]

theorem Parametrization.generalUnitary_phaseOne :
    generalUnitary.gate (.phaseOne Real.pi) = closedForm.gate (.phaseOne Real.pi) ∧
      generalUnitary.gate (.phaseOne 1e-9) =
        .complex (Square.identity.scale (.unit (1e-9 / 2 : ℝ))) := by
  have hparameters (angle : ℝ) := (Gate.isTurn_phaseOne angle).parameters
  have hnorm (angle : ℝ) :=
    UnitaryParameters.norm_ofTurn (angle / 2) (-(angle / 2)) Axis.z.direction
  constructor
  · apply (generalUnitary_eq_closedForm (.phaseOne Real.pi)).1
    intro p h
    rw [hparameters, Option.some.injEq] at h
    right
    rw [← h, hnorm, abs_neg]
    exact le_abs.2 (.inl (by linarith [Real.two_le_pi]))
  · apply (generalUnitary_eq_closedForm (.phaseOne 1e-9)).2 _ (hparameters 1e-9)
    rw [hnorm, abs_neg]
    norm_num [abs_of_pos]

end CircuitScript
