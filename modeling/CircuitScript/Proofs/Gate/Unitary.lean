import CircuitScript.Proofs.Gate.Uniform
/-!
Gates are unitary, and a gate at the negated parameters is the adjoint, whichever strategy computes
them. Both come from one form: a gate is a phase times a turn, and its reverse is the opposite phase
times the opposite turn.
-/
namespace CircuitScript

def AreOpposite (m n : Square (Amplitude ℝ)) : Prop :=
  ∃ phase r d, m = (turn r d).scale (.unit phase) ∧ n = (turn (-r) d).scale (.unit (-phase))

namespace AreOpposite

variable {m n : Square (Amplitude ℝ)}

theorem isUnitary (h : AreOpposite m n) : m.IsUnitary := by
  obtain ⟨phase, r, d, rfl, -⟩ := h
  exact (isUnitary_turn r d).scale_unit phase

theorem eq_adjoint (h : AreOpposite m n) : n = m.adjoint := by
  obtain ⟨phase, r, d, rfl, rfl⟩ := h
  rw [Square.adjoint_scale, adjoint_turn, Amplitude.conj_unit]

end AreOpposite

theorem UnitaryParameters.areOpposite_matrix (phase x y z : ℝ) :
    AreOpposite (ClosedForm.unitary phase x y z) (ClosedForm.unitary (-phase) (-x) (-y) (-z)) := by
  obtain ⟨r, d, hr, hneg⟩ := ClosedForm.exists_turn x y z
  exact ⟨phase, r, d, by rw [ClosedForm.unitary, hr], by rw [ClosedForm.unitary, hneg]⟩

namespace Gate

/-- The gate at the negated parameters, or with the dagger toggled. A gate without parameters is its
own. -/
def reversed {K : Type} [Scalar K] : Gate K → Gate K
  | .hadamard kind => .hadamard kind
  | .projectZero kind => .projectZero kind
  | .projectOne kind => .projectOne kind
  | .pauliX kind => .pauliX kind
  | .pauliY => .pauliY
  | .pauliZ kind => .pauliZ kind
  | .phaseZero angle => .phaseZero (-angle)
  | .phaseOne angle => .phaseOne (-angle)
  | .phaseAll angle => .phaseAll (-angle)
  | .rotationVector x y z => .rotationVector (-x) (-y) (-z)
  | .rotationAxis angle axis => .rotationAxis (-angle) axis
  | .s dagger => .s (!dagger)
  | .t dagger => .t (!dagger)
  | .unitary phase x y z => .unitary (-phase) (-x) (-y) (-z)

def isProjector {K : Type} : Gate K → Bool
  | .projectZero _ | .projectOne _ => true
  | _ => false

theorem turned_not (angle : ℝ) (dagger : Bool) : turned angle (!dagger) = -turned angle dagger := by
  cases dagger <;> simp [turned]

variable {gate other : Gate ℝ} {phase r : ℝ} {d : Direction}

theorem IsTurn.areOpposite (h : gate.IsTurn phase r d) (ho : other.IsTurn (-phase) (-r) d)
    (p : Parametrization) : AreOpposite (p.gate gate).toComplex (p.gate other).toComplex := by
  cases p with
  | closedForm =>
    rw [closedForm_gate, closedForm_gate, h.closedForm, ho.closedForm]
    exact ⟨phase, r, d, rfl, rfl⟩
  | generalUnitary =>
    rw [generalUnitary_gate_of_some h.parameters, generalUnitary_gate_of_some ho.parameters]
    have hm := UnitaryParameters.areOpposite_matrix phase (r * d.x) (r * d.y) (r * d.z)
    rwa [← neg_mul, ← neg_mul, ← neg_mul] at hm

theorem gate_of_none (h : gate.kernelParameters? = none) (p : Parametrization) :
    p.gate gate = gate.closedForm := by
  cases p with
  | closedForm => rfl
  | generalUnitary => exact generalUnitary_gate_of_none h

theorem gate_of_some {q : UnitaryParameters ℝ} (h : gate.kernelParameters? = some q)
    (hm : gate.closedForm = .complex q.matrix) (p : Parametrization) :
    p.gate gate = .complex q.matrix := by
  cases p with
  | closedForm => exact hm
  | generalUnitary => exact generalUnitary_gate_of_some h

theorem areOpposite_quarter (d : Direction) : AreOpposite (quarter d) (quarter d) := by
  refine ⟨-(Real.pi / 2), Real.pi / 2, d, rfl, ?_⟩
  ext <;> simp [quarter, turn, Square.scale, Square.map]

theorem IsTurn.areOpposite_self (h : gate.IsTurn (-(Real.pi / 2)) (Real.pi / 2) d)
    (p : Parametrization) : AreOpposite (p.gate gate).toComplex (p.gate gate).toComplex := by
  have hlong : 1e-8 ≤ |Real.pi / 2| := by
    rw [abs_of_pos (half_pos Real.pi_pos)]
    linarith [Real.two_le_pi]
  have hmatrix := UnitaryParameters.matrix_ofTurn (-(Real.pi / 2)) d (.inr hlong)
  rw [gate_of_some h.parameters (by rw [h.closedForm, hmatrix]), hmatrix]
  exact areOpposite_quarter d

theorem areOpposite_reversed (p : Parametrization) (h : gate.isProjector = false) :
    AreOpposite (p.gate gate).toComplex (p.gate gate.reversed).toComplex := by
  cases gate with
  | hadamard kind =>
    cases kind with
    | real =>
      rw [reversed, gate_of_none rfl]
      exact isTurn_hadamard.areOpposite_self .closedForm
    | complex => exact isTurn_hadamard.areOpposite_self p
  | projectZero kind => cases h
  | projectOne kind => cases h
  | pauliX kind =>
    cases kind with
    | real =>
      rw [reversed, gate_of_none rfl]
      exact isTurn_pauliX.areOpposite_self .closedForm
    | complex => exact isTurn_pauliX.areOpposite_self p
  | pauliY => exact isTurn_pauliY.areOpposite_self p
  | pauliZ kind =>
    cases kind with
    | real =>
      rw [reversed, gate_of_none rfl]
      exact isTurn_pauliZ.areOpposite_self .closedForm
    | complex => exact isTurn_pauliZ.areOpposite_self p
  | phaseZero angle =>
    have ho := isTurn_phaseZero (-angle)
    rw [neg_div] at ho
    exact (isTurn_phaseZero angle).areOpposite ho p
  | phaseOne angle =>
    have ho := isTurn_phaseOne (-angle)
    rw [neg_div] at ho
    exact (isTurn_phaseOne angle).areOpposite ho p
  | phaseAll angle =>
    have ho := isTurn_phaseAll (-angle)
    rw [← neg_zero] at ho
    exact (isTurn_phaseAll angle).areOpposite ho p
  | rotationVector x y z =>
    have hmatrix (x y z : ℝ) : (rotationVector x y z).closedForm =
        .complex (UnitaryParameters.matrix ⟨0, x, y, z⟩) := by
      simp [Gate.closedForm, UnitaryParameters.matrix, ClosedForm.unitary]
    rw [reversed, gate_of_some rfl (hmatrix x y z), gate_of_some rfl (hmatrix (-x) (-y) (-z))]
    have hm := UnitaryParameters.areOpposite_matrix 0 x y z
    rwa [neg_zero] at hm
  | rotationAxis angle axis =>
    have ho := isTurn_rotationAxis (-angle) axis
    rw [← neg_zero] at ho
    exact (isTurn_rotationAxis angle axis).areOpposite ho p
  | s dagger =>
    have ho := isTurn_s (!dagger)
    rw [turned_not, neg_div] at ho
    exact (isTurn_s dagger).areOpposite ho p
  | t dagger =>
    have ho := isTurn_t (!dagger)
    rw [turned_not, neg_div] at ho
    exact (isTurn_t dagger).areOpposite ho p
  | unitary phase x y z =>
    rw [reversed, gate_of_some rfl rfl, gate_of_some rfl rfl]
    exact UnitaryParameters.areOpposite_matrix phase x y z

theorem toComplex_ofReal (kind : EntryKind) (matrix : Square ℝ) :
    (GateMatrix.ofReal kind matrix).toComplex = matrix.map Amplitude.ofReal := by
  cases kind <;> rfl

theorem not_isUnitary_of_isProjector (p : Parametrization) (h : gate.isProjector = true) :
    ¬(p.gate gate).toComplex.IsUnitary := by
  intro hu
  cases gate with
  | projectZero kind =>
    rw [gate_of_none rfl, closedForm, toComplex_ofReal] at hu
    have hd := congrArg (fun m => m.d.re) hu
    simp [ClosedForm.projectZero, Square.map, Square.mul, Square.adjoint, Square.identity,
      Square.diagonal] at hd
  | projectOne kind =>
    rw [gate_of_none rfl, closedForm, toComplex_ofReal] at hu
    have ha := congrArg (fun m => m.a.re) hu
    simp [ClosedForm.projectOne, Square.map, Square.mul, Square.adjoint, Square.identity,
      Square.diagonal] at ha
  | _ => cases h

theorem adjoint_of_isProjector (p : Parametrization) (h : gate.isProjector = true) :
    (p.gate gate.reversed).toComplex = (p.gate gate).toComplex.adjoint := by
  cases gate with
  | projectZero kind =>
    rw [reversed, gate_of_none rfl, closedForm, toComplex_ofReal]
    ext <;> simp [ClosedForm.projectZero, Square.map, Square.adjoint]
  | projectOne kind =>
    rw [reversed, gate_of_none rfl, closedForm, toComplex_ofReal]
    ext <;> simp [ClosedForm.projectOne, Square.map, Square.adjoint]
  | _ => cases h

end Gate

/-- Whichever strategy computes it, a gate is unitary unless it is a projector, and the gate at the
negated parameters is its adjoint. -/
theorem Parametrization.gate_isUnitary (p : Parametrization) (gate : Gate ℝ) :
    ((p.gate gate).toComplex.IsUnitary ↔ gate.isProjector = false) ∧
      (p.gate gate.reversed).toComplex = (p.gate gate).toComplex.adjoint := by
  cases h : gate.isProjector with
  | false =>
    have hopposite := Gate.areOpposite_reversed p h
    exact ⟨iff_of_true hopposite.isUnitary rfl, hopposite.eq_adjoint⟩
  | true =>
    have hnot := Gate.not_isUnitary_of_isProjector p h
    exact ⟨iff_of_false hnot (by simp), Gate.adjoint_of_isProjector p h⟩

end CircuitScript
