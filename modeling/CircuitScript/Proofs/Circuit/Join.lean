import CircuitScript.Circuit.Join
import CircuitScript.Proofs.Circuit.Lines
/-!
All ways to put one circuit behind another agree, in what they give and in what they refuse, and
circuits of one width are a monoid under them.
-/
namespace CircuitScript.Circuit

open Stateful

/-- Every way to put `b` behind `a` succeeds and gives `sum`. -/
structure Joins (a b sum : Circuit) : Prop where
  concat : a.concat b = .ok sum
  extend : a.extend b = (sum, .ok ())
  add : ∀ passing, a.add passing b = .ok sum
  addAssign : ∀ passing, a.addAssign passing b = (sum, .ok ())

/-- Every way to put `b` behind `a` fails for this reason, and `a` stays in its place. -/
structure RefusesJoin (a b : Circuit) (error : CircuitError) : Prop where
  concat : a.concat b = .error error
  extend : a.extend b = (a, .error error)
  add : ∀ passing, a.add passing b = .error ⟨error.message⟩
  addAssign : ∀ passing, a.addAssign passing b = (a, .error ⟨error.message⟩)

section

variable {a b c d : Circuit}

theorem requireSameWidth_of_eq (h : a.width = b.width) : a.requireSameWidth b = .ok () :=
  if_pos h

theorem requireSameWidth_of_ne (h : a.width ≠ b.width) :
    a.requireSameWidth b = .error (.widthMismatch a.width b.width) :=
  if_neg h

theorem extend_of_eq (h : a.width = b.width) :
    a.extend b = (a.extended b.instructions, .ok ()) := by
  unfold extend
  rw [requireSameWidth_of_eq h]

theorem extend_of_ne (h : a.width ≠ b.width) :
    a.extend b = (a, .error (.widthMismatch a.width b.width)) := by
  unfold extend
  rw [requireSameWidth_of_ne h]

theorem width_extend : (a.extend b).1.width = a.width := by
  by_cases h : a.width = b.width
  · rw [extend_of_eq h]
    rfl
  · rw [extend_of_ne h]

theorem addAssign_eq_extend (passing : Passing) :
    a.addAssign passing b =
      ((a.extend b).1, (a.extend b).2.mapError fun error => ⟨error.message⟩) := by
  cases passing with
  | given =>
    unfold addAssign extend
    cases a.requireSameWidth b <;> rfl
  | lent => rfl

theorem concat_eq_extend : a.concat b = result (a.extend b) := by
  unfold concat
  split
  · rename_i h
    rw [extend_of_eq h]
    rfl
  · rename_i h
    rw [extend_of_ne h]
    rfl

theorem add_eq_concat (passing : Passing) :
    a.add passing b = (a.concat b).mapError fun error => ⟨error.message⟩ := by
  cases passing with
  | given =>
    unfold add result
    rw [concat_eq_extend, addAssign_eq_extend, result]
    cases (a.extend b).2 <;> rfl
  | lent => rfl

theorem concat_eq_ok_iff :
    a.concat b = .ok d ↔ a.width = b.width ∧ d = ⟨a.width, a.instructions ++ b.instructions⟩ := by
  rw [concat_eq_extend, result_eq_ok_iff]
  by_cases h : a.width = b.width
  · simp [extend_of_eq h, extended, h, eq_comm]
  · simp [extend_of_ne h, h]

theorem add_eq_ok_iff (passing : Passing) : a.add passing b = .ok d ↔ a.concat b = .ok d := by
  rw [add_eq_concat, mapError_eq_ok_iff]

theorem hAdd_eq_ok_iff : (a + b : Except Abort Circuit) = .ok d ↔ a.concat b = .ok d :=
  add_eq_ok_iff .lent

theorem joins_of_eq (h : a.width = b.width) : Joins a b (a.extended b.instructions) := by
  have hconcat : a.concat b = .ok (a.extended b.instructions) := by
    rw [concat_eq_extend, extend_of_eq h]
    rfl
  refine ⟨hconcat, extend_of_eq h, ?_, ?_⟩
  · intro passing
    rw [add_eq_concat, hconcat]
    rfl
  · intro passing
    rw [addAssign_eq_extend, extend_of_eq h]
    rfl

theorem refusesJoin_of_ne (h : a.width ≠ b.width) :
    RefusesJoin a b (.widthMismatch a.width b.width) := by
  have hconcat : a.concat b = .error (.widthMismatch a.width b.width) := by
    rw [concat_eq_extend, extend_of_ne h]
    rfl
  refine ⟨hconcat, extend_of_ne h, ?_, ?_⟩
  · intro passing
    rw [add_eq_concat, hconcat]
    rfl
  · intro passing
    rw [addAssign_eq_extend, extend_of_ne h]
    rfl

theorem joins_iff : Joins a b d ↔ a.width = b.width ∧ d = a.extended b.instructions := by
  constructor
  · intro h
    exact concat_eq_ok_iff.1 h.concat
  · rintro ⟨hwidth, rfl⟩
    exact joins_of_eq hwidth

theorem joins_assoc :
    (∃ ab, Joins a b ab ∧ Joins ab c d) ↔ ∃ bc, Joins b c bc ∧ Joins a bc d := by
  simp only [joins_iff]
  constructor
  · rintro ⟨_, ⟨hab, rfl⟩, hac, rfl⟩
    refine ⟨_, ⟨hab.symm.trans hac, rfl⟩, hab, ?_⟩
    rw [extended_extended]
    rfl
  · rintro ⟨_, ⟨hbc, rfl⟩, hab, rfl⟩
    refine ⟨_, ⟨hab, rfl⟩, hab.trans hbc, ?_⟩
    rw [extended_extended]
    rfl

/-- Circuits of one width are put behind each other in the same way by every operation, and those of
different widths are refused in the same way, by an error or by an abort with its message. Either
grouping of three circuits gives the same circuit or none, and the empty circuit changes nothing. -/
theorem joins_form_monoid :
    (∀ a b : Circuit,
      (a.width = b.width → Joins a b ⟨a.width, a.instructions ++ b.instructions⟩) ∧
      (a.width ≠ b.width → RefusesJoin a b (.widthMismatch a.width b.width))) ∧
    (∀ a b c d : Circuit,
      (∃ ab, Joins a b ab ∧ Joins ab c d) ↔ ∃ bc, Joins b c bc ∧ Joins a bc d) ∧
    ∀ c : Circuit, Joins c (empty c.width) c ∧ Joins (empty c.width) c c := by
  refine ⟨?_, fun _ _ _ _ => joins_assoc, ?_⟩
  · intro a b
    exact ⟨joins_of_eq, refusesJoin_of_ne⟩
  · intro c
    rw [joins_iff, joins_iff]
    refine ⟨⟨rfl, ?_⟩, rfl, ?_⟩
    · exact (extended_nil c).symm
    · rfl

theorem joins_form_monoid_two_widths :
    let a : Circuit := ⟨2, [.hadamard 0 []]⟩
    let b : Circuit := ⟨2, [.swap 0 1 []]⟩
    let c : Circuit := ⟨3, [.note "wide"]⟩
    a.width = b.width ∧ a.width ≠ c.width ∧
      a.addAssign .given b = (⟨2, [.hadamard 0 [], .swap 0 1 []]⟩, .ok ()) ∧
      a.add .lent c = .error ⟨"Cannot combine circuits on 2 and 3 qubits"⟩ := by
  intro a b c
  have hac : a.width ≠ c.width := by decide
  have hjoins := (joins_form_monoid.1 a b).1 rfl
  have hrefuses := (joins_form_monoid.1 a c).2 hac
  have hmessage : (CircuitError.widthMismatch a.width c.width).message =
      "Cannot combine circuits on 2 and 3 qubits" := by decide +kernel
  rw [← hmessage]
  exact ⟨rfl, hac, hjoins.addAssign .given, hrefuses.add .lent⟩

end

end CircuitScript.Circuit
