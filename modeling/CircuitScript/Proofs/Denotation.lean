import CircuitScript.Building.Call
import CircuitScript.Proofs.Reader
/-!
What the parameters of a call denote, said without taking them one by one: a relation for each kind
of parameter, and for each operation the instruction that it builds from them.
-/
namespace CircuitScript

namespace Parameter

def IsQubit (p : Parameter) (qubit : Qubit) : Prop :=
  ∃ value : Int64, p = .int value ∧ value.toInt = qubit.toNat

def IsCount (p : Parameter) (count : UInt32) : Prop :=
  ∃ value : Int64, p = .int value ∧ value.toInt = count.toNat

def IsKind (p : Parameter) (kind : UInt8) : Prop :=
  ∃ value : Int64, p = .int value ∧ value.toInt = kind.toNat ∧
    kind.toNat ≤ Instruction.lastMeasurement

def IsLine (p : Parameter) (text : String) : Prop :=
  p = .text text ∧ '\n' ∉ text.toList ∧ '\r' ∉ text.toList

/-- Radians, or text that is an angle by itself. -/
inductive IsAngle : Parameter → Angle → Prop
  | int (value : Int64) : IsAngle (.int value) (Angle.ofRadians (Float.ofInt value.toInt))
  | float {value : Float} (h : value.isFinite = true) :
      IsAngle (.float value) (Angle.ofRadians value)
  | text {token : String} {angle : Angle} (h : Angle.IsToken .hash token angle) :
      IsAngle (.text token) angle

def IsAngles (p : Parameter) (angles : List Angle) : Prop :=
  ∃ items, p = .list items ∧ items ≠ [] ∧ List.Forall₂ IsAngle items angles

/-- A qubit that has to be one, or a token. -/
inductive IsControl : Parameter → Control → Prop
  | int {value : Int64} {qubit : Qubit} (h : value.toInt = qubit.toNat) :
      IsControl (.int value) (Control.onOne qubit)
  | text {token : String} {control : Control} (h : Control.IsToken token control) :
      IsControl (.text token) control

def IsControls (p : Parameter) (controls : List Control) : Prop :=
  ∃ items, p = .list items ∧ List.Forall₂ IsControl items controls

inductive IsLastFlag : List Parameter → Bool → Prop
  | absent : IsLastFlag [] false
  | given (value : Bool) : IsLastFlag [.flag value] value

end Parameter

namespace Operation

open Stateful

inductive Denotes : Operation → List Parameter → Instruction → Prop
  | hadamard {p : Parameter} {target : Qubit} (ht : p.IsQubit target) :
      Denotes .hadamard [p] (.hadamard target [])
  | pauli {axis : Axis} {p : Parameter} {target : Qubit} (ht : p.IsQubit target) :
      Denotes (.pauli axis) [p] (.pauli axis target [])
  | controlledX {p₁ p₂ : Parameter} {control target : Qubit} (hc : p₁.IsQubit control)
      (ht : p₂.IsQubit target) :
      Denotes .controlledX [p₁, p₂] (.pauli .x target [Control.onOne control])
  | controlledZ {p₁ p₂ : Parameter} {control target : Qubit} (hc : p₁.IsQubit control)
      (ht : p₂.IsQubit target) :
      Denotes .controlledZ [p₁, p₂] (.pauli .z target [Control.onOne control])
  | rotation {axis : Axis} {p₁ p₂ : Parameter} {target : Qubit} {angle : Angle}
      (ht : p₁.IsQubit target) (ha : p₂.IsAngle angle) :
      Denotes (.rotation axis) [p₁, p₂] (.rotation axis angle target [])
  | rotationVector {p₁ p₂ : Parameter} {target : Qubit} {x y z : Angle} (ht : p₁.IsQubit target)
      (ha : p₂.IsAngles [x, y, z]) :
      Denotes .rotationVector [p₁, p₂] (.rotationVector x y z target [])
  | phase {kind : PhaseKind} {p₁ p₂ : Parameter} {target : Qubit} {angle : Angle}
      (ht : p₁.IsQubit target) (ha : p₂.IsAngle angle) :
      Denotes (.phase kind) [p₁, p₂] (.phase kind angle target [])
  | s {p : Parameter} {flags : List Parameter} {target : Qubit} {dagger : Bool}
      (ht : p.IsQubit target) (hf : Parameter.IsLastFlag flags dagger) :
      Denotes .s (p :: flags) (.phase .one (.literal (if dagger then "-90" else "90")) target [])
  | t {p : Parameter} {flags : List Parameter} {target : Qubit} {dagger : Bool}
      (ht : p.IsQubit target) (hf : Parameter.IsLastFlag flags dagger) :
      Denotes .t (p :: flags) (.phase .one (.literal (if dagger then "-45" else "45")) target [])
  | swap {p₁ p₂ : Parameter} {first second : Qubit} (h₁ : p₁.IsQubit first)
      (h₂ : p₂.IsQubit second) : Denotes .swap [p₁, p₂] (.swap first second [])
  | measure {p₁ p₂ : Parameter} {target : Qubit} {kind : UInt8} (ht : p₁.IsQubit target)
      (hk : p₂.IsKind kind) : Denotes .measure [p₁, p₂] (.measure kind target)
  | note {p : Parameter} {text : String} (h : p.IsLine text) : Denotes .note [p] (.note text)
  | print {p : Parameter} {style : String} (h : p.IsLine style) :
      Denotes .print [p] (.print style)
  | loopBegin {p₁ p₂ : Parameter} {id repetitions : UInt32} (hi : p₁.IsCount id)
      (hr : p₂.IsCount repetitions) : Denotes .loopBegin [p₁, p₂] (.loopBegin id repetitions)
  | loopEnd {p : Parameter} {id : UInt32} (hi : p.IsCount id) :
      Denotes .loopEnd [p] (.loopEnd id)
  | conditionBegin {p : Parameter} {conditions : List Control} (hc : p.IsControls conditions)
      (hne : conditions ≠ [])
      (hplain : ∀ condition ∈ conditions, condition.isMultiplexed = false) :
      Denotes .conditionBegin [p] (.conditionBegin conditions)
  | conditionEnd : Denotes .conditionEnd [] .conditionEnd
  | diagonal {p₁ p₂ : Parameter} {controls : List Control} {coefficients : List Angle}
      (hc : p₁.IsControls controls) (ha : p₂.IsAngles coefficients) :
      Denotes .diagonal [p₁, p₂] (.diagonal controls coefficients)
  | multiplexor {p₁ p₂ p₃ : Parameter} {target : Qubit} {controls : List Control}
      {coefficients : List Angle} (ht : p₁.IsQubit target) (hc : p₂.IsControls controls)
      (hne : controls ≠ []) (ha : p₃.IsAngles coefficients) :
      Denotes .multiplexor [p₁, p₂, p₃] (.multiplexor target controls coefficients)

section

variable {count : Nat} {parameters rest : List Parameter}

theorem nextParameter_eq_ok_iff {what : String} {p : Parameter} :
    nextParameter count what parameters = .ok (p, rest) ↔ parameters = p :: rest := by
  cases parameters <;> simp [nextParameter]

theorem finish_eq_ok_iff {u : Unit} :
    finish count parameters = .ok (u, rest) ↔ parameters = [] ∧ rest = [] := by
  cases parameters <;> simp [finish, eq_comm]

theorem toUInt64_eq_iff {value : Int64} {qubit : Qubit} (h : 0 ≤ value) :
    value.toUInt64 = qubit ↔ value.toInt = qubit.toNat := by
  rw [← UInt64.toNat_inj, Int64.toNat_toUInt64_of_le h, ← Int64.cast_toNatClampNeg _ h]
  omega

theorem nonneg_of_toInt_eq {value : Int64} {n : Nat} (h : value.toInt = n) : 0 ≤ value := by
  rw [Int64.le_iff_toInt_le, Int64.toInt_zero, h]
  omega

theorem takeQubit_eq_ok_iff {qubit : Qubit} :
    takeQubit count parameters = .ok (qubit, rest) ↔
      ∃ p, parameters = p :: rest ∧ p.IsQubit qubit := by
  unfold takeQubit
  simp only [bind_eq_ok_iff, nextParameter_eq_ok_iff]
  constructor
  · rintro ⟨p, rest', rfl, h⟩
    cases p with
    | int value =>
      by_cases hneg : value < 0
      · simp only [if_pos hneg] at h
        exact absurd h throw_ne_ok
      · simp only [if_neg hneg] at h
        obtain ⟨hvalue, rfl⟩ := pure_eq_ok_iff.1 h
        rw [toUInt64_eq_iff (Int64.not_lt.1 hneg)] at hvalue
        exact ⟨_, rfl, value, rfl, hvalue⟩
    | _ => exact absurd h throw_ne_ok
  · rintro ⟨_, rfl, value, rfl, hvalue⟩
    have hnonneg := nonneg_of_toInt_eq hvalue
    refine ⟨_, rest, rfl, ?_⟩
    simp only [if_neg (Int64.not_lt.2 hnonneg)]
    rw [(toUInt64_eq_iff hnonneg).2 hvalue]
    rfl

theorem ofNat_toNat_eq_iff {value : Int} {n : UInt32} (h : 0 ≤ value ∧ value < UInt32.size) :
    UInt32.ofNat value.toNat = n ↔ value = n.toNat := by
  have hlt : value.toNat < UInt32.size := by omega
  rw [← UInt32.toNat_inj, UInt32.toNat_ofNat_of_lt' hlt]
  omega

theorem takeCount_eq_ok_iff {what : String} {n : UInt32} :
    takeCount count what parameters = .ok (n, rest) ↔
      ∃ p, parameters = p :: rest ∧ p.IsCount n := by
  unfold takeCount
  simp only [bind_eq_ok_iff, nextParameter_eq_ok_iff]
  constructor
  · rintro ⟨p, rest', rfl, h⟩
    cases p with
    | int value =>
      by_cases hrange : 0 ≤ value.toInt ∧ value.toInt < UInt32.size
      · simp only [if_pos hrange] at h
        obtain ⟨hvalue, rfl⟩ := pure_eq_ok_iff.1 h
        exact ⟨_, rfl, value, rfl, (ofNat_toNat_eq_iff hrange).1 hvalue⟩
      · simp only [if_neg hrange] at h
        exact absurd h throw_ne_ok
    | _ => exact absurd h throw_ne_ok
  · rintro ⟨_, rfl, value, rfl, hvalue⟩
    have hlt := n.toNat_lt
    have hrange : 0 ≤ value.toInt ∧ value.toInt < UInt32.size := by
      unfold UInt32.size
      omega
    refine ⟨_, rest, rfl, ?_⟩
    simp only [if_pos hrange]
    rw [(ofNat_toNat_eq_iff hrange).2 hvalue]
    rfl

theorem takeInt_eq_ok_iff {n : Int} :
    takeInt count parameters = .ok (n, rest) ↔
      ∃ value : Int64, parameters = .int value :: rest ∧ value.toInt = n := by
  unfold takeInt
  simp only [bind_eq_ok_iff, nextParameter_eq_ok_iff]
  constructor
  · rintro ⟨p, rest', rfl, h⟩
    cases p with
    | int value =>
      obtain ⟨hvalue, rfl⟩ := pure_eq_ok_iff.1 h
      exact ⟨value, rfl, hvalue⟩
    | _ => exact absurd h throw_ne_ok
  · rintro ⟨value, rfl, rfl⟩
    exact ⟨_, rest, rfl, rfl⟩

theorem takeText_eq_ok_iff {text : String} :
    takeText count parameters = .ok (text, rest) ↔
      ∃ p, parameters = p :: rest ∧ p.IsLine text := by
  have hbreak (value : String) :
      (value.toList.any fun c => c = '\n' || c = '\r') = true ↔
        ¬('\n' ∉ value.toList ∧ '\r' ∉ value.toList) := by
    simp only [List.any_eq_true, Bool.or_eq_true, decide_eq_true_eq]
    grind
  unfold takeText
  simp only [bind_eq_ok_iff, nextParameter_eq_ok_iff, hbreak]
  constructor
  · rintro ⟨p, rest', rfl, h⟩
    cases p with
    | text value =>
      by_cases hline : '\n' ∉ value.toList ∧ '\r' ∉ value.toList
      · simp only [if_neg (not_not.2 hline)] at h
        obtain ⟨rfl, rfl⟩ := pure_eq_ok_iff.1 h
        exact ⟨_, rfl, rfl, hline⟩
      · simp only [if_pos hline] at h
        exact absurd h throw_ne_ok
    | _ => exact absurd h throw_ne_ok
  · rintro ⟨_, rfl, rfl, hline⟩
    refine ⟨_, rest, rfl, ?_⟩
    simp only [if_neg (not_not.2 hline)]
    rfl

theorem takeOptionalFlag_eq_ok_iff {value : Bool} :
    takeOptionalFlag parameters = .ok (value, []) ↔ Parameter.IsLastFlag parameters value := by
  constructor
  · intro h
    unfold takeOptionalFlag at h
    split at h
    · cases h
      exact .absent
    · cases h
      exact .given value
    · cases h
  · intro h
    cases h <;> rfl

theorem angleOf_eq_ok_iff {p : Parameter} {angle : Angle} :
    angleOf p = .ok angle ↔ p.IsAngle angle := by
  constructor
  · intro h
    unfold angleOf at h
    split at h
    · cases h
      exact .int _
    · split at h
      · rename_i hfinite
        cases h
        exact .float hfinite
      · cases h
    · exact .text (Angle.ofToken_eq_ok_iff.1 h)
    · cases h
  · intro h
    cases h with
    | int value => rfl
    | float h => rw [angleOf, if_pos h]
    | text h => exact Angle.ofToken_eq_ok_iff.2 h

theorem takeAngle_eq_ok_iff {angle : Angle} :
    takeAngle count parameters = .ok (angle, rest) ↔
      ∃ p, parameters = p :: rest ∧ p.IsAngle angle := by
  unfold takeAngle
  simp only [bind_eq_ok_iff, nextParameter_eq_ok_iff, lift_eq_ok_iff, angleOf_eq_ok_iff]
  constructor
  · rintro ⟨p, _, rfl, h, rfl⟩
    exact ⟨p, rfl, h⟩
  · rintro ⟨p, rfl, h⟩
    exact ⟨p, rest, rfl, h, rfl⟩

theorem takeList_eq_ok_iff {what : String} {items : List Parameter} :
    takeList count what parameters = .ok (items, rest) ↔ parameters = .list items :: rest := by
  unfold takeList
  simp only [bind_eq_ok_iff, nextParameter_eq_ok_iff]
  constructor
  · rintro ⟨p, rest', rfl, h⟩
    cases p with
    | list items =>
      obtain ⟨rfl, rfl⟩ := pure_eq_ok_iff.1 h
      rfl
    | _ => exact absurd h throw_ne_ok
  · rintro rfl
    exact ⟨_, rest, rfl, rfl⟩

theorem takeAngles_eq_ok_iff {angles : List Angle} :
    takeAngles count parameters = .ok (angles, rest) ↔
      ∃ p, parameters = p :: rest ∧ p.IsAngles angles := by
  unfold takeAngles
  simp only [bind_eq_ok_iff, takeList_eq_ok_iff, guard_eq_ok_iff, lift_eq_ok_iff, mapM_eq_ok_iff,
    angleOf_eq_ok_iff, List.isEmpty_iff]
  constructor
  · rintro ⟨items, _, rfl, hne, h, rfl⟩
    exact ⟨_, rfl, items, rfl, hne, h⟩
  · rintro ⟨_, rfl, items, rfl, hne, h⟩
    exact ⟨items, rest, rfl, hne, h, rfl⟩

theorem takeThreeAngles_eq_ok_iff {x y z : Angle} :
    takeThreeAngles count parameters = .ok ((x, y, z), rest) ↔
      ∃ p, parameters = p :: rest ∧ p.IsAngles [x, y, z] := by
  unfold takeThreeAngles
  simp only [bind_eq_ok_iff, takeAngles_eq_ok_iff]
  constructor
  · rintro ⟨angles, rest', ⟨p, rfl, ha⟩, h⟩
    split at h
    · obtain ⟨hangles, rfl⟩ := pure_eq_ok_iff.1 h
      cases hangles
      exact ⟨p, rfl, ha⟩
    · exact absurd h throw_ne_ok
  · rintro ⟨p, rfl, ha⟩
    exact ⟨_, rest, ⟨p, rfl, ha⟩, rfl⟩

theorem controlOf_eq_ok_iff {p : Parameter} {control : Control} :
    controlOf p = .ok control ↔ p.IsControl control := by
  constructor
  · intro h
    unfold controlOf at h
    split at h
    · split at h
      · cases h
      · rename_i hneg
        cases h
        exact .int ((toUInt64_eq_iff (Int64.not_lt.1 hneg)).1 rfl)
    · exact .text (Control.ofToken_eq_ok_iff.1 h)
    · cases h
  · intro h
    cases h with
    | int h =>
      have hnonneg := nonneg_of_toInt_eq h
      rw [controlOf, if_neg (Int64.not_lt.2 hnonneg), (toUInt64_eq_iff hnonneg).2 h]
    | text h => exact Control.ofToken_eq_ok_iff.2 h

theorem takeControls_eq_ok_iff {controls : List Control} :
    takeControls count parameters = .ok (controls, rest) ↔
      ∃ p, parameters = p :: rest ∧ p.IsControls controls := by
  unfold takeControls
  simp only [bind_eq_ok_iff, takeList_eq_ok_iff, lift_eq_ok_iff, mapM_eq_ok_iff,
    controlOf_eq_ok_iff]
  constructor
  · rintro ⟨items, _, rfl, h, rfl⟩
    exact ⟨_, rfl, items, rfl, h⟩
  · rintro ⟨_, rfl, items, rfl, h⟩
    exact ⟨items, rest, rfl, h, rfl⟩

theorem isKind_int_iff {value : Int64} {kind : UInt8} :
    (Parameter.int value).IsKind kind ↔
      ¬(value.toInt < 0 ∨ Instruction.lastMeasurement < value.toInt) ∧
        UInt8.ofNat value.toInt.toNat = kind := by
  have hlast : Instruction.lastMeasurement = 2 := rfl
  constructor
  · rintro ⟨_, ⟨⟩, hvalue, hle⟩
    refine ⟨by omega, ?_⟩
    rw [hvalue, Int.toNat_natCast, UInt8.ofNat_toNat]
  · rintro ⟨hrange, rfl⟩
    have hlt : value.toInt.toNat < UInt8.size := by
      unfold UInt8.size
      omega
    refine ⟨value, rfl, ?_, ?_⟩
    · rw [UInt8.toNat_ofNat_of_lt' hlt]
      omega
    · rw [UInt8.toNat_ofNat_of_lt' hlt]
      omega

/-- A reader that takes one parameter, and what the parameter is to it. -/
def Takes {α : Type} (take : ParameterReader α) (Is : Parameter → α → Prop) : Prop :=
  ∀ parameters rest value,
    take parameters = .ok (value, rest) ↔ ∃ p, parameters = p :: rest ∧ Is p value

theorem readOne_eq_ok_iff {α : Type} {take : ParameterReader α} {Is : Parameter → α → Prop}
    (htake : Takes take Is) {make : α → Instruction} {instruction : Instruction} :
    (do
      let a ← take
      finish count
      return make a) parameters = .ok (instruction, rest) ↔
      (∃ p a, parameters = [p] ∧ Is p a ∧ make a = instruction) ∧ rest = [] := by
  simp only [bind_eq_ok_iff, htake _ _ _, finish_eq_ok_iff, pure_eq_ok_iff]
  constructor
  · rintro ⟨a, _, ⟨p, rfl, ha⟩, _, _, ⟨rfl, rfl⟩, hmake, rfl⟩
    exact ⟨⟨p, a, rfl, ha, hmake⟩, rfl⟩
  · rintro ⟨⟨p, a, rfl, ha, hmake⟩, rfl⟩
    exact ⟨a, [], ⟨p, rfl, ha⟩, (), [], ⟨rfl, rfl⟩, hmake, rfl⟩

theorem readTwo_eq_ok_iff {α β : Type} {takeA : ParameterReader α} {takeB : ParameterReader β}
    {IsA : Parameter → α → Prop} {IsB : Parameter → β → Prop} (ha : Takes takeA IsA)
    (hb : Takes takeB IsB) {make : α → β → Instruction} {instruction : Instruction} :
    (do
      let a ← takeA
      let b ← takeB
      finish count
      return make a b) parameters = .ok (instruction, rest) ↔
      (∃ p q a b, parameters = [p, q] ∧ IsA p a ∧ IsB q b ∧ make a b = instruction) ∧
        rest = [] := by
  simp only [bind_eq_ok_iff (x := takeA), ha _ _ _, readOne_eq_ok_iff hb]
  constructor
  · rintro ⟨a, _, ⟨p, rfl, hp⟩, ⟨q, b, rfl, hq, hmake⟩, rfl⟩
    exact ⟨⟨p, q, a, b, rfl, hp, hq, hmake⟩, rfl⟩
  · rintro ⟨⟨p, q, a, b, rfl, hp, hq, hmake⟩, rfl⟩
    exact ⟨a, _, ⟨p, rfl, hp⟩, ⟨q, b, rfl, hq, hmake⟩, rfl⟩

theorem readFlagged_eq_ok_iff {make : Qubit → Bool → Instruction} {instruction : Instruction} :
    (do
      let target ← takeQubit count
      let flag ← takeOptionalFlag
      finish count
      return make target flag) parameters = .ok (instruction, rest) ↔
      (∃ p flags target flag, parameters = p :: flags ∧ p.IsQubit target ∧
        Parameter.IsLastFlag flags flag ∧ make target flag = instruction) ∧ rest = [] := by
  simp only [bind_eq_ok_iff, takeQubit_eq_ok_iff, finish_eq_ok_iff, pure_eq_ok_iff]
  constructor
  · rintro ⟨target, flags, ⟨p, rfl, ht⟩, flag, _, hflag, _, _, ⟨rfl, rfl⟩, hmake, rfl⟩
    exact ⟨⟨p, flags, target, flag, rfl, ht, takeOptionalFlag_eq_ok_iff.1 hflag, hmake⟩, rfl⟩
  · rintro ⟨⟨p, flags, target, flag, rfl, ht, hflag, hmake⟩, rfl⟩
    exact ⟨target, flags, ⟨p, rfl, ht⟩, flag, [], takeOptionalFlag_eq_ok_iff.2 hflag, (), [],
      ⟨rfl, rfl⟩, hmake, rfl⟩

theorem takes_qubit : Takes (takeQubit count) Parameter.IsQubit := fun _ _ _ => takeQubit_eq_ok_iff

theorem takes_count {what : String} : Takes (takeCount count what) Parameter.IsCount :=
  fun _ _ _ => takeCount_eq_ok_iff

theorem takes_text : Takes (takeText count) Parameter.IsLine := fun _ _ _ => takeText_eq_ok_iff

theorem takes_angle : Takes (takeAngle count) Parameter.IsAngle := fun _ _ _ => takeAngle_eq_ok_iff

theorem takes_angles : Takes (takeAngles count) Parameter.IsAngles :=
  fun _ _ _ => takeAngles_eq_ok_iff

theorem takes_threeAngles :
    Takes (takeThreeAngles count) fun p angles => p.IsAngles [angles.1, angles.2.1, angles.2.2] :=
  fun _ _ _ => takeThreeAngles_eq_ok_iff

theorem takes_controls : Takes (takeControls count) Parameter.IsControls :=
  fun _ _ _ => takeControls_eq_ok_iff

theorem readCall_eq_ok_iff {op : Operation} {instruction : Instruction} :
    readCall count op parameters = .ok (instruction, rest) ↔
      Denotes op parameters instruction ∧ rest = [] := by
  cases op with
  | hadamard =>
    refine (readOne_eq_ok_iff takes_qubit).trans (and_congr_left fun _ => ⟨?_, ?_⟩)
    · rintro ⟨p, a, rfl, ha, rfl⟩
      exact .hadamard ha
    · intro h
      cases h with
      | hadamard ha => exact ⟨_, _, rfl, ha, rfl⟩
  | pauli axis =>
    refine (readOne_eq_ok_iff takes_qubit).trans (and_congr_left fun _ => ⟨?_, ?_⟩)
    · rintro ⟨p, a, rfl, ha, rfl⟩
      exact .pauli ha
    · intro h
      cases h with
      | pauli ha => exact ⟨_, _, rfl, ha, rfl⟩
  | controlledX =>
    refine (readTwo_eq_ok_iff takes_qubit takes_qubit).trans (and_congr_left fun _ => ⟨?_, ?_⟩)
    · rintro ⟨p, q, a, b, rfl, ha, hb, rfl⟩
      exact .controlledX ha hb
    · intro h
      cases h with
      | controlledX ha hb => exact ⟨_, _, _, _, rfl, ha, hb, rfl⟩
  | controlledZ =>
    refine (readTwo_eq_ok_iff takes_qubit takes_qubit).trans (and_congr_left fun _ => ⟨?_, ?_⟩)
    · rintro ⟨p, q, a, b, rfl, ha, hb, rfl⟩
      exact .controlledZ ha hb
    · intro h
      cases h with
      | controlledZ ha hb => exact ⟨_, _, _, _, rfl, ha, hb, rfl⟩
  | rotation axis =>
    refine (readTwo_eq_ok_iff takes_qubit takes_angle).trans (and_congr_left fun _ => ⟨?_, ?_⟩)
    · rintro ⟨p, q, a, b, rfl, ha, hb, rfl⟩
      exact .rotation ha hb
    · intro h
      cases h with
      | rotation ha hb => exact ⟨_, _, _, _, rfl, ha, hb, rfl⟩
  | rotationVector =>
    refine (readTwo_eq_ok_iff takes_qubit takes_threeAngles).trans
      (and_congr_left fun _ => ⟨?_, ?_⟩)
    · rintro ⟨p, q, a, b, rfl, ha, hb, rfl⟩
      exact .rotationVector ha hb
    · intro h
      cases h with
      | rotationVector ha hb => exact ⟨_, _, _, (_, _, _), rfl, ha, hb, rfl⟩
  | phase kind =>
    refine (readTwo_eq_ok_iff takes_qubit takes_angle).trans (and_congr_left fun _ => ⟨?_, ?_⟩)
    · rintro ⟨p, q, a, b, rfl, ha, hb, rfl⟩
      exact .phase ha hb
    · intro h
      cases h with
      | phase ha hb => exact ⟨_, _, _, _, rfl, ha, hb, rfl⟩
  | s =>
    refine readFlagged_eq_ok_iff.trans (and_congr_left fun _ => ⟨?_, ?_⟩)
    · rintro ⟨p, flags, target, flag, rfl, ht, hflag, rfl⟩
      exact .s ht hflag
    · intro h
      cases h with
      | s ht hflag => exact ⟨_, _, _, _, rfl, ht, hflag, rfl⟩
  | t =>
    refine readFlagged_eq_ok_iff.trans (and_congr_left fun _ => ⟨?_, ?_⟩)
    · rintro ⟨p, flags, target, flag, rfl, ht, hflag, rfl⟩
      exact .t ht hflag
    · intro h
      cases h with
      | t ht hflag => exact ⟨_, _, _, _, rfl, ht, hflag, rfl⟩
  | swap =>
    refine (readTwo_eq_ok_iff takes_qubit takes_qubit).trans (and_congr_left fun _ => ⟨?_, ?_⟩)
    · rintro ⟨p, q, a, b, rfl, ha, hb, rfl⟩
      exact .swap ha hb
    · intro h
      cases h with
      | swap ha hb => exact ⟨_, _, _, _, rfl, ha, hb, rfl⟩
  | measure =>
    unfold readCall
    simp only [bind_eq_ok_iff, takeQubit_eq_ok_iff, takeInt_eq_ok_iff, guard_eq_ok_iff,
      finish_eq_ok_iff, pure_eq_ok_iff]
    constructor
    · rintro ⟨target, _, ⟨p, rfl, ht⟩, _, _, ⟨value, rfl, rfl⟩, hrange, _, _, ⟨rfl, rfl⟩, rfl, rfl⟩
      exact ⟨.measure ht (isKind_int_iff.2 ⟨hrange, rfl⟩), rfl⟩
    · rintro ⟨h, rfl⟩
      cases h with
      | measure ht hk =>
        obtain ⟨value, rfl, hvalue⟩ := hk
        obtain ⟨hrange, rfl⟩ := isKind_int_iff.1 ⟨value, rfl, hvalue⟩
        exact ⟨_, _, ⟨_, rfl, ht⟩, _, _, ⟨value, rfl, rfl⟩, hrange, (), [], ⟨rfl, rfl⟩, rfl, rfl⟩
  | note =>
    refine (readOne_eq_ok_iff takes_text).trans (and_congr_left fun _ => ⟨?_, ?_⟩)
    · rintro ⟨p, a, rfl, ha, rfl⟩
      exact .note ha
    · intro h
      cases h with
      | note ha => exact ⟨_, _, rfl, ha, rfl⟩
  | print =>
    refine (readOne_eq_ok_iff takes_text).trans (and_congr_left fun _ => ⟨?_, ?_⟩)
    · rintro ⟨p, a, rfl, ha, rfl⟩
      exact .print ha
    · intro h
      cases h with
      | print ha => exact ⟨_, _, rfl, ha, rfl⟩
  | loopBegin =>
    refine (readTwo_eq_ok_iff takes_count takes_count).trans (and_congr_left fun _ => ⟨?_, ?_⟩)
    · rintro ⟨p, q, a, b, rfl, ha, hb, rfl⟩
      exact .loopBegin ha hb
    · intro h
      cases h with
      | loopBegin ha hb => exact ⟨_, _, _, _, rfl, ha, hb, rfl⟩
  | loopEnd =>
    refine (readOne_eq_ok_iff takes_count).trans (and_congr_left fun _ => ⟨?_, ?_⟩)
    · rintro ⟨p, a, rfl, ha, rfl⟩
      exact .loopEnd ha
    · intro h
      cases h with
      | loopEnd ha => exact ⟨_, _, rfl, ha, rfl⟩
  | conditionBegin =>
    unfold readCall
    simp only [bind_eq_ok_iff, takeControls_eq_ok_iff, finish_eq_ok_iff]
    constructor
    · rintro ⟨conditions, _, ⟨p, rfl, hc⟩, _, _, ⟨rfl, rfl⟩, h⟩
      split at h
      · rename_i hplain
        obtain ⟨rfl, rfl⟩ := pure_eq_ok_iff.1 h
        obtain ⟨hne, hplain⟩ := Instruction.arePlainConditions_iff.1 hplain
        exact ⟨.conditionBegin hc hne hplain, rfl⟩
      · exact absurd h throw_ne_ok
    · rintro ⟨h, rfl⟩
      cases h with
      | conditionBegin hc hne hplain =>
        refine ⟨_, [], ⟨_, rfl, hc⟩, (), [], ⟨rfl, rfl⟩, ?_⟩
        rw [if_pos (Instruction.arePlainConditions_iff.2 ⟨hne, hplain⟩)]
        rfl
  | conditionEnd =>
    unfold readCall
    simp only [bind_eq_ok_iff, finish_eq_ok_iff, pure_eq_ok_iff]
    constructor
    · rintro ⟨_, _, ⟨rfl, rfl⟩, rfl, rfl⟩
      exact ⟨.conditionEnd, rfl⟩
    · rintro ⟨h, rfl⟩
      cases h with
      | conditionEnd => exact ⟨(), [], ⟨rfl, rfl⟩, rfl, rfl⟩
  | diagonal =>
    refine (readTwo_eq_ok_iff takes_controls takes_angles).trans (and_congr_left fun _ => ⟨?_, ?_⟩)
    · rintro ⟨p, q, a, b, rfl, ha, hb, rfl⟩
      exact .diagonal ha hb
    · intro h
      cases h with
      | diagonal ha hb => exact ⟨_, _, _, _, rfl, ha, hb, rfl⟩
  | multiplexor =>
    unfold readCall
    simp only [bind_eq_ok_iff, takeQubit_eq_ok_iff, takeControls_eq_ok_iff, takeAngles_eq_ok_iff,
      finish_eq_ok_iff, guard_eq_ok_iff, pure_eq_ok_iff, List.isEmpty_iff]
    constructor
    · rintro ⟨target, _, ⟨p, rfl, ht⟩, controls, _, ⟨q, rfl, hc⟩, coefficients, _, ⟨r, rfl, ha⟩, _,
        _, ⟨rfl, rfl⟩, hne, rfl, rfl⟩
      exact ⟨.multiplexor ht hc hne ha, rfl⟩
    · rintro ⟨h, rfl⟩
      cases h with
      | multiplexor ht hc hne ha =>
        exact ⟨_, _, ⟨_, rfl, ht⟩, _, _, ⟨_, rfl, hc⟩, _, _, ⟨_, rfl, ha⟩, (), [], ⟨rfl, rfl⟩, hne,
          rfl, rfl⟩

theorem call_eq_ok_iff {op : Operation} {instruction : Instruction} :
    op.call parameters = .ok instruction ↔ Denotes op parameters instruction := by
  have hread (rest : List Parameter) :
      readCall parameters.length op parameters = .ok (instruction, rest) ↔
        Denotes op parameters instruction ∧ rest = [] := readCall_eq_ok_iff
  unfold call
  constructor
  · intro h
    split at h
    · rename_i rest hrun
      cases h
      exact ((hread rest).1 hrun).1
    · cases h
  · intro h
    have hrun : (readCall parameters.length op).run parameters = .ok (instruction, []) :=
      (hread []).2 ⟨h, rfl⟩
    rw [hrun]

theorem call_eq_ok_or_malformed (op : Operation) (parameters : List Parameter) :
    (∃ instruction, Denotes op parameters instruction) ∨
      ∃ fault, op.call parameters = .error (.malformed op.name fault none) := by
  cases h : op.call parameters with
  | ok instruction => exact .inl ⟨instruction, call_eq_ok_iff.1 h⟩
  | error error =>
    unfold call at h
    split at h
    · cases h
    · rename_i fault _
      cases h
      exact .inr ⟨fault, rfl⟩

end

end Operation

end CircuitScript
