import CircuitScript.Proofs.Circuit.Append
import CircuitScript.Proofs.Circuit.TextBuilt
/-!
Every qubit of every circuit exists, whatever operations the circuit comes from: those that add
instructions look their qubits up, and all others keep the width and take what was looked up before.
-/
namespace CircuitScript.Circuit

open Stateful

inductive Source where
  | empty (width : UInt64)
  | lines (grammar : PlaceholderGrammar) (width : UInt64) (lines : List String)
  | instructions (width : UInt64) (instructions : List Instruction)
  | file (directory : Directory) (folder stem : String) (width : UInt64)

def Source.make : Source → Except CircuitError Circuit
  | .empty width => .ok (.empty width)
  | .lines grammar width texts => ofLines grammar width texts
  | .instructions width list => ofInstructions width list
  | .file directory folder stem width => load directory folder stem width

inductive Change where
  | push (instruction : Instruction)
  | append (name : String) (parameters : List Parameter)
  | appendThrough {σ : Type} (w : Writer σ) (state : σ) (name : String)
      (parameters : List Parameter)
  | extend (other : Circuit)
  | addAssign (passing : Passing) (other : Circuit)

namespace Change

/-- The circuit in its place after the change, also after one that fails. -/
def after (c : Circuit) : Change → Circuit
  | push instruction => (c.pushInPlace instruction).1
  | append name parameters => (c.appendInPlace name parameters).1
  | appendThrough w state name parameters => (c.appendThrough w state name parameters).2.2
  | extend other => (c.extend other).1
  | addAssign passing other => (c.addAssign passing other).1

def others : Change → List Circuit
  | extend other | addAssign _ other => [other]
  | push _ | append _ _ | appendThrough _ _ _ _ => []

end Change

inductive Derivation where
  | concat (other : Circuit)
  | add (passing : Passing) (other : Circuit)
  | slice (lower upper : Bound)
  | sliceStep (start stop : Option Int64) (step : Int64)
  | adjoint

namespace Derivation

def result? (c : Circuit) : Derivation → Option Circuit
  | concat other => (c.concat other).toOption
  | add passing other => (c.add passing other).toOption
  | slice lower upper => some (c.slice lower upper)
  | sliceStep start stop step => (c.sliceStep start stop step).toOption
  | adjoint => c.adjoint.toOption

def others : Derivation → List Circuit
  | concat other | add _ other => [other]
  | slice _ _ | sliceStep _ _ _ | adjoint => []

end Derivation

/-- The circuits of all programs. -/
inductive Reachable : Circuit → Prop
  | make {c : Circuit} (source : Source) (h : source.make = .ok c) : Reachable c
  | change {c : Circuit} (change : Change) (hc : Reachable c)
      (hothers : ∀ other ∈ change.others, Reachable other) : Reachable (change.after c)
  | derive {c d : Circuit} (derivation : Derivation) (hc : Reachable c)
      (hothers : ∀ other ∈ derivation.others, Reachable other)
      (h : derivation.result? c = some d) : Reachable d

section

variable {a b c d : Circuit} {change : Change} {derivation : Derivation}
  {instruction : Instruction} {others : List Circuit}

theorem toOption_eq_some_iff {ε β : Type} {x : Except ε β} {b : β} :
    x.toOption = some b ↔ x = .ok b := by
  cases x <;> simp [Except.toOption]

theorem pushAll_eq_ok_iff {instructions : List Instruction} :
    c.pushAll instructions = .ok d ↔
      (∀ instruction ∈ instructions, Within c.width instruction) ∧ d = c.extended instructions := by
  induction instructions generalizing c with
  | nil => simp [pushAll, eq_comm]
  | cons instruction rest ih =>
    simp only [pushAll, except_bind_eq_ok_iff, push_eq_ok_iff, ih, List.forall_mem_cons]
    constructor
    · rintro ⟨_, ⟨hfirst, rfl⟩, hrest, rfl⟩
      exact ⟨⟨hfirst, hrest⟩, by simp [extended]⟩
    · rintro ⟨⟨hfirst, hrest⟩, rfl⟩
      exact ⟨_, ⟨hfirst, rfl⟩, hrest, by simp [extended]⟩

/-- A circuit of the same width whose instructions were looked up for it, were there before with the
same qubits, or come from one of the others, which then has the same width too. -/
structure ComesFrom (c : Circuit) (others : List Circuit) (d : Circuit) : Prop where
  width : d.width = c.width
  origin : ∀ instruction ∈ d.instructions, Within c.width instruction ∨
    (∃ original ∈ c.instructions, instruction.qubitFields = original.qubitFields) ∨
    ∃ other ∈ others, other.width = c.width ∧ instruction ∈ other.instructions

theorem comesFrom_self (c : Circuit) (others : List Circuit) : ComesFrom c others c where
  width := rfl
  origin instruction hmem := .inr (.inl ⟨instruction, hmem, rfl⟩)

theorem comesFrom_of_subset (hwidth : d.width = c.width)
    (hsub : ∀ instruction ∈ d.instructions, instruction ∈ c.instructions) :
    ComesFrom c others d where
  width := hwidth
  origin instruction hmem := .inr (.inl ⟨instruction, hsub instruction hmem, rfl⟩)

theorem comesFrom_extended_singleton (h : Within c.width instruction) :
    ComesFrom c others (c.extended [instruction]) where
  width := rfl
  origin added hmem := by
    obtain hmem | hmem := List.mem_append.1 hmem
    · exact .inr (.inl ⟨added, hmem, rfl⟩)
    · rw [List.mem_singleton.1 hmem]
      exact .inl h

theorem comesFrom_extend (hb : b ∈ others) : ComesFrom a others (a.extend b).1 := by
  by_cases hwidth : a.width = b.width
  · rw [extend_of_eq hwidth]
    refine ⟨rfl, ?_⟩
    intro instruction hmem
    obtain hmem | hmem := List.mem_append.1 hmem
    · exact .inr (.inl ⟨instruction, hmem, rfl⟩)
    · exact .inr (.inr ⟨b, hb, hwidth.symm, hmem⟩)
  · rw [extend_of_ne hwidth]
    exact comesFrom_self a others

theorem comesFrom_concat (hb : b ∈ others) (h : a.concat b = .ok d) : ComesFrom a others d := by
  have hextend := comesFrom_extend (a := a) hb
  rw [concat_eq_extend, result_eq_ok_iff] at h
  rwa [h] at hextend

theorem within_of_build {width : UInt64} {name : String} {parameters : List Parameter}
    (h : build width name parameters = .ok instruction) : Within width instruction := by
  obtain ⟨line, hread⟩ := readsAs_of_build h
  exact hread.2

theorem comesFrom_after (c : Circuit) (change : Change) :
    ComesFrom c change.others (change.after c) := by
  cases change with
  | push instruction =>
    dsimp only [Change.after]
    unfold pushInPlace
    cases ho : firstOutside? c.width instruction with
    | some qubit => exact comesFrom_self c _
    | none => exact comesFrom_extended_singleton (firstOutside?_eq_none_iff.1 ho)
  | append name parameters =>
    dsimp only [Change.after]
    obtain hkept | ⟨instruction, hbuild, hadded⟩ := appendInPlace_cases c name parameters
    · rw [hkept]
      exact comesFrom_self c _
    · rw [hadded]
      exact comesFrom_extended_singleton (within_of_build hbuild)
  | appendThrough w state name parameters =>
    dsimp only [Change.after]
    obtain hkept | ⟨instruction, hbuild, hadded⟩ := appendThrough_cases w state c name parameters
    · rw [hkept]
      exact comesFrom_self c _
    · rw [hadded]
      exact comesFrom_extended_singleton (within_of_build hbuild)
  | extend other => exact comesFrom_extend (List.mem_singleton_self other)
  | addAssign passing other =>
    dsimp only [Change.after]
    rw [addAssign_eq_extend]
    exact comesFrom_extend (List.mem_singleton_self other)

theorem comesFrom_of_result? (h : derivation.result? c = some d) :
    ComesFrom c derivation.others d := by
  cases derivation with
  | concat other =>
    exact comesFrom_concat (List.mem_singleton_self other) (toOption_eq_some_iff.1 h)
  | add passing other =>
    have hadd := (add_eq_ok_iff passing).1 (toOption_eq_some_iff.1 h)
    exact comesFrom_concat (List.mem_singleton_self other) hadd
  | slice lower upper =>
    cases h
    exact comesFrom_of_subset (width_slice lower upper) (slice_subset lower upper)
  | sliceStep start stop step =>
    have hslice := toOption_eq_some_iff.1 h
    exact comesFrom_of_subset (width_sliceStep hslice) (sliceStep_subset hslice)
  | adjoint =>
    obtain ⟨-, rfl⟩ := adjoint_eq_ok_iff.1 (toOption_eq_some_iff.1 h)
    refine ⟨rfl, ?_⟩
    intro instruction hmem
    obtain ⟨original, horiginal, rfl⟩ := List.mem_map.1 hmem
    have hqubits := Instruction.qubitFields_mapAngles Angle.negated original
    exact .inr (.inl ⟨original, List.mem_reverse.1 horiginal, hqubits⟩)

theorem ComesFrom.within (h : ComesFrom c others d)
    (hc : ∀ instruction ∈ c.instructions, Within c.width instruction)
    (hothers : ∀ other ∈ others, ∀ instruction ∈ other.instructions,
      Within other.width instruction) :
    ∀ instruction ∈ d.instructions, Within d.width instruction := by
  intro instruction hmem
  -- All circuits involved have one width, so the bound comes over from where the line was.
  rw [h.width]
  obtain hin | ⟨original, horiginal, hqubits⟩ | ⟨other, hother, hwidth, hmem⟩ :=
    h.origin instruction hmem
  · exact hin
  · unfold Within
    rw [hqubits]
    exact hc original horiginal
  · rw [← hwidth]
    exact hothers other hother instruction hmem

theorem within_make {source : Source} (h : source.make = .ok c) :
    ∀ instruction ∈ c.instructions, Within c.width instruction := by
  have hlines : ∀ {grammar width lines}, ofLines grammar width lines = .ok c →
      ∀ instruction ∈ c.instructions, Within c.width instruction := by
    intro grammar width lines h
    obtain ⟨rfl, hread⟩ := ofLines_eq_ok_iff.1 h
    exact forall_mem_right hread fun _ _ hline => hline.2
  cases source with
  | empty width =>
    cases h
    simp [empty]
  | lines grammar width lines => exact hlines h
  | instructions width instructions =>
    obtain ⟨hin, rfl⟩ := pushAll_eq_ok_iff.1 h
    simpa [extended, empty] using hin
  | file directory folder stem width =>
    obtain ⟨text, -, hread⟩ := except_bind_eq_ok_iff.1 h
    exact hlines hread

theorem Reachable.within (h : Reachable c) :
    ∀ instruction ∈ c.instructions, Within c.width instruction := by
  induction h with
  | make source h => exact within_make h
  | @change c change _ _ ihc ihothers => exact (comesFrom_after c change).within ihc ihothers
  | derive derivation _ _ h ihc ihothers => exact (comesFrom_of_result? h).within ihc ihothers

theorem pushInPlace_eq_error_iff {error : CircuitError} :
    c.pushInPlace instruction = (d, .error error) ↔
      d = c ∧ ∃ before qubit later, instruction.qubitFields = before ++ qubit :: later ∧
        (∀ other ∈ before, other < c.width) ∧ c.width ≤ qubit ∧
        error = .qubitOutOfRange qubit c.width (some instruction.text) := by
  have hfind : c.pushInPlace instruction = (d, .error error) ↔
      d = c ∧ ∃ qubit, firstOutside? c.width instruction = some qubit ∧
        error = .qubitOutOfRange qubit c.width (some instruction.text) := by
    unfold pushInPlace
    cases firstOutside? c.width instruction <;> simp [eq_comm]
  rw [hfind, firstOutside?, Instruction.qubits_eq_qubitFields]
  simp only [List.find?_eq_some_iff_append, decide_eq_true_eq, Bool.not_eq_true',
    decide_eq_false_iff_not, UInt64.not_le]
  refine and_congr_right fun _ => ?_
  constructor
  · rintro ⟨qubit, ⟨hout, before, later, hqubits, hbefore⟩, herror⟩
    exact ⟨before, qubit, later, hqubits, hbefore, hout, herror⟩
  · rintro ⟨before, qubit, later, hqubits, hbefore, hout, herror⟩
    exact ⟨qubit, ⟨hout, before, later, hqubits, hbefore⟩, herror⟩

theorem push_eq_error_iff {error : CircuitError} :
    c.push instruction = .error error ↔
      ∃ before qubit later, instruction.qubitFields = before ++ qubit :: later ∧
        (∀ other ∈ before, other < c.width) ∧ c.width ≤ qubit ∧
        error = .qubitOutOfRange qubit c.width (some instruction.text) := by
  simp only [push, result_eq_error_iff, pushInPlace_eq_error_iff, exists_eq_left]

/-- In every circuit that a program can make, each qubit of each instruction exists. No change
touches the width of a circuit, whether it fails or not, and what is made of a circuit has its
width. An instruction with a qubit too many is refused for the first such qubit and leaves the
circuit as it was. -/
theorem qubits_stay_in_range :
    (∀ c, Reachable c → ∀ instruction ∈ c.instructions, ∀ qubit ∈ instruction.qubitFields,
      qubit < c.width) ∧
    (∀ (c : Circuit) (change : Change), (change.after c).width = c.width) ∧
    (∀ (c d : Circuit) (derivation : Derivation), derivation.result? c = some d →
      d.width = c.width) ∧
    ∀ (c d : Circuit) (instruction : Instruction) (error : CircuitError),
      c.pushInPlace instruction = (d, .error error) ↔
        d = c ∧ ∃ before qubit later, instruction.qubitFields = before ++ qubit :: later ∧
          (∀ other ∈ before, other < c.width) ∧ c.width ≤ qubit ∧
          error = .qubitOutOfRange qubit c.width (some instruction.text) := by
  refine ⟨fun c hc => hc.within, ?_, ?_, fun _ _ _ _ => pushInPlace_eq_error_iff⟩
  · intro c change
    exact (comesFrom_after c change).width
  · intro c d derivation h
    exact (comesFrom_of_result? h).width

theorem qubits_stay_in_range_joined :
    let swap : Instruction := .swap 2 0 [⟨1, .multiplexed 3⟩]
    let c : Circuit := ⟨3, [.conditionEnd, .conditionBegin [⟨2, .isZero⟩], swap]⟩
    Reachable c ∧
      (∀ instruction ∈ c.instructions, ∀ qubit ∈ instruction.qubitFields, qubit < 3) ∧
      (Change.addAssign .given (.empty 4)).after c = c ∧
      c.pushInPlace (.swap 1 4 [⟨7, .isOne⟩]) =
        (c, .error (.qubitOutOfRange 4 3 (some "SWAP\t1\t4\tIF\t7T"))) := by
  intro swap c
  have hread : Reachable ⟨3, [.conditionBegin [⟨2, .isZero⟩], .conditionEnd]⟩ :=
    .make (.lines .hash 3 ["IF_M(\t2F\t)", "\x7dIF_M"]) (eq_ok_of_toOption (by decide +kernel))
  have hpushed : Reachable ⟨3, [swap]⟩ := by
    apply Reachable.change (.push swap) (.make (.empty 3) rfl)
    simp [Change.others]
  have hjoined : Reachable ⟨3, [swap, .conditionBegin [⟨2, .isZero⟩], .conditionEnd]⟩ := by
    apply Reachable.change (.extend ⟨3, [.conditionBegin [⟨2, .isZero⟩], .conditionEnd]⟩) hpushed
    simpa [Change.others] using hread
  have hc : Reachable c := by
    apply Reachable.derive .adjoint hjoined
    · simp [Derivation.others]
    · rfl
  have htext : (Instruction.swap 1 4 [⟨7, .isOne⟩]).text = "SWAP\t1\t4\tIF\t7T" := by
    decide +kernel
  refine ⟨hc, qubits_stay_in_range.1 c hc, rfl, ?_⟩
  rw [qubits_stay_in_range.2.2.2 c, htext]
  refine ⟨rfl, [1], 4, [7], rfl, ?_, UInt64.le_iff_toNat_le.2 (by decide), rfl⟩
  simpa using UInt64.lt_iff_toNat_lt.2 (by decide)

end

end CircuitScript.Circuit
