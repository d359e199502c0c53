import CircuitScript.Proofs.Circuit.Append
import Mathlib.Logic.Function.Basic
/-!
Circuits that grow by named calls through one sink. What the sink takes and what the circuits gain
is the same, line for line, also where calls fail and where the sink refuses.
-/
namespace CircuitScript

variable {σ : Type} {ι : Type*} {α : Type*}

namespace Writer

def sink (w : Writer σ) : LineSink σ where
  accept state line := (w.write state line).1.map fun _ => (w.write state line).2

/-- The writer takes a line whole or takes nothing of it. What it holds, a list of lines or a text,
is seen through `held`, and `record` adds a line to it. -/
structure TakesWhole (w : Writer σ) (held : σ → α) (record : α → String → α) : Prop where
  taken : ∀ state line later, w.write state line = (.ok (), later) →
    held later = record (held state) line
  refused : ∀ state line error later, w.write state line = (.error error, later) →
    held later = held state

end Writer

namespace Circuit

theorem appendWith_sink (w : Writer σ) (state : σ) (c : Circuit) (name : String)
    (parameters : List Parameter) :
    c.appendWith w.sink state name parameters =
      (c.appendThrough w state name parameters).1.map fun _ =>
        (c.appendThrough w state name parameters).2 := by
  unfold appendWith appendThrough LineSink.writer Writer.sink
  cases build c.width name parameters with
  | error error => rfl
  | ok instruction =>
    dsimp only
    rcases w.write state instruction.text with ⟨_ | _, later⟩ <;> rfl

end Circuit

structure Session (ι : Type*) (σ : Type) where
  circuits : ι → Circuit
  state : σ

structure NamedCall (ι : Type*) where
  circuit : ι
  name : String
  parameters : List Parameter

namespace Session

variable [DecidableEq ι]

def call (w : Writer σ) (s : Session ι σ) (c : NamedCall ι) :
    Except CircuitError Unit × Session ι σ :=
  let result := (s.circuits c.circuit).appendThrough w s.state c.name c.parameters
  (result.1, ⟨Function.update s.circuits c.circuit result.2.2, result.2.1⟩)

def after (w : Writer σ) (s : Session ι σ) (calls : List (NamedCall ι)) : Session ι σ :=
  calls.foldl (fun s c => (s.call w c).2) s

/-- What the circuit of a call has at its end that it did not have before, for one call after the
other. -/
def additions (w : Writer σ) (s : Session ι σ) : List (NamedCall ι) → List (ι × Instruction)
  | [] => []
  | c :: calls =>
    let later := (s.call w c).2
    let gained := (later.circuits c.circuit).instructions.drop (s.circuits c.circuit).size
    gained.map (c.circuit, ·) ++ additions w later calls

inductive Outcome (w : Writer σ) (held : σ → α) (record : α → String → α) (s : Session ι σ)
    (c : NamedCall ι) : Except CircuitError Unit → Session ι σ → Prop
  | added {instruction : Instruction} {state : σ}
      (hbuild : (s.circuits c.circuit).append c.name c.parameters =
        .ok ((s.circuits c.circuit).extended [instruction]))
      (hheld : held state = record (held s.state) instruction.text) :
      Outcome w held record s c (.ok ())
        ⟨Function.update s.circuits c.circuit ((s.circuits c.circuit).extended [instruction]), state⟩
  | rejected {error : CircuitError}
      (h : Circuit.Refusal (s.circuits c.circuit).width c.name c.parameters error) :
      Outcome w held record s c (.error error) s
  | refused {instruction : Instruction} {error : CircuitError} {state : σ}
      (hbuild : (s.circuits c.circuit).append c.name c.parameters =
        .ok ((s.circuits c.circuit).extended [instruction]))
      (hwrite : w.write s.state instruction.text = (.error error, state))
      (hheld : held state = held s.state) :
      Outcome w held record s c (.error error) ⟨s.circuits, state⟩

section

variable {w : Writer σ} {held : σ → α} {record : α → String → α}

theorem outcome_call (hw : w.TakesWhole held record) (s : Session ι σ) (c : NamedCall ι) :
    Outcome w held record s c (s.call w c).1 (s.call w c).2 := by
  unfold call Circuit.appendThrough
  obtain ⟨op, instruction, -, -, -, -, hbuild⟩ | ⟨error, hbuild, hrefusal⟩ :=
    Circuit.build_cases (s.circuits c.circuit).width c.name c.parameters
  · have happend : (s.circuits c.circuit).append c.name c.parameters =
        .ok ((s.circuits c.circuit).extended [instruction]) :=
      Circuit.append_eq_ok_iff_build.2 ⟨instruction, hbuild, rfl⟩
    simp only [hbuild]
    rcases hwrite : w.write s.state instruction.text with ⟨error | _, state⟩
    · simp only [Function.update_eq_self]
      exact .refused happend hwrite (hw.refused _ _ _ _ hwrite)
    · exact .added happend (hw.taken _ _ _ hwrite)
  · simp only [hbuild, Function.update_eq_self]
    exact .rejected hrefusal

theorem exists_gain (hw : w.TakesWhole held record) (s : Session ι σ) (c : NamedCall ι) :
    ∃ gained : List Instruction,
      (s.call w c).2.circuits =
        Function.update s.circuits c.circuit ((s.circuits c.circuit).extended gained) ∧
      held (s.call w c).2.state = (gained.map Instruction.text).foldl record (held s.state) := by
  have houtcome := outcome_call hw s c
  -- Variables for the answer and the later session, so that their values come from the case.
  revert houtcome
  generalize (s.call w c).1 = answer
  generalize (s.call w c).2 = later
  intro houtcome
  cases houtcome with
  | @added instruction state hbuild hheld => exact ⟨[instruction], rfl, hheld⟩
  | rejected h => exact ⟨[], by simp, rfl⟩
  | refused hbuild hwrite hheld => exact ⟨[], by simp, hheld⟩

theorem additions_cons {s : Session ι σ} {c : NamedCall ι} {gained : List Instruction}
    (h : (s.call w c).2.circuits =
      Function.update s.circuits c.circuit ((s.circuits c.circuit).extended gained))
    (calls : List (NamedCall ι)) :
    s.additions w (c :: calls) =
      gained.map (c.circuit, ·) ++ (s.call w c).2.additions w calls := by
  simp [additions, h, Circuit.extended, Circuit.size]

theorem held_after (hw : w.TakesWhole held record) (s : Session ι σ)
    (calls : List (NamedCall ι)) :
    held (s.after w calls).state =
      ((s.additions w calls).map fun p => p.2.text).foldl record (held s.state) := by
  induction calls generalizing s with
  | nil => rfl
  | cons c calls ih =>
    obtain ⟨gained, hcircuits, hheld⟩ := exists_gain hw s c
    calc held (s.after w (c :: calls)).state
      _ = (((s.call w c).2.additions w calls).map fun p => p.2.text).foldl record
            (held (s.call w c).2.state) := ih (s.call w c).2
      _ = (((s.call w c).2.additions w calls).map fun p => p.2.text).foldl record
            ((gained.map Instruction.text).foldl record (held s.state)) := by rw [hheld]
      _ = ((s.additions w (c :: calls)).map fun p => p.2.text).foldl record (held s.state) := by
        rw [additions_cons hcircuits, List.map_append, List.foldl_append, List.map_map]
        rfl

theorem circuits_after (hw : w.TakesWhole held record) (s : Session ι σ)
    (calls : List (NamedCall ι)) (k : ι) :
    (s.after w calls).circuits k =
      (s.circuits k).extended (((s.additions w calls).filter (·.1 = k)).map Prod.snd) := by
  induction calls generalizing s with
  | nil => simp [after, additions]
  | cons c calls ih =>
    -- What the first call gave counts for circuit `k` only where the call was on `k`.
    obtain ⟨gained, hcircuits, -⟩ := exists_gain hw s c
    change ((s.call w c).2.after w calls).circuits k = _
    rw [ih, additions_cons hcircuits, hcircuits]
    by_cases hk : c.circuit = k
    · subst hk
      simp [List.filter_map, Function.comp_def]
    · simp [List.filter_map, Function.comp_def, hk, Function.update_of_ne (Ne.symm hk)]

/-- Circuits and sink never part. Each call adds one instruction to its circuit and its line to the
sink, or it fails and adds to neither, with the reason of the call or the sink's own; and after any
calls the sink holds the lines of all that the circuits have gained, in the order of the calls. -/
theorem sink_holds_additions (hw : w.TakesWhole held record) :
    (∀ (s : Session ι σ) (c : NamedCall ι),
      (s.circuits c.circuit).appendWith w.sink s.state c.name c.parameters =
          (s.call w c).1.map (fun _ => ((s.call w c).2.state, (s.call w c).2.circuits c.circuit)) ∧
        Outcome w held record s c (s.call w c).1 (s.call w c).2) ∧
    ∀ (s : Session ι σ) (calls : List (NamedCall ι)),
      held (s.after w calls).state =
          ((s.additions w calls).map fun p => p.2.text).foldl record (held s.state) ∧
        ∀ k, (s.after w calls).circuits k =
          (s.circuits k).extended (((s.additions w calls).filter (·.1 = k)).map Prod.snd) := by
  refine ⟨?_, fun s calls => ⟨held_after hw s calls, circuits_after hw s calls⟩⟩
  intro s c
  refine ⟨?_, outcome_call hw s c⟩
  rw [Circuit.appendWith_sink]
  simp [call]

def restingWriter : Writer (Bool × List String) where
  write state line :=
    if state.1 then (.error (.malformed "SINK" (.refused "resting") none), false, state.2)
    else (.ok (), true, state.2 ++ [line])

theorem sink_holds_additions_resting :
    let s : Session Bool (Bool × List String) := ⟨fun _ => .empty 2, false, []⟩
    let calls : List (NamedCall Bool) := [⟨false, "write_H", [.int 0]⟩, ⟨true, "write_X", [.int 5]⟩,
      ⟨true, "write_H", [.int 1]⟩, ⟨true, "write_T", [.int 1, .flag true]⟩, ⟨false, "write", []⟩]
    restingWriter.TakesWhole Prod.snd (fun lines line => lines ++ [line]) ∧
      (s.after restingWriter calls).state.2 = ["HAD2\tAT\t0", "P1PH\t-45\tAT\t1"] ∧
      (s.after restingWriter calls).circuits true = ⟨2, [.phase .one (.literal "-45") 1 []]⟩ := by
  intro s calls
  have hw : restingWriter.TakesWhole Prod.snd (fun lines line => lines ++ [line]) := by
    constructor
    · rintro ⟨_ | _, lines⟩ line later hwrite <;> cases hwrite
      rfl
    · rintro ⟨_ | _, lines⟩ line error later hwrite <;> cases hwrite
      rfl
  obtain ⟨hheld, hcircuits⟩ := (sink_holds_additions hw).2 s calls
  have hadditions : s.additions restingWriter calls =
      [(false, .hadamard 0 []), (true, .phase .one (.literal "-45") 1 [])] := by
    decide +kernel
  rw [hheld, hcircuits, hadditions]
  exact ⟨hw, by decide +kernel, rfl⟩

end

end Session

end CircuitScript
