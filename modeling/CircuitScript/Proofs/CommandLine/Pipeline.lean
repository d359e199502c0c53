import CircuitScript.Proofs.CommandLine.Runs
/-!
Commands that make a circuit from the circuits of files, one after the other in one folder. Each
does to the files what its operation does to circuits in memory.
-/
namespace CircuitScript

open Stateful

/-- The circuits that a folder holds, or why there is none. -/
abbrev Memory := String → UInt64 → Except CircuitError Circuit

inductive FileStep where
  | adjoint (stem : String) (width : UInt64) (output : Option String)
  | slice (stem : String) (width : UInt64) (start stop : Option Int64) (step : Int64)
      (output : Option String)
  | concat (stems : List String) (width : UInt64) (output : String)
  | append (stem : String) (width : UInt64) (create : Bool) (operation : String)
      (parameters : List String)

def Memory.orEmpty (memory : Memory) (create : Bool) (stem : String) (width : UInt64) :
    Except CircuitError Circuit :=
  match memory stem width with
  | .error .missingFile => if create then .ok (.empty width) else .error .missingFile
  | result => result

theorem Memory.orEmpty_eq {memory : Memory} {create : Bool} {stem : String} {width : UInt64}
    (h : memory stem width ≠ .error .missingFile) :
    memory.orEmpty create stem width = memory stem width := by
  unfold orEmpty
  split
  · rename_i hmissing
    exact absurd hmissing h
  · rfl

def Memory.joinAll (memory : Memory) (width : UInt64) (combined : Circuit) :
    List String → Except CircuitError Circuit
  | [] => .ok combined
  | stem :: stems => do
    let (combined, outcome) := combined.extend (← memory stem width)
    outcome
    memory.joinAll width combined stems

def Memory.store (memory : Memory) (stem : String) (width : UInt64) (c : Circuit) : Memory :=
  fun other otherWidth =>
    if other = stem ∧ otherWidth = width then .ok c else memory other otherWidth

/-- The files of the folder hold the circuits of the memory, in whatever spelling. -/
def Memory.HeldIn (memory : Memory) (files : Directory) (folder : String) : Prop :=
  ∀ stem width, '/' ∉ stem.toList → Circuit.load files folder stem width = memory stem width

namespace FileStep

def command (folder : String) : FileStep → Command
  | .adjoint stem width output => .adjoint ⟨folder, stem, width⟩ output
  | .slice stem width start stop step output =>
    .slice ⟨folder, stem, width⟩ start stop step output
  | .concat stems width output => .concat folder width output stems
  | .append stem width create operation parameters =>
    .append ⟨folder, stem, width⟩ create operation parameters

def width : FileStep → UInt64
  | .adjoint _ width _ | .slice _ width .. | .concat _ width _ | .append _ width .. => width

def inputs : FileStep → List String
  | .adjoint stem .. | .slice stem .. | .append stem .. => [stem]
  | .concat stems .. => stems

def output : FileStep → String
  | .adjoint stem _ output => output.getD (stem ++ "_herm")
  | .slice stem _ _ _ _ output => output.getD (stem ++ "_slice")
  | .concat _ _ output => output
  | .append stem .. => stem

/-- No name of a circuit leads out of the folder. -/
def IsPlain (step : FileStep) : Prop :=
  ∀ stem ∈ step.output :: step.inputs, '/' ∉ stem.toList

def result (memory : Memory) : FileStep → Except CircuitError Circuit
  | .adjoint stem width _ => do (← memory stem width).adjoint
  | .slice stem width start stop step _ => do (← memory stem width).sliceStep start stop step
  | .concat stems width _ => memory.joinAll width (.empty width) stems
  | .append stem width create operation parameters => do
    (← memory.orEmpty create stem width).append operation (parameters.map Parameter.ofWord)

def call (environment : Settings.Environment) (folder : String) (files : Directory)
    (step : FileStep) : Except String Unit × Directory :=
  let (ending, desk) := ((step.command folder).run environment).run.run ⟨files, ""⟩
  (ending, desk.files)

def IsNamedBy (folder : String) (step : FileStep) (words : List String) : Prop :=
  Command.ofWords words = .ok (step.command folder)

end FileStep

theorem FileStep.execute_eq_call (environment : Settings.Environment) {folder : String}
    (files : Directory) {step : FileStep} {words : List String} (h : step.IsNamedBy folder words) :
    (Command.execute environment files words).files = (step.call environment folder files).2 ∧
      ((Command.execute environment files words).code = 0 ↔
        (step.call environment folder files).1 = .ok ()) := by
  unfold IsNamedBy at h
  unfold Command.execute call
  rw [h]
  dsimp only
  generalize ((step.command folder).run environment).run.run ⟨files, ""⟩ = run
  obtain ⟨ending | ⟨⟨⟩⟩, desk⟩ := run <;> simp

def Memory.after (memory : Memory) (step : FileStep) : Memory :=
  match step.result memory with
  | .ok c => memory.store step.output step.width c
  | .error _ => memory

def filesAfter (environment : Settings.Environment) (folder : String) (files : Directory)
    (steps : List FileStep) : Directory :=
  steps.foldl (fun files step => (step.call environment folder files).2) files

def programAfter (environment : Settings.Environment) (files : Directory)
    (calls : List (List String)) : Directory :=
  calls.foldl (fun files words => (Command.execute environment files words).files) files

/-! One step. -/

namespace Command

section

variable {files : Directory} {folder : String} {place : Path}

def written (files : Directory) (place : Path) (stem : String) (c : Circuit) : Unit × Directory :=
  ((), files.put (place ++ [englishName stem c.width]) c.english)

theorem gives_written (h : files.HasAt folder place) {stem : String} (hstem : '/' ∉ stem.toList)
    {c : Circuit} {rest : String → Run Unit}
    (hrest : ∀ path after, Gives (rest path) after () after) :
    Gives (saveCircuit c folder stem >>= rest) files (written files place stem c).1
      (written files place stem c).2 :=
  (gives_saveCircuit (Circuit.save_eq h hstem)).bind (hrest _ _)

theorem follows_runAdjoint (h : files.HasAt folder place) {stem : String} {width : UInt64}
    {output : Option String} (hout : '/' ∉ (output.getD (stem ++ "_herm")).toList) :
    Follows (runAdjoint ⟨folder, stem, width⟩ output) files
      (written files place (output.getD (stem ++ "_herm")))
      ((FileStep.adjoint stem width output).result (Circuit.load files folder)) := by
  unfold runAdjoint
  apply (computes_loadCircuit _ _).bind
  intro c hload
  apply Follows.say_bind
  apply (computes_orFail _ _).bind_gives
  intro conjugate hconjugate
  apply gives_written h hout
  intro path after
  exact (gives_say _ _).bind (gives_say _ _)

theorem follows_runSlice (h : files.HasAt folder place) {stem : String} {width : UInt64}
    {start stop : Option Int64} {step : Int64} {output : Option String}
    (hout : '/' ∉ (output.getD (stem ++ "_slice")).toList) :
    Follows (runSlice ⟨folder, stem, width⟩ start stop step output) files
      (written files place (output.getD (stem ++ "_slice")))
      ((FileStep.slice stem width start stop step output).result (Circuit.load files folder)) := by
  unfold runSlice
  apply (computes_loadCircuit _ _).bind
  intro c hload
  apply (computes_orFail _ _).bind_gives
  intro sliced hsliced
  apply gives_written h hout
  intro path after
  exact (gives_say _ _).bind (gives_say _ _)

theorem computes_concatAll (files : Directory) (folder : String) (width : UInt64)
    (combined : Circuit) (stems : List String) :
    Computes (concatAll folder width combined stems) files
      (Memory.joinAll (Circuit.load files folder) width combined stems) := by
  induction stems generalizing combined with
  | nil => exact gives_pure combined files
  | cons stem stems ih =>
    unfold concatAll Memory.joinAll
    apply (computes_loadCircuit _ _).bind
    intro part hload
    obtain ⟨combined, error | ⟨⟨⟩⟩⟩ := combined.extend part
    · exact stops_throw _ files
    · exact Follows.say_bind _ (ih combined)

theorem follows_runConcat (h : files.HasAt folder place) {stems : List String} {width : UInt64}
    {output : String} (hout : '/' ∉ output.toList) :
    Follows (runConcat folder width output stems) files (written files place output)
      ((FileStep.concat stems width output).result (Circuit.load files folder)) := by
  unfold runConcat
  apply (computes_concatAll files folder width _ stems).bind_gives
  intro combined hcombined
  apply gives_written h hout
  intro path after
  exact (gives_say _ _).bind (gives_say _ _)

theorem computes_orEmpty (files : Directory) (folder : String) (create : Bool) (stem : String)
    (width : UInt64) :
    Computes
      (if create ∧ !(files.read? (Path.ofText (CircuitPlace.path ⟨folder, stem, width⟩))).isSome
        then pure (.empty width) else loadCircuit ⟨folder, stem, width⟩)
      files (Memory.orEmpty (Circuit.load files folder) create stem width) := by
  have hload := computes_loadCircuit ⟨folder, stem, width⟩ files
  dsimp only at hload
  cases hread : files.read? (Path.ofText (CircuitPlace.path ⟨folder, stem, width⟩)) with
  | none =>
    have hmissing : Circuit.load files folder stem width = .error .missingFile :=
      Circuit.load_eq_missingFile_iff.2 hread
    rw [hmissing] at hload
    unfold Memory.orEmpty
    rw [hmissing]
    cases create with
    | false => exact hload
    | true => exact gives_pure _ files
  | some text =>
    rw [Memory.orEmpty_eq, if_neg (by simp)]
    · exact hload
    · intro hmissing
      have hnone : files.read? (Path.ofText (CircuitPlace.path ⟨folder, stem, width⟩)) = none :=
        Circuit.load_eq_missingFile_iff.1 hmissing
      rw [hread] at hnone
      cases hnone

theorem follows_orEmpty_bind {β ρ : Type} {files : Directory} {folder : String} {create : Bool}
    {stem : String} {width : UInt64} {f : Circuit → Run β}
    {next : Circuit → Except CircuitError ρ} {out : ρ → β × Directory}
    (hf : ∀ c, Memory.orEmpty (Circuit.load files folder) create stem width = .ok c →
      Follows (f c) files out (next c)) :
    Follows
      (if create ∧ !(files.read? (Path.ofText (CircuitPlace.path ⟨folder, stem, width⟩))).isSome
        then pure (.empty width) >>= f else loadCircuit ⟨folder, stem, width⟩ >>= f)
      files out (Memory.orEmpty (Circuit.load files folder) create stem width >>= next) := by
  have h := (computes_orEmpty files folder create stem width).bind hf
  split at h
  · rename_i hempty
    rwa [if_pos hempty]
  · rename_i hfull
    rwa [if_neg hfull]

theorem follows_runAppend (h : files.HasAt folder place) {stem : String} {width : UInt64}
    {create : Bool} {operation : String} {parameters : List String} (hout : '/' ∉ stem.toList) :
    Follows (runAppend ⟨folder, stem, width⟩ create operation parameters) files
      (written files place stem)
      ((FileStep.append stem width create operation parameters).result
        (Circuit.load files folder)) := by
  unfold runAppend
  apply Follows.get_bind
  intro printed
  dsimp only
  apply follows_orEmpty_bind
  intro c hopened
  apply (computes_orFail _ _).bind_gives
  intro extended happend
  apply gives_written h hout
  intro path after
  cases extended.lines.getLast? with
  | none => exact gives_say _ after
  | some line => exact (gives_say _ after).bind (gives_say _ after)

end

end Command

/-! Circuits in memory. -/

def Memory.IsStorable (memory : Memory) : Prop :=
  ∀ stem width c, memory stem width = .ok c → c.width = width ∧ c.Storable

section

variable {memory other : Memory} {c d : Circuit} {width : UInt64}

theorem Memory.IsStorable.orEmpty (h : memory.IsStorable) {create : Bool} {stem : String}
    (ho : memory.orEmpty create stem width = .ok c) : c.width = width ∧ c.Storable := by
  unfold Memory.orEmpty at ho
  split at ho
  · split at ho
    · cases ho
      exact ⟨rfl, Circuit.storable_empty width⟩
    · cases ho
  · exact h stem width c ho

theorem Memory.IsStorable.joinAll (h : memory.IsStorable) {stems : List String}
    (hc : c.width = width ∧ c.Storable) (hj : memory.joinAll width c stems = .ok d) :
    d.width = width ∧ d.Storable := by
  induction stems generalizing c with
  | nil =>
    cases hj
    exact hc
  | cons stem stems ih =>
    rw [Memory.joinAll] at hj
    obtain ⟨part, hpart, hj⟩ := except_bind_eq_ok_iff.1 hj
    obtain ⟨⟨⟩, -, hj⟩ := except_bind_eq_ok_iff.1 hj
    have hextend := hc.2.extend (h stem width part hpart).2
    exact ih ⟨Circuit.width_extend.trans hc.1, hextend⟩ hj

theorem FileStep.result_storable {step : FileStep} (h : memory.IsStorable)
    (hresult : step.result memory = .ok c) : c.width = step.width ∧ c.Storable := by
  cases step with
  | adjoint stem width output =>
    obtain ⟨input, hinput, hc⟩ := except_bind_eq_ok_iff.1 hresult
    obtain ⟨hwidth, hstorable⟩ := h stem width input hinput
    refine ⟨?_, hstorable.adjoint hc⟩
    obtain ⟨-, rfl⟩ := Circuit.adjoint_eq_ok_iff.1 hc
    exact hwidth
  | slice stem width start stop step output =>
    obtain ⟨input, hinput, hc⟩ := except_bind_eq_ok_iff.1 hresult
    obtain ⟨hwidth, hstorable⟩ := h stem width input hinput
    exact ⟨(Circuit.width_sliceStep hc).trans hwidth, hstorable.sliceStep hc⟩
  | concat stems width output =>
    exact h.joinAll ⟨rfl, Circuit.storable_empty width⟩ hresult
  | append stem width create operation parameters =>
    obtain ⟨input, hinput, hc⟩ := except_bind_eq_ok_iff.1 hresult
    obtain ⟨hwidth, hstorable⟩ := h.orEmpty hinput
    refine ⟨?_, hstorable.append hc⟩
    obtain ⟨instruction, -, rfl⟩ := Circuit.append_eq_ok_iff_build.1 hc
    exact hwidth

theorem Memory.joinAll_congr {stems : List String}
    (h : ∀ stem ∈ stems, memory stem width = other stem width) (c : Circuit) :
    memory.joinAll width c stems = other.joinAll width c stems := by
  induction stems generalizing c with
  | nil => rfl
  | cons stem stems ih =>
    have htail := ih fun s hs => h s (List.mem_cons_of_mem _ hs)
    rw [Memory.joinAll, Memory.joinAll, h stem List.mem_cons_self]
    simp only [htail]

theorem FileStep.result_congr {step : FileStep}
    (h : ∀ stem ∈ step.inputs, memory stem step.width = other stem step.width) :
    step.result memory = step.result other := by
  cases step with
  | adjoint stem width output =>
    have hinput : memory stem width = other stem width := h stem List.mem_cons_self
    rw [result, result, hinput]
  | slice stem width start stop step output =>
    have hinput : memory stem width = other stem width := h stem List.mem_cons_self
    rw [result, result, hinput]
  | concat stems width output => exact Memory.joinAll_congr h _
  | append stem width create operation parameters =>
    have hinput : memory stem width = other stem width := h stem List.mem_cons_self
    rw [result, result, Memory.orEmpty, Memory.orEmpty, hinput]

end

theorem Circuit.isStorable_load (files : Directory) (folder : String) :
    Memory.IsStorable (Circuit.load files folder) :=
  fun _ _ _ h => Circuit.storable_load h

/-! A call of a command. -/

section

variable {environment : Settings.Environment} {files : Directory} {folder : String} {place : Path}
  {memory : Memory} {step : FileStep} {steps : List FileStep}

/-- Every command reads all that it needs and then writes its one file. -/
theorem FileStep.follows_run (environment : Settings.Environment) (h : files.HasAt folder place)
    (hplain : step.IsPlain) :
    Command.Follows ((step.command folder).run environment) files
      (Command.written files place step.output) (step.result (Circuit.load files folder)) := by
  have hout : '/' ∉ step.output.toList := hplain _ List.mem_cons_self
  cases step with
  | adjoint => exact Command.follows_runAdjoint h hout
  | slice => exact Command.follows_runSlice h hout
  | concat => exact Command.follows_runConcat h hout
  | append => exact Command.follows_runAppend h hout

theorem FileStep.call_cases (environment : Settings.Environment) (h : files.HasAt folder place)
    (hplain : step.IsPlain) :
    (∃ c, step.result (Circuit.load files folder) = .ok c ∧ c.width = step.width ∧ c.Storable ∧
        step.call environment folder files =
          (.ok (), files.put (place ++ [englishName step.output step.width]) c.english)) ∨
      ∃ error message, step.result (Circuit.load files folder) = .error error ∧
        step.call environment folder files = (.error message, files) := by
  have hfollows := follows_run environment h hplain
  cases hresult : step.result (Circuit.load files folder) with
  | ok c =>
    obtain ⟨hwidth, hstorable⟩ := result_storable (Circuit.isStorable_load files folder) hresult
    rw [hresult] at hfollows
    obtain ⟨printed, hrun⟩ := hfollows ""
    refine .inl ⟨c, rfl, hwidth, hstorable, ?_⟩
    rw [call, hrun, ← hwidth]
    rfl
  | error error =>
    rw [hresult] at hfollows
    obtain ⟨message, printed, hrun⟩ := hfollows ""
    refine .inr ⟨error, message, rfl, ?_⟩
    rw [call, hrun]

/-! Steps after one another. -/

/-- A call of the command writes the circuit that the operation makes of the circuits in the files,
so that it is read back, or it fails with the operation and writes nothing; and a call of the program
whose words name the command does what the command does. -/
structure FileStep.ActsAsInMemory (environment : Settings.Environment) (folder : String)
    (files : Directory) (step : FileStep) : Prop where
  succeeds : ∀ c, step.result (Circuit.load files folder) = .ok c →
    (step.call environment folder files).1 = .ok () ∧
      files.ChangesOnly (step.call environment folder files).2
        (Path.ofText (Path.within folder (englishName step.output step.width))) c.english ∧
      Circuit.load (step.call environment folder files).2 folder step.output step.width = .ok c
  fails : ∀ error, step.result (Circuit.load files folder) = .error error →
    (∃ message, (step.call environment folder files).1 = .error message) ∧
      (step.call environment folder files).2 = files
  program : ∀ words, step.IsNamedBy folder words →
    (Command.execute environment files words).files = (step.call environment folder files).2 ∧
      ((Command.execute environment files words).code = 0 ↔
        (step.call environment folder files).1 = .ok ())

theorem FileStep.actsAsInMemory (environment : Settings.Environment)
    (h : files.HasAt folder place) (hplain : step.IsPlain) :
    step.ActsAsInMemory environment folder files := by
  have hout : '/' ∉ step.output.toList := hplain _ List.mem_cons_self
  obtain ⟨c, hresult, hwidth, hstorable, hcall⟩ | ⟨error, message, hresult, hcall⟩ :=
    call_cases environment h hplain
  · refine ⟨?_, fun error herror => ?_, fun _ => execute_eq_call environment files⟩
    · intro d hd
      obtain rfl : c = d := Except.ok.inj (hresult.symm.trans hd)
      rw [hcall]
      refine ⟨rfl, h.changesOnly_put (isName_englishName hout step.width) c.english, ?_⟩
      rw [Circuit.load_put_self h hout, ← hwidth, hstorable.ofLines_english]
    · rw [hresult] at herror
      cases herror
  · refine ⟨fun c hc => ?_, ?_, fun _ => execute_eq_call environment files⟩
    · rw [hresult] at hc
      cases hc
    · intro _ _
      rw [hcall]
      exact ⟨⟨message, rfl⟩, rfl⟩

theorem FileStep.hasAt_call (environment : Settings.Environment) (h : files.HasAt folder place)
    (hplain : step.IsPlain) : (step.call environment folder files).2.HasAt folder place := by
  obtain ⟨c, -, -, -, hcall⟩ | ⟨error, message, -, hcall⟩ := call_cases environment h hplain
  · rw [hcall]
    exact h.put _ _
  · rw [hcall]
    exact h

theorem Memory.HeldIn.after (h : files.HasAt folder place) (hheld : memory.HeldIn files folder)
    (hplain : step.IsPlain) :
    (memory.after step).HeldIn (step.call environment folder files).2 folder := by
  have hout : '/' ∉ step.output.toList := hplain _ List.mem_cons_self
  have hsame : step.result memory = step.result (Circuit.load files folder) :=
    FileStep.result_congr fun stem hstem =>
      (hheld stem step.width (hplain stem (List.mem_cons_of_mem _ hstem))).symm
  unfold Memory.after
  obtain ⟨c, hresult, hwidth, hstorable, hcall⟩ | ⟨error, message, hresult, hcall⟩ :=
    FileStep.call_cases environment h hplain
  · rw [hsame, hresult, hcall]
    intro stem width hstem
    dsimp only [Memory.store]
    split
    · rename_i hfile
      rw [hfile.1, hfile.2, Circuit.load_put_self h hout, ← hwidth, hstorable.ofLines_english]
    · rename_i hfile
      rw [Circuit.load_put_of_ne h hstem hfile, hheld stem width hstem]
  · rw [hsame, hresult, hcall]
    exact hheld

theorem hasAt_filesAfter (environment : Settings.Environment) (h : files.HasAt folder place)
    (hplain : ∀ step ∈ steps, step.IsPlain) :
    (filesAfter environment folder files steps).HasAt folder place := by
  induction steps generalizing files with
  | nil => exact h
  | cons step steps ih =>
    have hstep := FileStep.hasAt_call environment h (hplain step List.mem_cons_self)
    exact ih hstep fun s hs => hplain s (List.mem_cons_of_mem _ hs)

theorem Memory.HeldIn.foldl_after (h : files.HasAt folder place)
    (hheld : memory.HeldIn files folder) (hplain : ∀ step ∈ steps, step.IsPlain) :
    (steps.foldl Memory.after memory).HeldIn (filesAfter environment folder files steps)
      folder := by
  induction steps generalizing files memory with
  | nil => exact hheld
  | cons step steps ih =>
    have hstep := hplain step List.mem_cons_self
    have hcall := FileStep.hasAt_call environment h hstep
    exact ih hcall (hheld.after h hstep) fun s hs => hplain s (List.mem_cons_of_mem _ hs)

theorem programAfter_eq_filesAfter {calls : List (List String)}
    (h : List.Forall₂ (FileStep.IsNamedBy folder) steps calls) :
    programAfter environment files calls = filesAfter environment folder files steps := by
  induction h generalizing files with
  | nil => rfl
  | @cons step words steps calls hnamed _ ih =>
    calc programAfter environment files (words :: calls)
      _ = programAfter environment (step.call environment folder files).2 calls := by
        rw [← (FileStep.execute_eq_call environment files hnamed).1]
        rfl
      _ = filesAfter environment folder files (step :: steps) := ih

/-- Commands on files do what their operations do in memory. Each of them writes its circuit, or
fails and writes nothing, and at every time the files hold the circuits of the memory, in whatever
spelling these were at first. Calls of the program with words that name the commands leave the same
files. -/
theorem pipeline_refines_memory (environment : Settings.Environment)
    (h : files.HasAt folder place) (hheld : memory.HeldIn files folder)
    (hplain : ∀ step ∈ steps, step.IsPlain) :
    (∀ before step later, steps = before ++ step :: later →
      step.ActsAsInMemory environment folder (filesAfter environment folder files before)) ∧
    (steps.foldl Memory.after memory).HeldIn (filesAfter environment folder files steps)
      folder ∧
    ∀ calls, List.Forall₂ (FileStep.IsNamedBy folder) steps calls →
      programAfter environment files calls = filesAfter environment folder files steps := by
  refine ⟨?_, hheld.foldl_after h hplain, fun _ => programAfter_eq_filesAfter⟩
  rintro before step later rfl
  have hbefore := hasAt_filesAfter environment h fun s hs =>
    hplain s (List.mem_append_left _ hs)
  apply FileStep.actsAsInMemory environment hbefore
  exact hplain step (List.mem_append_right _ List.mem_cons_self)

/-- Line endings, blank lines and numerals of the first file do not come through. -/
theorem pipeline_refines_memory_spelling :
    let files : Directory :=
      ⟨[(["p_2_eng.txt"], "HAD2\tAT\t+00\r\n \n\r\nROTX\t45\tAT\t1\tIF\t00T")], []⟩
    let steps : List FileStep :=
      [.adjoint "p" 2 none, .concat ["p_herm", "p"] 2 "p", .adjoint "absent" 2 none,
        .slice "p" 2 (some (-3)) none 1 (some "q"), .append "q" 2 true "write_swap" ["0", "1"]]
    let calls : List (List String) :=
      [["herm", "-p", "p", "-n", "2"], ["concat", "-n", "2", "-o", "p", "p_herm", "p"],
        ["herm", "-p", "absent", "-n", "2"],
        ["slice", "-p", "p", "-n", "2", "--start", "-3", "-o", "q"],
        ["append", "-p", "q", "-n", "2", "--create", "write_swap", "0", "1"]]
    files.HasAt "." [] ∧ Memory.HeldIn (Circuit.load files ".") files "." ∧
      (∀ step ∈ steps, step.IsPlain) ∧ List.Forall₂ (FileStep.IsNamedBy ".") steps calls ∧
      programAfter ⟨none, none⟩ files calls = filesAfter ⟨none, none⟩ "." files steps ∧
      Circuit.load (filesAfter ⟨none, none⟩ "." files steps) "." "q" 2 =
        .ok ⟨2, [.hadamard 0 [], .hadamard 0 [], .rotation .x (.literal "45") 1 [⟨0, .isOne⟩],
          .swap 0 1 []]⟩ := by
  intro files steps calls
  have hplace : files.HasAt "." [] := ⟨by decide, by decide⟩
  have hheld : Memory.HeldIn (Circuit.load files ".") files "." := fun _ _ _ => rfl
  have hplain : ∀ step ∈ steps, step.IsPlain := by
    unfold FileStep.IsPlain
    decide
  have hnamed : List.Forall₂ (FileStep.IsNamedBy ".") steps calls :=
    .cons rfl (.cons rfl (.cons rfl (.cons rfl (.cons rfl .nil))))
  obtain ⟨-, hpipeline, hprogram⟩ := pipeline_refines_memory ⟨none, none⟩ hplace hheld hplain
  refine ⟨hplace, hheld, hplain, hnamed, hprogram calls hnamed, ?_⟩
  rw [hpipeline "q" 2 (by decide)]
  apply eq_ok_of_toOption
  decide +kernel

end

end CircuitScript
