import CircuitScript.CommandLine.Execution
import CircuitScript.Proofs.Circuit.Saving
/-!
What a run leaves behind, printed lines apart. A run that only reads has a result as long as nothing
fails; a run that writes does so once it has its result, and nothing fails after that.
-/
namespace CircuitScript.Command

variable {α β ρ : Type} {files after : Directory}

/-- The run ends with the value and leaves these files. -/
def Gives (x : Run α) (files : Directory) (a : α) (after : Directory) : Prop :=
  ∀ printed, ∃ printed', x.run.run ⟨files, printed⟩ = (.ok a, ⟨after, printed'⟩)

def Stops (x : Run α) (files : Directory) : Prop :=
  ∀ printed, ∃ message printed', x.run.run ⟨files, printed⟩ = (.error message, ⟨files, printed'⟩)

/-- The run gives what a result stands for, and stops where there is none. -/
def Follows (x : Run α) (files : Directory) (out : ρ → α × Directory) :
    Except CircuitError ρ → Prop
  | .ok r => Gives x files (out r).1 (out r).2
  | .error _ => Stops x files

def Computes (x : Run α) (files : Directory) (result : Except CircuitError α) : Prop :=
  Follows x files (·, files) result

theorem run_bind (x : Run α) (f : α → Run β) (desk : Desk) :
    (x >>= f).run.run desk =
      match x.run.run desk with
      | (.ok a, desk) => (f a).run.run desk
      | (.error message, desk) => (.error message, desk) := by
  unfold ExceptT.run StateT.run
  simp only [bind, ExceptT.bind, ExceptT.mk, StateT.bind, ExceptT.bindCont]
  cases x desk with
  | mk result desk => cases result <;> rfl

section

variable {x : Run α} {f : α → Run β} {a : α} {b : β} {later : Directory}

theorem Gives.bind (hx : Gives x files a after) (hf : Gives (f a) after b later) :
    Gives (x >>= f) files b later := by
  intro printed
  obtain ⟨printed', hx⟩ := hx printed
  obtain ⟨printed'', hf⟩ := hf printed'
  refine ⟨printed'', ?_⟩
  rw [run_bind, hx]
  exact hf

theorem Gives.bind_stops (hx : Gives x files a files) (hf : Stops (f a) files) :
    Stops (x >>= f) files := by
  intro printed
  obtain ⟨printed', hx⟩ := hx printed
  obtain ⟨message, printed'', hf⟩ := hf printed'
  refine ⟨message, printed'', ?_⟩
  rw [run_bind, hx]
  exact hf

theorem Stops.bind (hx : Stops x files) : Stops (x >>= f) files := by
  intro printed
  obtain ⟨message, printed', hx⟩ := hx printed
  refine ⟨message, printed', ?_⟩
  rw [run_bind, hx]

theorem gives_pure (a : α) (files : Directory) : Gives (pure a) files a files :=
  fun printed => ⟨printed, rfl⟩

theorem stops_throw (message : String) (files : Directory) :
    Stops (throw message : Run α) files :=
  fun printed => ⟨message, printed, rfl⟩

theorem gives_say (line : String) (files : Directory) : Gives (say line) files () files :=
  fun _ => ⟨_, rfl⟩

theorem Gives.get_bind {f : Desk → Run β}
    (h : ∀ printed, Gives (f ⟨files, printed⟩) files b after) :
    Gives (get >>= f) files b after := by
  intro printed
  obtain ⟨printed', hf⟩ := h printed printed
  exact ⟨printed', by rw [run_bind]; exact hf⟩

theorem Stops.get_bind {f : Desk → Run β} (h : ∀ printed, Stops (f ⟨files, printed⟩) files) :
    Stops (get >>= f) files := by
  intro printed
  obtain ⟨message, printed', hf⟩ := h printed printed
  exact ⟨message, printed', by rw [run_bind]; exact hf⟩

/-- What a run reads from the desk is the files; what was printed cannot matter. -/
theorem Follows.get_bind {f : Desk → Run β} {out : ρ → β × Directory}
    {result : Except CircuitError ρ}
    (h : ∀ printed, Follows (f ⟨files, printed⟩) files out result) :
    Follows (get >>= f) files out result := by
  cases result with
  | ok r => exact Gives.get_bind h
  | error error => exact Stops.get_bind h

theorem Computes.bind {first : Except CircuitError α} {next : α → Except CircuitError ρ}
    {out : ρ → β × Directory} (hx : Computes x files first)
    (hf : ∀ a, first = .ok a → Follows (f a) files out (next a)) :
    Follows (x >>= f) files out (first >>= next) := by
  cases first with
  | error error => exact Stops.bind hx
  | ok a =>
    have hnext := hf a rfl
    change Follows _ _ _ (next a)
    cases hresult : next a with
    | error error =>
      rw [hresult] at hnext
      exact Gives.bind_stops hx hnext
    | ok r =>
      rw [hresult] at hnext
      exact Gives.bind hx hnext

theorem Computes.bind_gives {result : Except CircuitError α} {out : α → β × Directory}
    (hx : Computes x files result)
    (hf : ∀ a, result = .ok a → Gives (f a) files (out a).1 (out a).2) :
    Follows (x >>= f) files out result := by
  have h : Follows (x >>= f) files out (result >>= pure) := hx.bind hf
  rwa [bind_pure] at h

theorem Follows.say_bind {f : Unit → Run β} {out : ρ → β × Directory}
    {result : Except CircuitError ρ} (line : String) (h : Follows (f ()) files out result) :
    Follows (say line >>= f) files out result := by
  cases result with
  | ok r => exact Gives.bind (gives_say line files) h
  | error error => exact Gives.bind_stops (gives_say line files) h

end

/-! Parts of commands. -/

theorem computes_orFail (result : Except CircuitError α) (files : Directory) :
    Computes (orFail result) files result := by
  cases result with
  | ok a => exact gives_pure a files
  | error error => exact stops_throw _ files

theorem computes_loadCircuit (place : CircuitPlace) (files : Directory) :
    Computes (loadCircuit place) files
      (Circuit.load files place.folder place.stem place.width) := by
  unfold loadCircuit
  apply Follows.get_bind
  intro printed
  dsimp only
  split
  · rename_i hmissing
    rw [Circuit.load_eq_missingFile_iff.2 (Option.isNone_iff_eq_none.1 hmissing)]
    exact Stops.bind (stops_throw _ files)
  · cases Circuit.load files place.folder place.stem place.width with
    | ok c => exact gives_pure c files
    | error error => exact stops_throw _ files

theorem gives_saveCircuit {c : Circuit} {folder stem : String}
    (h : c.save files folder stem = .ok after) :
    Gives (saveCircuit c folder stem) files (CircuitPlace.path ⟨folder, stem, c.width⟩) after := by
  unfold saveCircuit
  apply Gives.get_bind
  intro printed
  dsimp only
  rw [h]
  exact fun printed => ⟨printed, rfl⟩

end CircuitScript.Command
