import CircuitScript.Proofs.Circuit.Saving
/-!
Pictures beside their circuits. A call that saves a circuit with its picture writes the lines first,
so a reader that refuses leaves the picture of an earlier call beside them. A picture belongs to the
lines beside it where the last call of their name drew one.
-/
namespace CircuitScript

theorem pictureName_injective {stem stem' : String} {width width' : UInt64}
    (h : pictureName stem width = pictureName stem' width') : stem = stem' ∧ width = width' :=
  (numbered_injective h).imp_right UInt64.toNat_inj.1

theorem englishName_ne_pictureName (stem stem' : String) (width width' : UInt64) :
    englishName stem width ≠ pictureName stem' width' := by
  intro h
  have hlength : "_eng.txt".toList.length = "_pic.txt".toList.length := by simp
  have hending : "_eng.txt".toList ≠ "_pic.txt".toList := by simp
  have hlists := congrArg String.toList h
  simp only [englishName, pictureName, String.toList_append] at hlists
  exact hending (List.append_inj_right' hlists hlength)

def Directory.textIn? (files : Directory) (folder name : String) : Option String :=
  files.read? (Path.ofText (Path.within folder name))

theorem Directory.HasAt.textIn?_put {files : Directory} {folder name other : String}
    {place : Path}
    (h : files.HasAt folder place) (hother : Path.IsName other) (text : String) :
    (files.put (place ++ [name]) text).textIn? folder other =
      if other = name then some text else files.textIn? folder other := by
  unfold textIn?
  rw [read?_put h.hasFolder, h.resolve?_within hother]
  simp

variable {ε : Type}

structure PictureCall (ε : Type) where
  circuit : Circuit
  stem : String
  reader : DiagramReader ε

namespace PictureCall

def run (call : PictureCall ε) (folder : String) (files : Directory) :
    Directory × Except (OutsideError ε) Unit :=
  call.circuit.saveWithPicture call.reader files folder call.stem

def drawn? (call : PictureCall ε) : Option String :=
  (call.reader.draw call.circuit.width call.circuit.english).toOption

def isNamed (stem : String) (width : UInt64) (call : PictureCall ε) : Bool :=
  call.stem = stem ∧ call.circuit.width = width

def filesAfter (folder : String) (files : Directory) (calls : List (PictureCall ε)) : Directory :=
  calls.foldl (fun files call => (call.run folder files).1) files

def last? (stem : String) (width : UInt64) (calls : List (PictureCall ε)) :
    Option (PictureCall ε) :=
  (calls.filter (isNamed stem width)).getLast?

/-- What the last reader of a name that did not refuse returned. -/
def lastDrawn? (stem : String) (width : UInt64) (calls : List (PictureCall ε)) : Option String :=
  ((calls.filter (isNamed stem width)).filterMap drawn?).getLast?

section

variable {files : Directory} {folder : String} {place : Path} {call : PictureCall ε}
  {calls : List (PictureCall ε)} {stem : String} {width : UInt64}

theorem run_eq (h : files.HasAt folder place) (hstem : '/' ∉ call.stem.toList) :
    call.run folder files =
      let lines := files.put (place ++ [englishName call.stem call.circuit.width])
        call.circuit.english
      match call.reader.draw call.circuit.width call.circuit.english with
      | .error failure => (lines, .error (.collaborator failure))
      | .ok picture =>
        (lines.put (place ++ [pictureName call.stem call.circuit.width]) picture, .ok ()) := by
  unfold run Circuit.saveWithPicture
  rw [Circuit.save_eq h hstem]
  dsimp only [Circuit.draw]
  cases call.reader.draw call.circuit.width call.circuit.english with
  | error failure => rfl
  | ok picture =>
    dsimp only [Except.mapError]
    rw [(h.put _ _).write (isName_pictureName hstem _)]

theorem hasAt_run (h : files.HasAt folder place) (hstem : '/' ∉ call.stem.toList) :
    (call.run folder files).1.HasAt folder place := by
  rw [run_eq h hstem]
  dsimp only
  split
  · exact h.put _ _
  · exact (h.put _ _).put _ _

theorem isNamed_iff : call.isNamed stem width = true ↔
    call.stem = stem ∧ call.circuit.width = width := by
  simp [isNamed]

theorem englishName_eq_iff :
    englishName stem width = englishName call.stem call.circuit.width ↔
      call.isNamed stem width = true := by
  rw [isNamed_iff]
  constructor
  · exact fun h => englishName_injective h.symm
  · rintro ⟨rfl, rfl⟩
    rfl

theorem pictureName_eq_iff :
    pictureName stem width = pictureName call.stem call.circuit.width ↔
      call.isNamed stem width = true := by
  rw [isNamed_iff]
  constructor
  · exact fun h => pictureName_injective h.symm
  · rintro ⟨rfl, rfl⟩
    rfl

theorem english_run (h : files.HasAt folder place) (hcall : '/' ∉ call.stem.toList)
    (hstem : '/' ∉ stem.toList) :
    (call.run folder files).1.textIn? folder (englishName stem width) =
      if call.isNamed stem width then some call.circuit.english
      else files.textIn? folder (englishName stem width) := by
  have hname := isName_englishName hstem width
  have hpicture := englishName_ne_pictureName stem call.stem width call.circuit.width
  rw [run_eq h hcall]
  dsimp only
  split
  · simp only [h.textIn?_put hname, englishName_eq_iff]
  · simp only [(h.put _ _).textIn?_put hname, hpicture, if_false, h.textIn?_put hname,
      englishName_eq_iff]

theorem picture_run (h : files.HasAt folder place) (hcall : '/' ∉ call.stem.toList)
    (hstem : '/' ∉ stem.toList) :
    (call.run folder files).1.textIn? folder (pictureName stem width) =
      if call.isNamed stem width then call.drawn?.or (files.textIn? folder (pictureName stem width))
      else files.textIn? folder (pictureName stem width) := by
  have hname := isName_pictureName hstem width
  have hlines := (englishName_ne_pictureName call.stem stem call.circuit.width width).symm
  rw [run_eq h hcall, drawn?]
  dsimp only
  split
  · rename_i hdraw
    simp only [hdraw, Except.toOption, Option.none_or, h.textIn?_put hname, hlines, if_false,
      ite_self]
  · rename_i hdraw
    simp only [hdraw, Except.toOption, Option.some_or, (h.put _ _).textIn?_put hname,
      h.textIn?_put hname, hlines, if_false, pictureName_eq_iff]

theorem answer_run (h : files.HasAt folder place) (hcall : '/' ∉ call.stem.toList) :
    (call.run folder files).2 =
      ((call.reader.draw call.circuit.width call.circuit.english).mapError .collaborator).map
        fun _ => () := by
  rw [run_eq h hcall]
  dsimp only
  split <;> simp_all [Except.mapError, Except.map]

theorem filesAfter_append (call : PictureCall ε) :
    filesAfter folder files (calls ++ [call]) =
      (call.run folder (filesAfter folder files calls)).1 := by
  rw [filesAfter, List.foldl_append]
  rfl

theorem hasAt_filesAfter (h : files.HasAt folder place)
    (hcalls : ∀ call ∈ calls, '/' ∉ call.stem.toList) :
    (filesAfter folder files calls).HasAt folder place := by
  induction calls using List.reverseRecOn with
  | nil => exact h
  | append_singleton calls call ih =>
    rw [List.forall_mem_append, List.forall_mem_singleton] at hcalls
    rw [filesAfter_append]
    exact hasAt_run (ih hcalls.1) hcalls.2

theorem english_filesAfter (h : files.HasAt folder place)
    (hcalls : ∀ call ∈ calls, '/' ∉ call.stem.toList) (hstem : '/' ∉ stem.toList) :
    (filesAfter folder files calls).textIn? folder (englishName stem width) =
      ((last? stem width calls).map (·.circuit.english)).or
        (files.textIn? folder (englishName stem width)) := by
  induction calls using List.reverseRecOn with
  | nil => rfl
  | append_singleton calls call ih =>
    rw [List.forall_mem_append, List.forall_mem_singleton] at hcalls
    rw [filesAfter_append, english_run (hasAt_filesAfter h hcalls.1) hcalls.2 hstem, ih hcalls.1,
      last?, last?, List.filter_append]
    cases hnamed : call.isNamed stem width <;> simp [hnamed]

theorem picture_filesAfter (h : files.HasAt folder place)
    (hcalls : ∀ call ∈ calls, '/' ∉ call.stem.toList) (hstem : '/' ∉ stem.toList) :
    (filesAfter folder files calls).textIn? folder (pictureName stem width) =
      (lastDrawn? stem width calls).or (files.textIn? folder (pictureName stem width)) := by
  induction calls using List.reverseRecOn with
  | nil => rfl
  | append_singleton calls call ih =>
    rw [List.forall_mem_append, List.forall_mem_singleton] at hcalls
    rw [filesAfter_append, picture_run (hasAt_filesAfter h hcalls.1) hcalls.2 hstem, ih hcalls.1,
      lastDrawn?, lastDrawn?, List.filter_append]
    cases hnamed : call.isNamed stem width with
    | false => simp [hnamed]
    | true =>
      cases hdrawn : call.drawn? <;> simp [hnamed, hdrawn]

theorem lastDrawn?_of_last? {last : PictureCall ε} {picture : String}
    (h : last? stem width calls = some last) (hdrawn : last.drawn? = some picture) :
    lastDrawn? stem width calls = some picture := by
  obtain ⟨earlier, hlast⟩ := List.getLast?_eq_some_iff.1 h
  rw [lastDrawn?, hlast, List.filterMap_append]
  simp [hdrawn]

theorem drawn?_eq_some_iff {picture : String} :
    call.drawn? = some picture ↔
      call.reader.draw call.circuit.width call.circuit.english = .ok picture := by
  unfold drawn?
  cases call.reader.draw call.circuit.width call.circuit.english <;> simp [Except.toOption]

theorem answer_run_eq_ok_iff (h : files.HasAt folder place) (hcall : '/' ∉ call.stem.toList) :
    (call.run folder files).2 = .ok () ↔ call.drawn?.isSome = true := by
  rw [answer_run h hcall, drawn?]
  cases call.reader.draw call.circuit.width call.circuit.english <;>
    simp [Except.toOption, Except.mapError, Except.map]

/-- In a folder without circuits, whatever is called: a file of lines is that of the last call of
its name, and the picture beside it that of the last such call whose reader did not refuse. Where
the last call of the name did not fail, the picture was drawn from just the lines that are there. -/
theorem picture_belongs_of_drawn (h : files.HasAt folder place)
    (hnone : ∀ stem width, '/' ∉ stem.toList →
      files.textIn? folder (englishName stem width) = none ∧
        files.textIn? folder (pictureName stem width) = none)
    (hcalls : ∀ call ∈ calls, '/' ∉ call.stem.toList) (hstem : '/' ∉ stem.toList)
    (width : UInt64) :
    let later := filesAfter folder files calls
    (∀ call : PictureCall ε, '/' ∉ call.stem.toList →
      ((call.run folder later).2 = .ok () ↔ call.drawn?.isSome = true)) ∧
    later.textIn? folder (englishName stem width) =
      (last? stem width calls).map (·.circuit.english) ∧
    later.textIn? folder (pictureName stem width) = lastDrawn? stem width calls ∧
    ∀ english picture, later.textIn? folder (englishName stem width) = some english →
      later.textIn? folder (pictureName stem width) = some picture →
      (∀ last ∈ last? stem width calls, last.drawn?.isSome = true) →
      ∃ call ∈ calls, call.isNamed stem width = true ∧ call.circuit.english = english ∧
        call.reader.draw width english = .ok picture := by
  intro later
  obtain ⟨hnoLines, hnoPicture⟩ := hnone stem width hstem
  have henglish : later.textIn? folder (englishName stem width) =
      (last? stem width calls).map (·.circuit.english) := by
    rw [english_filesAfter h hcalls hstem, hnoLines, Option.or_none]
  have hpicture : later.textIn? folder (pictureName stem width) = lastDrawn? stem width calls := by
    rw [picture_filesAfter h hcalls hstem, hnoPicture, Option.or_none]
  refine ⟨fun call hcall => answer_run_eq_ok_iff (hasAt_filesAfter h hcalls) hcall, henglish,
    hpicture, ?_⟩
  intro english picture hread hseen hdrawn
  rw [henglish] at hread
  obtain ⟨last, hlast, rfl⟩ := Option.map_eq_some_iff.1 hread
  obtain ⟨own, hown⟩ := Option.isSome_iff_exists.1 (hdrawn last hlast)
  -- The last reader did not refuse, so the picture that is there is its own.
  rw [hpicture, lastDrawn?_of_last? hlast hown] at hseen
  cases hseen
  obtain ⟨hmem, hnamed⟩ := List.mem_filter.1 (List.mem_of_getLast? hlast)
  obtain ⟨-, rfl⟩ := isNamed_iff.1 hnamed
  exact ⟨last, hmem, hnamed, rfl, drawn?_eq_some_iff.1 hown⟩

def copying : DiagramReader Unit := ⟨fun _ text => .ok text⟩

def refusing : DiagramReader Unit := ⟨fun _ _ => .error ()⟩

theorem textIn?_empty (folder name : String) : Directory.empty.textIn? folder name = none := by
  unfold Directory.textIn? Directory.read?
  cases Directory.empty.resolve? _ <;> rfl

theorem picture_belongs_of_drawn_again :
    let a : Circuit := ⟨2, [.hadamard 0 []]⟩
    let b : Circuit := ⟨2, [.pauli .x 1 []]⟩
    let calls : List (PictureCall Unit) :=
      [⟨a, "p", copying⟩, ⟨a, "p", refusing⟩, ⟨b, "p", copying⟩]
    let later := filesAfter "." .empty calls
    later.textIn? "." (englishName "p" 2) = some b.english ∧
      later.textIn? "." (pictureName "p" 2) = some b.english ∧
      ∃ call ∈ calls, call.isNamed "p" 2 = true ∧ call.circuit.english = b.english ∧
        call.reader.draw 2 b.english = .ok b.english := by
  intro a b calls later
  have hplace : Directory.empty.HasAt "." [] := ⟨by decide, by decide⟩
  have hstem : '/' ∉ "p".toList := by decide
  have hcalls : ∀ call ∈ calls, '/' ∉ call.stem.toList := by decide
  obtain ⟨-, henglish, hpicture, hbelongs⟩ := picture_belongs_of_drawn hplace
    (fun _ _ _ => ⟨textIn?_empty _ _, textIn?_empty _ _⟩) hcalls hstem 2
  have hlast : ∀ last ∈ last? "p" 2 calls, last.drawn?.isSome = true := by
    rintro last ⟨⟩
    rfl
  exact ⟨henglish, hpicture, hbelongs _ _ henglish hpicture hlast⟩

/-- A picture that no reader drew from the lines beside it: it is that of the circuit before. -/
theorem picture_of_overwritten_lines :
    let a : Circuit := ⟨2, [.hadamard 0 []]⟩
    let b : Circuit := ⟨2, [.pauli .x 1 []]⟩
    let calls : List (PictureCall Unit) := [⟨a, "p", copying⟩, ⟨b, "p", refusing⟩]
    let later := filesAfter "." .empty calls
    later.textIn? "." (englishName "p" 2) = some b.english ∧
      later.textIn? "." (pictureName "p" 2) = some a.english ∧
      ∀ call ∈ calls, call.reader.draw 2 b.english ≠ .ok a.english := by
  intro a b calls later
  have hplace : Directory.empty.HasAt "." [] := ⟨by decide, by decide⟩
  have hstem : '/' ∉ "p".toList := by decide
  have hcalls : ∀ call ∈ calls, '/' ∉ call.stem.toList := by decide
  refine ⟨?_, ?_, ?_⟩
  · rw [english_filesAfter hplace hcalls hstem]
    rfl
  · rw [picture_filesAfter hplace hcalls hstem]
    rfl
  · have hne : (Except.ok b.english : Except Unit String) ≠ .ok a.english := by decide +kernel
    exact List.forall_mem_cons.2 ⟨hne, List.forall_mem_singleton.2 (by simp [refusing])⟩

end

end PictureCall

end CircuitScript
