import CircuitScript.Circuit.Files
import CircuitScript.Proofs.Text.Fields
import CircuitScript.Proofs.Text.Numeral
import Mathlib.Data.List.Basic
/-!
Files of one folder. A folder that is there takes every file, a write changes this file and no other
one, and no folder comes or goes with it.
-/
namespace CircuitScript

namespace Path

/-- A text that names a file in a folder, not a way to another folder. -/
structure IsName (name : String) : Prop where
  slash_not_mem : '/' ∉ name.toList
  ne_empty : name ≠ ""
  ne_here : name ≠ "."
  ne_stepBack : name ≠ stepBack

def steps (text : List Char) : Path :=
  ((Text.cut '/' text).map String.ofList).filter fun name => name ≠ "" ∧ name ≠ "."

theorem ofText_ofList (text : List Char) :
    ofText (String.ofList text) =
      if text.head? = some '/' then "" :: steps text else steps text := by
  rw [ofText, String.toList_ofList]
  rfl

theorem steps_append_slash (front rest : List Char) :
    steps (front ++ '/' :: rest) = steps front ++ steps rest := by
  simp only [steps, Text.cut_append_separator, List.map_append, List.filter_append]

theorem steps_nil : steps [] = [] := rfl

theorem steps_slash_cons (rest : List Char) : steps ('/' :: rest) = steps rest :=
  steps_append_slash [] rest

theorem ofText_append_slash {front : List Char} (hne : front ≠ []) (rest : List Char) :
    ofText (String.ofList (front ++ '/' :: rest)) = ofText (String.ofList front) ++ steps rest := by
  rw [ofText_ofList, ofText_ofList, steps_append_slash, List.head?_append_of_ne_nil _ hne]
  split <;> rfl

theorem IsName.head?_ne {name : String} (h : IsName name) : name.toList.head? ≠ some '/' :=
  fun hs => h.slash_not_mem (List.mem_of_head? hs)

theorem steps_of_isName {name : String} (h : IsName name) : steps name.toList = [name] := by
  rw [steps, Text.cut_of_not_mem h.slash_not_mem]
  simp [h.ne_empty, h.ne_here]

theorem ofText_of_isName {name : String} (h : IsName name) : ofText name = [name] := by
  have hofText := ofText_ofList name.toList
  rwa [String.ofList_toList, if_neg h.head?_ne, steps_of_isName h] at hofText

theorem ofText_within {folder name : String} (h : IsName name) :
    ofText (within folder name) = ofText folder ++ [name] := by
  have hsteps := steps_of_isName h
  by_cases hempty : folder = ""
  · subst hempty
    exact ofText_of_isName h
  have hne : folder.toList ≠ [] := mt String.toList_eq_nil_iff.1 hempty
  unfold within
  rw [if_neg (by simp [hempty, h.head?_ne])]
  split
  · rename_i hlast
    obtain ⟨front, hfront⟩ : ∃ front, folder.toList = front ++ ['/'] :=
      ⟨_, (List.dropLast_append_getLast? _ hlast).symm⟩
    have hfolder : folder = String.ofList (front ++ ['/']) := by
      rw [← hfront, String.ofList_toList]
    have hfile : folder ++ name = String.ofList (front ++ '/' :: name.toList) := by
      rw [← String.toList_inj, String.toList_append, hfront]
      simp
    rw [hfile, hfolder]
    cases front with
    | nil =>
      rw [List.nil_append, List.nil_append, ofText_ofList, ofText_ofList, steps_slash_cons,
        steps_slash_cons, hsteps, steps_nil]
      rfl
    | cons c front =>
      rw [ofText_append_slash (by simp), ofText_append_slash (by simp), hsteps, steps_nil,
        List.append_nil]
  · have hfile : folder ++ "/" ++ name = String.ofList (folder.toList ++ '/' :: name.toList) := by
      rw [← String.toList_inj]
      simp
    rw [hfile, ofText_append_slash hne, String.ofList_toList, hsteps]

end Path

namespace Directory

variable {d : Directory} {folder name : String} {place path : Path}

/-! Folders. -/

theorem hasFolder_iff :
    d.hasFolder path = true ↔
      (∀ name ∈ path, name = Path.stepBack) ∨ (∃ folder ∈ d.folders, path <+: folder) ∨
        ∃ file ∈ d.files, path <+: file.1.dropLast := by
  simp [hasFolder, or_assoc]

theorem hasFolder_of_prefix (h : d.hasFolder place = true) (hp : path <+: place) :
    d.hasFolder path = true := by
  rw [hasFolder_iff] at h ⊢
  obtain hback | ⟨folder, hmem, hfolder⟩ | ⟨file, hmem, hfile⟩ := h
  · exact .inl fun name hname => hback name (hp.subset hname)
  · exact .inr (.inl ⟨folder, hmem, hp.trans hfolder⟩)
  · exact .inr (.inr ⟨file, hmem, hp.trans hfile⟩)

theorem hasFolder_put (h : d.hasFolder place = true) (name text : String) (path : Path) :
    (d.put (place ++ [name]) text).hasFolder path = d.hasFolder path := by
  rw [Bool.eq_iff_iff, hasFolder_iff]
  constructor
  · rintro (hback | hfolder | ⟨file, hmem, hfile⟩)
    · exact hasFolder_iff.2 (.inl hback)
    · exact hasFolder_iff.2 (.inr (.inl hfolder))
    · obtain hmem | hmem := List.mem_append.1 hmem
      · exact hasFolder_iff.2 (.inr (.inr ⟨file, List.mem_of_mem_filter hmem, hfile⟩))
      · rw [List.mem_singleton.1 hmem, List.dropLast_concat] at hfile
        exact hasFolder_of_prefix h hfile
  · intro hpath
    obtain hback | hfolder | ⟨file, hmem, hfile⟩ := hasFolder_iff.1 hpath
    · exact .inl hback
    · exact .inr (.inl hfolder)
    · refine .inr (.inr ?_)
      by_cases hsame : file.1 = place ++ [name]
      · refine ⟨_, List.mem_append_right _ List.mem_cons_self, ?_⟩
        rwa [← hsame]
      · exact ⟨file, List.mem_append_left _ (List.mem_filter.2 ⟨hmem, by simpa using hsame⟩), hfile⟩

theorem resolve?_put (h : d.hasFolder place = true) (name text : String) (path : Path) :
    (d.put (place ++ [name]) text).resolve? path = d.resolve? path := by
  have hstep : (d.put (place ++ [name]) text).step? = d.step? := by
    funext folder step
    simp only [step?, around?, hasFolder_put h]
  rw [resolve?, resolve?, hstep]

/-! Texts. -/

theorem lookup_put (files : List (Path × String)) (path other : Path) (text : String) :
    (files.filter (·.1 ≠ path) ++ [(path, text)]).lookup other =
      if other = path then some text else files.lookup other := by
  induction files with
  | nil =>
    rw [List.filter_nil, List.nil_append, List.lookup_cons]
    by_cases hother : other = path
    · simp [hother]
    · simp [hother, beq_false_of_ne hother]
  | cons file files ih =>
    obtain ⟨key, kept⟩ := file
    rw [List.lookup_cons]
    by_cases hfile : key = path
    · rw [List.filter_cons_of_neg (by simpa using hfile), ih]
      split
      · rfl
      · rename_i hother
        rw [beq_false_of_ne (hfile ▸ hother)]
    · rw [List.filter_cons_of_pos (by simpa using hfile), List.cons_append, List.lookup_cons, ih]
      by_cases hother : other = key
      · simp [hother, hfile]
      · rw [beq_false_of_ne hother]

theorem read?_put (h : d.hasFolder place = true) (name text : String) (path : Path) :
    (d.put (place ++ [name]) text).read? path =
      if d.resolve? path = some (place ++ [name]) then some text else d.read? path := by
  rw [read?, read?, resolve?_put h]
  cases d.resolve? path with
  | none => rfl
  | some other =>
    rw [Option.bind_some, Option.bind_some, put, lookup_put]
    simp

theorem resolve?_of_isName (hname : Path.IsName name) (folder : String) :
    d.resolve? (Path.ofText (Path.within folder name)) =
      (d.resolve? (Path.ofText folder)).map (· ++ [name]) := by
  unfold resolve?
  rw [Path.ofText_within hname, List.foldlM_append]
  cases (Path.ofText folder).foldlM d.step? [] with
  | none => rfl
  | some place => simp [step?, hname.ne_stepBack]

/-- The folder is there, at this place. -/
structure HasAt (d : Directory) (folder : String) (place : Path) : Prop where
  resolve?_eq : d.resolve? (Path.ofText folder) = some place
  hasFolder : d.hasFolder place = true

namespace HasAt

theorem resolve?_within (h : d.HasAt folder place) (hname : Path.IsName name) :
    d.resolve? (Path.ofText (Path.within folder name)) = some (place ++ [name]) := by
  rw [resolve?_of_isName hname, h.resolve?_eq, Option.map_some]

theorem read? (h : d.HasAt folder place) (hname : Path.IsName name) :
    d.read? (Path.ofText (Path.within folder name)) = d.files.lookup (place ++ [name]) := by
  rw [Directory.read?, h.resolve?_within hname, Option.bind_some]

theorem write (h : d.HasAt folder place) (hname : Path.IsName name) (text : String) :
    d.write (Path.ofText (Path.within folder name)) text = .ok (d.put (place ++ [name]) text) := by
  rw [Directory.write, h.resolve?_within hname]
  simp [h.hasFolder]

theorem put (h : d.HasAt folder place) (name text : String) :
    (d.put (place ++ [name]) text).HasAt folder place where
  resolve?_eq := by rw [resolve?_put h.hasFolder, h.resolve?_eq]
  hasFolder := by rw [hasFolder_put h.hasFolder, h.hasFolder]

theorem read?_put_self (h : d.HasAt folder place) (hname : Path.IsName name) (text : String) :
    (d.put (place ++ [name]) text).read? (Path.ofText (Path.within folder name)) = some text := by
  rw [read?_put h.hasFolder, h.resolve?_within hname, if_pos rfl]

theorem read?_put_of_ne {other : String} (h : d.HasAt folder place) (hother : Path.IsName other)
    (hne : other ≠ name) (text : String) :
    (d.put (place ++ [name]) text).read? (Path.ofText (Path.within folder other)) =
      d.read? (Path.ofText (Path.within folder other)) := by
  rw [read?_put h.hasFolder, h.resolve?_within hother, if_neg (by simpa using hne)]

end HasAt

theorem exists_hasAt_of_write (hname : Path.IsName name)
    (h : d.write (Path.ofText (Path.within folder name)) text = .ok saved) :
    ∃ place, d.HasAt folder place ∧ saved = d.put (place ++ [name]) text := by
  rw [write, resolve?_of_isName hname] at h
  cases hplace : d.resolve? (Path.ofText folder) with
  | none => simp [hplace] at h
  | some place =>
    simp only [hplace, Option.map_some, List.dropLast_concat] at h
    split at h
    · rename_i hfolder
      exact ⟨place, ⟨hplace, hfolder⟩, (Except.ok.inj h).symm⟩
    · cases h

theorem resolve?_of_write (hname : Path.IsName name)
    (h : d.write (Path.ofText (Path.within folder name)) text = .ok saved) :
    saved.resolve? = d.resolve? := by
  obtain ⟨place, hplace, rfl⟩ := exists_hasAt_of_write hname h
  exact funext (resolve?_put hplace.hasFolder name text)

/-- The path leads to the text, and every path to another place leads to what it led to before. -/
structure ChangesOnly (before after : Directory) (path : Path) (text : String) : Prop where
  written : after.read? path = some text
  others : ∀ other, before.resolve? other ≠ before.resolve? path →
    after.read? other = before.read? other

theorem HasAt.changesOnly_put (h : d.HasAt folder place) (hname : Path.IsName name)
    (text : String) :
    d.ChangesOnly (d.put (place ++ [name]) text) (Path.ofText (Path.within folder name)) text where
  written := h.read?_put_self hname text
  others other hother := by
    rw [h.resolve?_within hname] at hother
    rw [read?_put h.hasFolder, if_neg hother]

end Directory

/-! Names of circuits. -/

theorem slash_not_mem_decimal (n : Nat) : '/' ∉ (Text.decimal n).toList := by
  intro hmem
  exact absurd (Text.isDigit_of_mem_decimal hmem) (by decide)

theorem isName_numbered {stem ending : String} (h : '/' ∉ stem.toList)
    (hending : '/' ∉ ending.toList) (hlength : 2 ≤ ending.toList.length) (n : Nat) :
    Path.IsName (stem ++ "_" ++ Text.decimal n ++ ending) := by
  have hlong : 3 ≤ (stem ++ "_" ++ Text.decimal n ++ ending).toList.length := by
    simp only [String.toList_append, List.length_append]
    change 3 ≤ stem.toList.length + 1 + _ + _
    omega
  have hne (other : String) (hshort : other.toList.length < 3) :
      stem ++ "_" ++ Text.decimal n ++ ending ≠ other := by
    intro heq
    rw [heq] at hlong
    omega
  refine ⟨?_, hne "" (by decide), hne "." (by decide), hne Path.stepBack (by decide)⟩
  intro hmem
  simp only [String.toList_append, List.mem_append] at hmem
  obtain ((hmem | hmem) | hmem) | hmem := hmem
  · exact h hmem
  · exact absurd hmem (by decide)
  · exact slash_not_mem_decimal _ hmem
  · exact hending hmem

theorem isName_englishName {stem : String} (h : '/' ∉ stem.toList) (width : UInt64) :
    Path.IsName (englishName stem width) :=
  isName_numbered h (by decide) (by decide) width.toNat

theorem isName_pictureName {stem : String} (h : '/' ∉ stem.toList) (width : UInt64) :
    Path.IsName (pictureName stem width) :=
  isName_numbered h (by decide) (by decide) width.toNat

end CircuitScript
