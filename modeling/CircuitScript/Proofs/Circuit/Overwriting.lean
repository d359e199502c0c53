import CircuitScript.Proofs.Circuit.Picture
import CircuitScript.Proofs.Stem
/-!
Which files a save can overwrite. The names of two files of circuits differ wherever the stems, the
widths or the kinds do. A stem is also a way through folders, though, so two stems can lead to one
place; a file is overwritten only where they do.
-/
namespace CircuitScript

namespace Directory

/-- Two stems that are equal behind their last slashes, and in front lead to one folder. -/
def SamePlace (d : Directory) (folder stem other : String) : Prop :=
  Path.leaf stem = Path.leaf other ∧
    d.resolve? (Path.ofText (Path.folderOf folder stem)) =
      d.resolve? (Path.ofText (Path.folderOf folder other))

instance (d : Directory) (folder stem other : String) :
    Decidable (d.SamePlace folder stem other) :=
  inferInstanceAs (Decidable (_ ∧ _))

section

variable {d saved : Directory} {folder name other stem text : String}

theorem samePlace_iff_of_not_mem (hstem : '/' ∉ stem.toList) (hother : '/' ∉ other.toList) :
    d.SamePlace folder stem other ↔ stem = other := by
  unfold SamePlace Path.folderOf
  rw [Path.leaf_of_not_mem hstem, Path.leaf_of_not_mem hother, Path.front_of_not_mem hstem,
    Path.front_of_not_mem hother]
  exact and_iff_left rfl

theorem textIn?_of_write (hname : Path.IsName name) (hother : Path.IsName other)
    (h : d.write (Path.ofText (Path.within folder name)) text = .ok saved) (elsewhere : String) :
    saved.textIn? elsewhere other =
      if name = other ∧ d.resolve? (Path.ofText folder) = d.resolve? (Path.ofText elsewhere)
      then some text else d.textIn? elsewhere other := by
  obtain ⟨place, hplace, rfl⟩ := exists_hasAt_of_write hname h
  have hsame : (d.resolve? (Path.ofText elsewhere)).map (· ++ [other]) = some (place ++ [name]) ↔
      name = other ∧ some place = d.resolve? (Path.ofText elsewhere) := by
    cases d.resolve? (Path.ofText elsewhere) with
    | none => simp
    | some there =>
      rw [Option.map_some, Option.some_inj, Option.some_inj, List.append_singleton_inj, and_comm,
        eq_comm (a := other), eq_comm (a := there)]
  unfold textIn?
  rw [read?_put hplace.hasFolder, resolve?_of_isName hother, hplace.resolve?_eq]
  simp only [hsame]

end

end Directory

inductive FileKind where
  | lines
  | picture
  deriving DecidableEq

namespace FileKind

def ending : FileKind → String
  | .lines => "_eng.txt"
  | .picture => "_pic.txt"

def fileName (kind : FileKind) (stem : String) (width : UInt64) : String :=
  stem ++ "_" ++ Text.decimal width.toNat ++ kind.ending

theorem fileName_lines : lines.fileName = englishName := rfl

theorem fileName_picture : picture.fileName = pictureName := rfl

section

variable {stem other : String} {width otherWidth : UInt64}

theorem fileName_inj (kind otherKind : FileKind) :
    kind.fileName stem width = otherKind.fileName other otherWidth ↔
      kind = otherKind ∧ stem = other ∧ width = otherWidth := by
  constructor
  · intro h
    cases kind with
    | lines =>
      cases otherKind with
      | lines => exact ⟨rfl, englishName_injective h⟩
      | picture => exact absurd h (englishName_ne_pictureName _ _ _ _)
    | picture =>
      cases otherKind with
      | lines => exact absurd h.symm (englishName_ne_pictureName _ _ _ _)
      | picture => exact ⟨rfl, pictureName_injective h⟩
  · rintro ⟨rfl, rfl, rfl⟩
    rfl

theorem isName_leaf (kind : FileKind) (stem : String) (width : UInt64) :
    Path.IsName (kind.fileName (Path.leaf stem) width) :=
  match kind with
  | .lines => isName_englishName (Path.slash_not_mem_leaf stem) width
  | .picture => isName_pictureName (Path.slash_not_mem_leaf stem) width

theorem within_fileName (kind : FileKind) (folder stem : String) (width : UInt64) :
    Path.within folder (kind.fileName stem width) =
      Path.within (Path.folderOf folder stem) (kind.fileName (Path.leaf stem) width) := by
  have hsplit : kind.fileName stem width =
      Path.front stem ++ kind.fileName (Path.leaf stem) width := by
    simp only [fileName, ← String.append_assoc, Path.front_append_leaf]
  rw [hsplit, Path.within_append (Path.isFront_front stem) (kind.isName_leaf stem width)]
  rfl

theorem textIn?_leaf (kind : FileKind) (d : Directory) (folder stem : String) (width : UInt64) :
    d.textIn? folder (kind.fileName stem width) =
      d.textIn? (Path.folderOf folder stem) (kind.fileName (Path.leaf stem) width) := by
  unfold Directory.textIn?
  rw [within_fileName]

end

end FileKind

section

variable {kind : FileKind} {d saved : Directory} {folder stem text : String} {width : UInt64}

theorem textIn?_of_write_fileName
    (h : d.write (Path.ofText (Path.within folder (kind.fileName stem width))) text = .ok saved)
    (otherKind : FileKind) (other : String) (otherWidth : UInt64) :
    saved.textIn? folder (otherKind.fileName other otherWidth) =
      if kind = otherKind ∧ width = otherWidth ∧ d.SamePlace folder stem other then some text
      else d.textIn? folder (otherKind.fileName other otherWidth) := by
  rw [FileKind.within_fileName] at h
  rw [otherKind.textIn?_leaf saved, otherKind.textIn?_leaf d,
    Directory.textIn?_of_write (kind.isName_leaf stem width) (otherKind.isName_leaf other _) h]
  simp only [FileKind.fileName_inj, Directory.SamePlace, and_assoc, and_left_comm]

theorem samePlace_of_write_fileName
    (h : d.write (Path.ofText (Path.within folder (kind.fileName stem width))) text = .ok saved)
    (other : String) :
    saved.SamePlace folder stem other ↔ d.SamePlace folder stem other := by
  rw [FileKind.within_fileName] at h
  unfold Directory.SamePlace
  rw [Directory.resolve?_of_write (kind.isName_leaf stem width) h]

end

namespace Circuit

variable {ε : Type} {c : Circuit} {reader : DiagramReader ε} {d saved later : Directory}
  {folder stem : String}

theorem save_of_hasAt {place : Path} (c : Circuit)
    (h : d.HasAt (Path.folderOf folder stem) place) :
    c.save d folder stem =
      .ok (d.put (place ++ [englishName (Path.leaf stem) c.width]) c.english) := by
  unfold save
  rw [← FileKind.fileName_lines, FileKind.within_fileName]
  exact h.write (FileKind.isName_leaf .lines stem c.width) c.english

theorem write_of_save (h : c.save d folder stem = .ok saved) :
    d.write (Path.ofText (Path.within folder (FileKind.lines.fileName stem c.width))) c.english =
      .ok saved := h

theorem textIn?_of_save (h : c.save d folder stem = .ok saved) (other : String) (width : UInt64) :
    saved.textIn? folder (englishName other width) =
        (if c.width = width ∧ d.SamePlace folder stem other then some c.english
          else d.textIn? folder (englishName other width)) ∧
      saved.textIn? folder (pictureName other width) =
        d.textIn? folder (pictureName other width) := by
  have hwritten (kind : FileKind) := textIn?_of_write_fileName (write_of_save h) kind other width
  constructor
  · simpa only [FileKind.fileName_lines, true_and] using hwritten .lines
  · simpa only [FileKind.fileName_picture, reduceCtorEq, false_and, if_false] using
      hwritten .picture

theorem saveWithPicture_eq_ok_iff :
    c.saveWithPicture reader d folder stem = (later, .ok ()) ↔
      ∃ saved picture, c.save d folder stem = .ok saved ∧
        reader.draw c.width c.english = .ok picture ∧
        saved.write (Path.ofText (Path.within folder (pictureName stem c.width))) picture =
          .ok later := by
  unfold saveWithPicture draw
  cases c.save d folder stem with
  | error error => simp
  | ok saved =>
    cases reader.draw c.width c.english with
    | error failure => simp [Except.mapError]
    | ok picture =>
      dsimp only [Except.mapError]
      cases hwrite : saved.write _ picture <;> simp [hwrite]

theorem saveWithPicture_of_error {error : OutsideError ε}
    (h : c.saveWithPicture reader d folder stem = (later, .error error)) :
    later = d ∨ c.save d folder stem = .ok later := by
  unfold saveWithPicture at h
  split at h
  · exact .inl (Prod.mk.inj h).1.symm
  · rename_i saved hsave
    have hsaved : saved = later := by
      split at h
      · exact (Prod.mk.inj h).1
      · split at h
        · exact (Prod.mk.inj h).1
        · cases h
    exact .inr (hsaved ▸ hsave)

theorem textIn?_of_saveWithPicture
    (h : c.saveWithPicture reader d folder stem = (later, .ok ())) (other : String)
    (width : UInt64) :
    later.textIn? folder (englishName other width) =
        (if c.width = width ∧ d.SamePlace folder stem other then some c.english
          else d.textIn? folder (englishName other width)) ∧
      later.textIn? folder (pictureName other width) =
        (if c.width = width ∧ d.SamePlace folder stem other
          then (reader.draw c.width c.english).toOption
          else d.textIn? folder (pictureName other width)) := by
  obtain ⟨saved, picture, hsave, hdraw, hwrite⟩ := saveWithPicture_eq_ok_iff.1 h
  rw [← FileKind.fileName_picture] at hwrite
  have hlines := textIn?_of_save hsave other width
  have hplace := samePlace_of_write_fileName (write_of_save hsave) other
  have hwritten (kind : FileKind) := textIn?_of_write_fileName hwrite kind other width
  constructor
  · rw [← hlines.1]
    simpa only [FileKind.fileName_lines, reduceCtorEq, false_and, if_false] using hwritten .lines
  · rw [← hlines.2, hdraw]
    simpa only [FileKind.fileName_picture, true_and, hplace, Except.toOption] using
      hwritten .picture

theorem textIn?_saveWithPicture_of_not_same {other : String} {width : UInt64}
    (hother : ¬(c.width = width ∧ d.SamePlace folder stem other)) :
    let later := (c.saveWithPicture reader d folder stem).1
    later.textIn? folder (englishName other width) = d.textIn? folder (englishName other width) ∧
      later.textIn? folder (pictureName other width) =
        d.textIn? folder (pictureName other width) := by
  cases hrun : c.saveWithPicture reader d folder stem with
  | mk later outcome =>
    cases outcome with
    | ok _ => simpa only [if_neg hother] using textIn?_of_saveWithPicture hrun other width
    | error error =>
      obtain rfl | hsave := saveWithPicture_of_error hrun
      · exact ⟨rfl, rfl⟩
      · simpa only [if_neg hother] using textIn?_of_save hsave other width

end Circuit

end CircuitScript
