import CircuitScript.Proofs.Directory
import Mathlib.Data.List.DropRight
/-!
Stems with slashes. Such a stem is a way through folders with a last part behind it, and the files
of the stem are those of the last part in the folder at the end of the way.
-/
namespace CircuitScript

namespace Path

def front (stem : String) : String := String.ofList (stem.toList.rdropWhile (· ≠ '/'))

def leaf (stem : String) : String := String.ofList (stem.toList.rtakeWhile (· ≠ '/'))

/-- A text that is empty or ends in a slash, so that a name can follow it as it is. -/
def IsFront (front : String) : Prop := ∀ c ∈ front.toList.getLast?, c = '/'

section

variable {stem folder way name : String}

theorem front_append_leaf (stem : String) : front stem ++ leaf stem = stem := by
  rw [← String.toList_inj, String.toList_append, front, leaf, String.toList_ofList,
    String.toList_ofList, List.rdropWhile_append_rtakeWhile]

theorem isFront_front (stem : String) : IsFront (front stem) := by
  intro c hc
  rw [front, String.toList_ofList] at hc
  obtain ⟨hne, rfl⟩ := List.mem_getLast?_eq_getLast hc
  simpa using List.rdropWhile_last_not _ _ hne

theorem slash_not_mem_leaf (stem : String) : '/' ∉ (leaf stem).toList := by
  rw [leaf, String.toList_ofList]
  intro hmem
  simpa using List.mem_rtakeWhile_imp hmem

theorem leaf_of_not_mem (h : '/' ∉ stem.toList) : leaf stem = stem := by
  have hkept : stem.toList.rtakeWhile (· ≠ '/') = stem.toList :=
    List.rtakeWhile_eq_self_iff.2 fun c hc => decide_eq_true (ne_of_mem_of_not_mem hc h)
  rw [leaf, hkept, String.ofList_toList]

theorem front_of_not_mem (h : '/' ∉ stem.toList) : front stem = "" := by
  have hdropped : stem.toList.rdropWhile (· ≠ '/') = [] :=
    List.rdropWhile_eq_nil_iff.2 fun c hc => decide_eq_true (ne_of_mem_of_not_mem hc h)
  rw [front, hdropped, String.ofList_nil]

theorem IsFront.append {first second : String} (hfirst : IsFront first) (hsecond : IsFront second) :
    IsFront (first ++ second) := by
  intro c hc
  rw [String.toList_append, List.getLast?_append] at hc
  cases hlast : second.toList.getLast? with
  | none =>
    rw [hlast, Option.none_or] at hc
    exact hfirst c hc
  | some last =>
    rw [hlast, Option.some_or] at hc
    exact hsecond c (hlast ▸ hc)

theorem IsFront.within (h : IsFront way) (folder : String) : IsFront (within folder way) := by
  have hslash : IsFront (folder ++ "/") := by
    intro c hc
    simpa using hc.symm
  -- The way alone, or behind a slash: the folder's own one or one that is put between them.
  unfold Path.within
  split
  · exact h
  split
  · rename_i hlast
    have hfolder : IsFront folder := by
      intro c hc
      simpa [hlast] using hc.symm
    exact hfolder.append h
  · exact hslash.append h

theorem IsFront.within_eq_append (h : IsFront folder) (hname : IsName name) :
    Path.within folder name = folder ++ name := by
  unfold Path.within
  split
  · rename_i hstart
    have hempty : folder = "" := by simpa [hname.head?_ne] using hstart
    simp [hempty]
  split
  · rfl
  · rename_i hstart hlast
    have hne : folder.toList ≠ [] := by
      intro hnil
      exact hstart (.inl (by simpa using hnil))
    have hsome := List.getLast?_eq_some_getLast hne
    exact absurd (hsome.trans (congrArg some (h _ hsome))) hlast

theorem within_append (hway : IsFront way) (hname : IsName name) :
    within folder (way ++ name) = within (within folder way) name := by
  have hhead : (way ++ name).toList.head? = some '/' ↔ way.toList.head? = some '/' := by
    rw [String.toList_append, List.head?_append]
    cases way.toList.head? <;> simp [hname.head?_ne]
  rw [(hway.within folder).within_eq_append hname]
  -- The name does not start at the root, so the way alone decides where both texts start.
  simp only [within, hhead]
  split
  · rfl
  split <;> simp only [String.append_assoc]

def folderOf (folder stem : String) : String := within folder (front stem)

end

end Path

end CircuitScript
