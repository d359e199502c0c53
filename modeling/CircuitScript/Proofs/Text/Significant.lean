import CircuitScript.Proofs.Text.Fields
import Mathlib.Data.List.Basic
import Mathlib.Data.List.Forall2
import Mathlib.Data.List.TakeWhile
/-!
Lines that survive in a file. Reading drops carriage returns at the end of a line and lines of white
space, so a line is read as it was written when it has neither and holds no line feed.
-/
namespace CircuitScript.Text

/-- Reading leaves the line as it is. -/
structure Significant (line : String) : Prop where
  lineFeed_not_mem : '\n' ∉ line.toList
  getLast?_ne : line.toList.getLast? ≠ some '\r'
  isBlank_eq : isBlank line.toList = false

theorem significant_iff {line : String} :
    Significant line ↔
      '\n' ∉ line.toList ∧ line.toList.getLast? ≠ some '\r' ∧ isBlank line.toList = false :=
  ⟨fun h => ⟨h.1, h.2, h.3⟩, fun h => ⟨h.1, h.2.1, h.2.2⟩⟩

instance (line : String) : Decidable (Significant line) := decidable_of_iff' _ significant_iff

/-! Lines of a file. -/

theorem dropReturn_of_getLast? {text : List Char} (h : text.getLast? ≠ some '\r') :
    dropReturn text = text :=
  if_neg h

theorem dropReturns_of_getLast? {text : List Char} (h : text.getLast? ≠ some '\r') :
    dropReturns text = text := by
  unfold dropReturns
  rw [List.dropWhile_eq_self_iff.2, List.reverse_reverse]
  intro hpos hreturn
  apply h
  rw [← List.head?_reverse, List.head?_eq_getElem?, List.getElem?_eq_getElem hpos]
  simpa [carriageReturn] using hreturn

theorem getLast?_dropReturns (text : List Char) : (dropReturns text).getLast? ≠ some '\r' := by
  unfold dropReturns
  rw [List.getLast?_reverse]
  intro h
  have hnot := List.head?_dropWhile_not (fun c => decide (c = carriageReturn)) text.reverse
  rw [h] at hnot
  exact absurd hnot (by decide)

theorem mem_of_mem_dropReturns {text : List Char} {c : Char} (h : c ∈ dropReturns text) :
    c ∈ text := by
  have hmem := List.dropWhile_subset _ (List.mem_reverse.1 h)
  exact List.mem_reverse.1 hmem

theorem dropReturns_dropReturn (text : List Char) :
    dropReturns (dropReturn text) = dropReturns text := by
  unfold dropReturn
  split
  · rename_i hlast
    have htext : text = text.dropLast ++ [carriageReturn] :=
      (List.dropLast_append_getLast? _ hlast).symm
    have hreverse : text.reverse = carriageReturn :: text.dropLast.reverse := by
      rw [← List.reverse_concat', ← htext]
    rw [dropReturns, dropReturns, hreverse, List.dropWhile_cons_of_pos (by decide)]
  · rfl

def readPiece (piece : List Char) : String := String.ofList (dropReturns piece)

/-- Reading drops every carriage return, so the one of the line ending needs no care, and neither
does the empty piece at the end. -/
theorem significantLines_eq (text : String) :
    significantLines text =
      ((cut '\n' text.toList).map readPiece).filter fun line => !isBlank line.toList := by
  unfold significantLines lines
  rw [List.map_map]
  change List.filter _ (List.map _ (linesOfPieces (cut '\n' text.toList))) = _
  induction cut '\n' text.toList with
  | nil => rfl
  | cons piece others ih =>
    cases others with
    | nil =>
      cases piece with
      | nil => rfl
      | cons c rest => simp [linesOfPieces, readPiece]
    | cons second others =>
      rw [linesOfPieces.eq_3 _ _ (by simp), List.map_cons, List.map_cons, List.filter_cons, ih,
        List.filter_cons]
      simp [readPiece, dropReturns_dropReturn]

theorem significantLines_append (text rest : List Char) :
    significantLines (String.ofList (text ++ '\n' :: rest)) =
      significantLines (String.ofList text) ++ significantLines (String.ofList rest) := by
  simp only [significantLines_eq, String.toList_ofList, cut_append_separator, List.map_append,
    List.filter_append]

theorem toList_ofLines_cons (line : String) (lines : List String) :
    (ofLines (line :: lines)).toList = line.toList ++ '\n' :: (ofLines lines).toList := by
  simp [ofLines, lineFeed]

theorem significantLines_ofLines (lines : List String) :
    significantLines (ofLines lines) = lines.flatMap significantLines := by
  induction lines with
  | nil => rfl
  | cons line lines ih =>
    have happend := significantLines_append line.toList (ofLines lines).toList
    rw [String.ofList_toList, String.ofList_toList, ih] at happend
    rw [List.flatMap_cons, ← happend, ← toList_ofLines_cons, String.ofList_toList]

theorem significant_of_mem {line text : String} (h : line ∈ significantLines text) :
    Significant line := by
  rw [significantLines_eq, List.mem_filter, List.mem_map] at h
  obtain ⟨⟨piece, hpiece, rfl⟩, hblank⟩ := h
  have hfeed := not_mem_of_mem_cut hpiece
  refine ⟨?_, ?_, by simpa using hblank⟩
  · rw [readPiece, String.toList_ofList]
    exact fun hmem => hfeed (mem_of_mem_dropReturns hmem)
  · rw [readPiece, String.toList_ofList]
    exact getLast?_dropReturns piece

theorem Significant.significantLines_eq {line : String} (h : Significant line) :
    significantLines line = [line] := by
  rw [Text.significantLines_eq, cut_of_not_mem h.lineFeed_not_mem, List.map_singleton, readPiece,
    dropReturns_of_getLast? h.getLast?_ne, String.ofList_toList]
  simp [h.isBlank_eq]

theorem significantLines_ofLines_eq_iff {lines : List String} :
    significantLines (ofLines lines) = lines ↔ ∀ line ∈ lines, Significant line := by
  rw [significantLines_ofLines]
  constructor
  · intro h line hline
    rw [← h] at hline
    obtain ⟨text, -, hmem⟩ := List.mem_flatMap.1 hline
    exact significant_of_mem hmem
  · intro h
    induction lines with
    | nil => rfl
    | cons line lines ih =>
      rw [List.flatMap_cons, (h line List.mem_cons_self).significantLines_eq,
        ih fun x hx => h x (List.mem_cons_of_mem _ hx)]
      rfl

theorem lines_ofLines {lines : List String} (h : ∀ line ∈ lines, Significant line) :
    Text.lines (ofLines lines) = lines := by
  unfold Text.lines
  induction lines with
  | nil => rfl
  | cons line rest ih =>
    have hline := h line List.mem_cons_self
    rw [toList_ofLines_cons, lineFeed, cut_append_cons hline.lineFeed_not_mem,
      linesOfPieces.eq_3 _ _ (cut_ne_nil '\n' _), List.map_cons,
      dropReturn_of_getLast? hline.getLast?_ne, String.ofList_toList]
    exact congrArg _ (ih fun x hx => h x (List.mem_cons_of_mem _ hx))

/-! Texts that differ in words only. -/

structure IsWord (text : List Char) : Prop where
  ne_nil : text ≠ []
  isWhiteSpace_eq : ∀ c ∈ text, isWhiteSpace c = false

/-- The texts are the same but for words in the place of words. -/
inductive Alike : List Char → List Char → Prop
  | nil : Alike [] []
  | cons (c : Char) {a b : List Char} (h : Alike a b) : Alike (c :: a) (c :: b)
  | word {x y a b : List Char} (hx : IsWord x) (hy : IsWord y) (h : Alike a b) :
      Alike (x ++ a) (y ++ b)

theorem IsWord.not_mem {word : List Char} {c : Char} (h : IsWord word)
    (hc : isWhiteSpace c = true) : c ∉ word := by
  intro hmem
  rw [h.isWhiteSpace_eq c hmem] at hc
  cases hc

theorem IsWord.isBlank_append {word : List Char} (h : IsWord word) (rest : List Char) :
    isBlank (word ++ rest) = false := by
  obtain ⟨c, word, rfl⟩ := List.exists_cons_of_ne_nil h.ne_nil
  simp [isBlank, h.isWhiteSpace_eq c List.mem_cons_self]

namespace Alike

variable {a b : List Char}

theorem append (part : List Char) (h : Alike a b) : Alike (part ++ a) (part ++ b) := by
  induction part with
  | nil => exact h
  | cons c part ih => exact .cons c ih

theorem mem_iff {c : Char} (hc : isWhiteSpace c = true) (h : Alike a b) : c ∈ a ↔ c ∈ b := by
  induction h with
  | nil => rfl
  | cons d _ ih => rw [List.mem_cons, List.mem_cons, ih]
  | word hx hy _ ih => simp [hx.not_mem hc, hy.not_mem hc, ih]

theorem isBlank_eq (h : Alike a b) : isBlank a = isBlank b := by
  induction h with
  | nil => rfl
  | cons c _ ih =>
    unfold isBlank at ih
    simp [isBlank, ih]
  | word hx hy _ _ => rw [hx.isBlank_append, hy.isBlank_append]

theorem eq_nil_iff (h : Alike a b) : a = [] ↔ b = [] := by
  induction h with
  | nil => rfl
  | cons => simp
  | word hx hy => simp [hx.ne_nil, hy.ne_nil]

theorem getLast?_eq_iff {c : Char} (hc : isWhiteSpace c = true) (h : Alike a b) :
    a.getLast? = some c ↔ b.getLast? = some c := by
  induction h with
  | nil => rfl
  | @cons d a b h ih =>
    cases a with
    | nil => rw [h.eq_nil_iff.1 rfl]
    | cons a₀ a =>
      obtain ⟨b₀, b, rfl⟩ := List.exists_cons_of_ne_nil (mt h.eq_nil_iff.2 (List.cons_ne_nil a₀ a))
      rw [List.getLast?_cons_cons, List.getLast?_cons_cons, ih]
  | @word x y a b hx hy h ih =>
    by_cases ha : a = []
    · rw [ha, h.eq_nil_iff.1 ha, List.append_nil, List.append_nil]
      constructor
      · intro hlast
        exact absurd (List.mem_of_getLast? hlast) (hx.not_mem hc)
      · intro hlast
        exact absurd (List.mem_of_getLast? hlast) (hy.not_mem hc)
    · rw [List.getLast?_append_of_ne_nil _ ha,
        List.getLast?_append_of_ne_nil _ (mt h.eq_nil_iff.2 ha), ih]

end Alike

theorem significant_iff_of_alike {line other : String} (h : Alike line.toList other.toList) :
    Significant line ↔ Significant other := by
  rw [significant_iff, significant_iff, h.mem_iff (by decide), h.isBlank_eq, ne_eq, ne_eq,
    h.getLast?_eq_iff (by decide)]

def SameOrWords (field other : String) : Prop :=
  field = other ∨ IsWord field.toList ∧ IsWord other.toList

theorem SameOrWords.alike {field other : String} {a b : List Char} (h : SameOrWords field other)
    (hrest : Alike a b) : Alike (field.toList ++ a) (other.toList ++ b) := by
  obtain rfl | ⟨hx, hy⟩ := h
  · exact hrest.append _
  · exact .word hx hy hrest

theorem alike_line {fields others : List String} (h : List.Forall₂ SameOrWords fields others) :
    Alike (line fields).toList (line others).toList := by
  rw [line, line, String.toList_ofList, String.toList_ofList]
  induction h with
  | nil => exact .nil
  | @cons field other fields others hhead htail ih =>
    cases htail with
    | nil =>
      have h := hhead.alike .nil
      rwa [List.append_nil, List.append_nil] at h
    | cons _ _ => exact hhead.alike (.cons _ ih)

end CircuitScript.Text
