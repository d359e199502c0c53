import CircuitScript.Text.Blank
import Mathlib.Data.List.TakeWhile
/-!
Texts without white space at their ends. Trimming gives one, leaves one as it is, and does not see
what white space is around a word.
-/
namespace CircuitScript.Text

structure IsTrimmed (text : List Char) : Prop where
  head : ∀ c ∈ text.head?, isWhiteSpace c = false
  last : ∀ c ∈ text.getLast?, isWhiteSpace c = false

def IsPadded (padded word : List Char) : Prop :=
  ∃ before after, padded = before ++ (word ++ after) ∧ isBlank before = true ∧ isBlank after = true

theorem dropWhile_blank_append {blank : List Char} (h : isBlank blank = true) (text : List Char) :
    (blank ++ text).dropWhile isWhiteSpace = text.dropWhile isWhiteSpace :=
  List.dropWhile_append_of_pos (List.all_eq_true.1 h)

theorem dropWhile_eq_nil_iff_isBlank {text : List Char} :
    text.dropWhile isWhiteSpace = [] ↔ isBlank text = true := by
  rw [List.dropWhile_eq_nil_iff, isBlank, List.all_eq_true]

theorem trimmedEnd_append_blank {blank : List Char} (h : isBlank blank = true) (text : List Char) :
    trimmedEnd (text ++ blank) = trimmedEnd text := by
  have hreverse : isBlank blank.reverse = true := by rwa [isBlank, List.all_reverse]
  rw [trimmedEnd, List.reverse_append, dropWhile_blank_append hreverse, trimmedEnd]

theorem trimmed_of_isPadded {padded word : List Char} (h : IsPadded padded word) :
    trimmed padded = trimmed word := by
  obtain ⟨before, after, rfl, hbefore, hafter⟩ := h
  rw [trimmed, trimmed, dropWhile_blank_append hbefore, List.dropWhile_append]
  split
  · rename_i hword
    rw [List.isEmpty_iff.1 hword, dropWhile_eq_nil_iff_isBlank.2 hafter]
  · exact trimmedEnd_append_blank hafter _

theorem trimmedEnd_isPrefix (text : List Char) : trimmedEnd text <+: text := by
  have hsuffix := List.dropWhile_suffix isWhiteSpace (l := text.reverse)
  simpa [trimmedEnd] using List.reverse_prefix.2 hsuffix

theorem mem_of_mem_trimmed {text : List Char} {c : Char} (h : c ∈ trimmed text) : c ∈ text :=
  List.dropWhile_subset _ ((trimmedEnd_isPrefix _).subset h)

theorem head?_dropWhile_isWhiteSpace {text : List Char} :
    ∀ c ∈ (text.dropWhile isWhiteSpace).head?, isWhiteSpace c = false := by
  intro c hc
  have hd := List.head?_dropWhile_not isWhiteSpace text
  simpa [Option.mem_def.1 hc] using hd

theorem isTrimmed_trimmed (text : List Char) : IsTrimmed (trimmed text) where
  head := by
    intro c hc
    obtain ⟨rest, hrest⟩ := trimmedEnd_isPrefix (text.dropWhile isWhiteSpace)
    apply @head?_dropWhile_isWhiteSpace text
    rw [← hrest, List.head?_append]
    simp [Option.mem_def.1 hc, ← trimmed.eq_1]
  last := by
    intro c hc
    rw [trimmed, trimmedEnd, List.getLast?_reverse] at hc
    exact head?_dropWhile_isWhiteSpace c hc

theorem dropWhile_eq_self_of_head {text : List Char}
    (h : ∀ c ∈ text.head?, isWhiteSpace c = false) : text.dropWhile isWhiteSpace = text := by
  cases text with
  | nil => rfl
  | cons c text => exact List.dropWhile_cons_of_neg (by simp [h c rfl])

theorem IsTrimmed.trimmed_eq {text : List Char} (h : IsTrimmed text) : trimmed text = text := by
  have hlast : ∀ c ∈ text.reverse.head?, isWhiteSpace c = false := by
    rw [List.head?_reverse]
    exact h.last
  rw [trimmed, dropWhile_eq_self_of_head h.head, trimmedEnd, dropWhile_eq_self_of_head hlast,
    List.reverse_reverse]

theorem trimmed_trimmed (text : List Char) : trimmed (trimmed text) = trimmed text :=
  (isTrimmed_trimmed text).trimmed_eq

theorem trimmed_eq_nil_iff {text : List Char} : trimmed text = [] ↔ isBlank text = true := by
  rw [← dropWhile_eq_nil_iff_isBlank]
  constructor
  · intro h
    have hblank : isBlank (text.dropWhile isWhiteSpace) = true := by
      rw [trimmed, trimmedEnd, List.reverse_eq_nil_iff, dropWhile_eq_nil_iff_isBlank] at h
      rwa [isBlank, List.all_reverse] at h
    rwa [← dropWhile_eq_nil_iff_isBlank, dropWhile_eq_self_of_head head?_dropWhile_isWhiteSpace]
      at hblank
  · intro h
    rw [trimmed, h]
    rfl

end CircuitScript.Text
