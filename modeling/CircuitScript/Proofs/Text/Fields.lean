import CircuitScript.Text.Lines
/-!
Fields and lines, said without cutting: which lists of fields a text splits into, what joining
does to parts that hold separators themselves, and the one line of a text with one line feed.
-/
namespace CircuitScript.Text

/-- A text split at its tabs: the fields hold none, and tabs between them give the text. -/
structure IsSplit (text : String) (parts : List String) : Prop where
  separator_not_mem : ∀ part ∈ parts, '\t' ∉ part.toList
  eq_intercalate : text = "\t".intercalate parts

theorem toList_intercalate (separator : Char) (parts : List String) :
    ((String.singleton separator).intercalate parts).toList =
      joined separator (parts.map String.toList) := by
  induction parts with
  | nil => simp [joined]
  | cons part others ih =>
    cases others with
    | nil => simp [joined]
    | cons second others =>
      rw [String.intercalate_cons_cons, String.toList_append, String.toList_append, ih]
      simp [joined]

theorem line_eq_intercalate (parts : List String) : line parts = "\t".intercalate parts := by
  rw [← String.toList_inj, line, String.toList_ofList]
  exact (toList_intercalate fieldSeparator parts).symm

theorem isSplit_fields (text : String) : IsSplit text (fields text) where
  separator_not_mem _ h := not_mem_of_mem_fields h
  eq_intercalate := by rw [← line_eq_intercalate, line_fields]

theorem isSplit_iff {text : String} {parts : List String} (hne : parts ≠ []) :
    IsSplit text parts ↔ fields text = parts := by
  constructor
  · intro h
    rw [h.eq_intercalate, ← line_eq_intercalate]
    exact fields_line hne h.separator_not_mem
  · rintro rfl
    exact isSplit_fields text

theorem cut_append_separator (separator : Char) (part rest : List Char) :
    cut separator (part ++ separator :: rest) = cut separator part ++ cut separator rest := by
  induction part with
  | nil => simp [cut]
  | cons c part ih =>
    rw [List.cons_append, cut, ih, cut]
    split
    · rfl
    · cases h : cut separator part with
      | nil => exact absurd h (cut_ne_nil separator part)
      | cons first others => rfl

theorem cut_joined_eq_flatMap (separator : Char) {parts : List (List Char)} (hne : parts ≠ []) :
    cut separator (joined separator parts) = parts.flatMap (cut separator) := by
  induction parts with
  | nil => exact absurd rfl hne
  | cons part others ih =>
    cases others with
    | nil => simp [joined]
    | cons second others =>
      rw [joined.eq_3 _ _ _ (by simp), cut_append_separator, ih (by simp)]
      rfl

theorem fields_line_eq_flatMap {words : List String} (hne : words ≠ []) :
    fields (line words) = words.flatMap fields := by
  rw [fields, line, String.toList_ofList, cut_joined_eq_flatMap _ (by simpa using hne),
    List.flatMap_map, List.map_flatMap]
  rfl

theorem fields_of_not_mem {text : String} (h : fieldSeparator ∉ text.toList) :
    fields text = [text] := by
  simp [fields, cut_of_not_mem h]

theorem flatMap_fields_of_not_mem {words : List String}
    (h : ∀ word ∈ words, fieldSeparator ∉ word.toList) : words.flatMap fields = words := by
  induction words with
  | nil => rfl
  | cons word others ih =>
    rw [List.flatMap_cons, fields_of_not_mem (h word List.mem_cons_self),
      ih fun w hw => h w (List.mem_cons_of_mem _ hw)]
    rfl

theorem mem_of_mem_joined {separator c : Char} {parts : List (List Char)}
    (h : c ∈ joined separator parts) : c = separator ∨ ∃ part ∈ parts, c ∈ part := by
  induction parts with
  | nil => simp [joined] at h
  | cons part others ih =>
    cases others with
    | nil => exact .inr ⟨part, by simp, h⟩
    | cons second others =>
      rw [joined.eq_3 _ _ _ (by simp), List.mem_append, List.mem_cons] at h
      obtain hp | hs | ho := h
      · exact .inr ⟨part, by simp, hp⟩
      · exact .inl hs
      · obtain hs | ⟨p, hp, hc⟩ := ih ho
        · exact .inl hs
        · exact .inr ⟨p, List.mem_cons_of_mem _ hp, hc⟩

theorem mem_of_mem_line {c : Char} {words : List String} (h : c ∈ (line words).toList) :
    c = fieldSeparator ∨ ∃ word ∈ words, c ∈ word.toList := by
  rw [line, String.toList_ofList] at h
  obtain hs | ⟨part, hp, hc⟩ := mem_of_mem_joined h
  · exact .inl hs
  · obtain ⟨word, hw, rfl⟩ := List.mem_map.1 hp
    exact .inr ⟨word, hw, hc⟩

theorem lines_push_lineFeed {text : String} (hf : lineFeed ∉ text.toList)
    (hr : carriageReturn ∉ text.toList) : lines (text.push lineFeed) = [text] := by
  have hcut : cut lineFeed (text.push lineFeed).toList = [text.toList, []] := by
    rw [String.toList_push, cut_append_separator, cut_of_not_mem hf]
    rfl
  have hend : text.toList.getLast? ≠ some carriageReturn := fun h =>
    hr (List.mem_of_getLast? h)
  rw [lines, hcut]
  simp [linesOfPieces, dropReturn, hend]

end CircuitScript.Text
