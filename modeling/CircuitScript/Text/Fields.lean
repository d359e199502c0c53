/-!
Lines of separated fields. A text with `n` separators has `n + 1` fields, so every text has a first
field, and cutting then joining gives the text back.
-/
namespace CircuitScript.Text

def cut (separator : Char) : List Char → List (List Char)
  | [] => [[]]
  | c :: rest =>
    if c = separator then [] :: cut separator rest
    else match cut separator rest with
      | [] => [[c]]
      | first :: others => (c :: first) :: others

theorem cut_ne_nil (separator : Char) (text : List Char) : cut separator text ≠ [] := by
  cases text with
  | nil => simp [cut]
  | cons c rest =>
    rw [cut]
    split
    · simp
    · split <;> simp

def joined (separator : Char) : List (List Char) → List Char
  | [] => []
  | [part] => part
  | part :: others => part ++ separator :: joined separator others

@[simp] theorem joined_cut (separator : Char) (text : List Char) :
    joined separator (cut separator text) = text := by
  induction text with
  | nil => rfl
  | cons c rest ih =>
    have hne := cut_ne_nil separator rest
    rw [cut]
    cases h : cut separator rest with
    | nil => exact absurd h hne
    | cons first others =>
      rw [h] at ih
      split
      · simp_all [joined]
      · cases others <;> simp_all [joined]

theorem cut_of_not_mem {separator : Char} {text : List Char} (h : separator ∉ text) :
    cut separator text = [text] := by
  induction text with
  | nil => rfl
  | cons c rest ih =>
    obtain ⟨hc, hr⟩ := not_or.1 (mt List.mem_cons.2 h)
    rw [cut, if_neg (Ne.symm hc), ih hr]

theorem cut_append_cons {separator : Char} {part : List Char} (h : separator ∉ part)
    (rest : List Char) :
    cut separator (part ++ separator :: rest) = part :: cut separator rest := by
  induction part with
  | nil => simp [cut]
  | cons c part ih =>
    obtain ⟨hc, hp⟩ := not_or.1 (mt List.mem_cons.2 h)
    rw [List.cons_append, cut, if_neg (Ne.symm hc), ih hp]

/-- Parts free of the separator are found again, so no two lists of them are written alike. -/
theorem cut_joined {separator : Char} {parts : List (List Char)} (hne : parts ≠ [])
    (h : ∀ part ∈ parts, separator ∉ part) : cut separator (joined separator parts) = parts := by
  induction parts with
  | nil => exact absurd rfl hne
  | cons part others ih =>
    cases others with
    | nil => exact cut_of_not_mem (h part List.mem_cons_self)
    | cons second others =>
      rw [joined.eq_3 _ _ _ (by simp), cut_append_cons (h part List.mem_cons_self),
        ih (by simp) (fun p hp => h p (List.mem_cons_of_mem _ hp))]

theorem not_mem_of_mem_cut {separator : Char} {text part : List Char}
    (h : part ∈ cut separator text) : separator ∉ part := by
  induction text generalizing part with
  | nil => simp_all [cut]
  | cons c rest ih =>
    rw [cut] at h
    split at h
    · rcases List.mem_cons.1 h with rfl | h
      · simp
      · exact ih h
    · next hc =>
      cases hr : cut separator rest with
      | nil => exact absurd hr (cut_ne_nil _ _)
      | cons first others =>
        rw [hr] at h ih
        rcases List.mem_cons.1 h with rfl | h
        · have := @ih first List.mem_cons_self
          simp_all [eq_comm]
        · exact ih (List.mem_cons_of_mem _ h)

theorem length_le_of_mem_cut {separator : Char} {text part : List Char}
    (h : part ∈ cut separator text) : part.length ≤ text.length := by
  induction text generalizing part with
  | nil => simp_all [cut]
  | cons c rest ih =>
    rw [cut] at h
    split at h
    · rcases List.mem_cons.1 h with rfl | h
      · simp
      · exact Nat.le_succ_of_le (ih h)
    · cases hr : cut separator rest with
      | nil => exact absurd hr (cut_ne_nil _ _)
      | cons first others =>
        rw [hr] at h ih
        rcases List.mem_cons.1 h with rfl | h
        · simpa using ih List.mem_cons_self
        · exact Nat.le_succ_of_le (ih (List.mem_cons_of_mem _ h))

def fieldSeparator : Char := '\t'

def fields (line : String) : List String :=
  (cut fieldSeparator line.toList).map String.ofList

def line (fields : List String) : String :=
  String.ofList (joined fieldSeparator (fields.map String.toList))

theorem fields_ne_nil (text : String) : fields text ≠ [] := by
  simp [fields, cut_ne_nil]

@[simp] theorem line_fields (text : String) : line (fields text) = text := by
  simp [line, fields, Function.comp_def]

theorem fields_line {parts : List String} (hne : parts ≠ [])
    (h : ∀ part ∈ parts, fieldSeparator ∉ part.toList) : fields (line parts) = parts := by
  rw [fields, line, String.toList_ofList, cut_joined (by simpa using hne)]
  · simp [Function.comp_def]
  · simpa using h

theorem not_mem_of_mem_fields {text field : String} (h : field ∈ fields text) :
    fieldSeparator ∉ field.toList := by
  obtain ⟨part, hp, rfl⟩ := List.mem_map.1 h
  simpa using not_mem_of_mem_cut hp

end CircuitScript.Text
