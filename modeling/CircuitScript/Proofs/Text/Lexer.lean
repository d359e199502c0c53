import CircuitScript.Text.Lexer
import Mathlib.Data.List.Infix
/-!
Lexemes by longest match, said without the search: each word fits its rule, and no longer beginning
of what is left fits any. A lexer for the rules is whatever finds these lexemes.
-/
namespace CircuitScript.Text

variable {τ : Type} {rules : List (Rule τ)} {rule : Rule τ} {word rest text : List Char}

/-- In `word ++ rest` the word is the longest beginning that a rule takes. -/
structure IsLongest (rules : List (Rule τ)) (rule : Rule τ) (word rest : List Char) : Prop where
  mem : rule ∈ rules
  ne_nil : word ≠ []
  fits : rule.fits word = true
  not_fits : ∀ more, more ≠ [] → more <+: rest → ∀ other ∈ rules, other.fits (word ++ more) = false

inductive Splits (rules : List (Rule τ)) : List Char → List τ → Prop
  | nil : Splits rules [] []
  | cons {rule : Rule τ} {word rest : List Char} {lexeme : τ} {lexemes : List τ}
      (h : IsLongest rules rule word rest) (hl : rule.lexeme? word = some lexeme)
      (hr : Splits rules rest lexemes) : Splits rules (word ++ rest) (lexeme :: lexemes)

/-- A lexer finds the lexemes of a text where there are any. -/
def IsLexer (rules : List (Rule τ)) (lexer : List Char → Option (List τ)) : Prop :=
  ∀ text lexemes, lexer text = some lexemes ↔ Splits rules text lexemes

/-- No word is taken by two rules, so their order does not matter. -/
def Apart (rules : List (Rule τ)) : Prop :=
  ∀ word, ∀ a ∈ rules, ∀ b ∈ rules, a.fits word = true → b.fits word = true → a = b

theorem longestWord?_sound {n : Nat} (hn : n ≤ text.length)
    (h : longestWord? rules text n = some (word, rule)) :
    word ≠ [] ∧ word <+: text ∧ rule ∈ rules ∧ rule.fits word = true ∧
      ∀ m, word.length < m → m ≤ n → ∀ other ∈ rules, other.fits (text.take m) = false := by
  induction n with
  | zero => cases h
  | succ n ih =>
    rw [longestWord?] at h
    split at h
    · rename_i found hfind
      cases h
      have hlength : (text.take (n + 1)).length = n + 1 := List.length_take_of_le hn
      refine ⟨List.ne_nil_of_length_eq_add_one hlength, List.take_prefix _ _,
        List.mem_of_find?_eq_some hfind, by simpa using List.find?_some hfind, ?_⟩
      omega
    · rename_i hfind
      obtain ⟨hne, hword, hmem, hfits, hlonger⟩ := ih (Nat.le_of_succ_le hn) h
      refine ⟨hne, hword, hmem, hfits, fun m hlt hle => ?_⟩
      obtain hle | rfl := Nat.le_or_eq_of_le_succ hle
      · exact hlonger m hlt hle
      · intro other hother
        simpa using List.find?_eq_none.1 hfind other hother

theorem longestWord?_complete (ha : Apart rules) (h : IsLongest rules rule word rest) {n : Nat}
    (hl : word.length ≤ n) (hn : n ≤ (word ++ rest).length) :
    longestWord? rules (word ++ rest) n = some (word, rule) := by
  induction n with
  | zero => exact absurd (List.length_eq_zero_iff.1 (Nat.le_zero.1 hl)) h.ne_nil
  | succ n ih =>
    rw [longestWord?, List.take_append, List.take_of_length_le hl]
    obtain hlt | heq := Nat.lt_or_eq_of_le hl
    · have hmore : rest.take (n + 1 - word.length) ≠ [] := by
        rw [List.length_append] at hn
        rw [← List.length_pos_iff, List.length_take]
        omega
      have hnone : rules.find? (·.fits (word ++ rest.take (n + 1 - word.length))) = none := by
        rw [List.find?_eq_none]
        intro other hother
        simpa using h.not_fits _ hmore (List.take_prefix _ _) other hother
      rw [hnone]
      exact ih (Nat.le_of_lt_succ hlt) (Nat.le_of_succ_le hn)
    · rw [heq, Nat.sub_self, List.take_zero, List.append_nil]
      cases hfind : rules.find? (·.fits word) with
      | none => exact absurd h.fits (List.find?_eq_none.1 hfind rule h.mem)
      | some found =>
        have hfits : found.fits word = true := by simpa using List.find?_some hfind
        rw [ha word found (List.mem_of_find?_eq_some hfind) rule h.mem hfits h.fits]

theorem longestWord?_eq_some_iff (ha : Apart rules) :
    longestWord? rules text text.length = some (word, rule) ↔
      ∃ rest, text = word ++ rest ∧ IsLongest rules rule word rest := by
  constructor
  · intro h
    obtain ⟨hne, ⟨rest, rfl⟩, hmem, hfits, hlonger⟩ := longestWord?_sound (Nat.le_refl _) h
    refine ⟨rest, rfl, hmem, hne, hfits, ?_⟩
    rintro more hmore ⟨others, rfl⟩ other hother
    have hpos := List.length_pos_iff.2 hmore
    have hnot := hlonger (word ++ more).length (by simpa) (by simp) other hother
    rwa [← List.append_assoc, List.take_left] at hnot
  · rintro ⟨rest, rfl, h⟩
    exact longestWord?_complete ha h (by simp) (Nat.le_refl _)

theorem lexemesAfter?_append (word rest : List Char) :
    lexemesAfter? rules word.length (word ++ rest) = lexemes? rules rest := by
  induction word with
  | nil => rfl
  | cons c word ih => exact ih

theorem lexemes?_append (ha : Apart rules) (h : IsLongest rules rule word rest) :
    lexemes? rules (word ++ rest) =
      (rule.lexeme? word).bind fun lexeme => (lexemes? rules rest).map (lexeme :: ·) := by
  obtain ⟨c, tail, rfl⟩ := List.exists_cons_of_ne_nil h.ne_nil
  have hlongest := longestWord?_complete ha h (by simp) (Nat.le_refl _)
  rw [← lexemesAfter?_append tail rest]
  change Option.bind (longestWord? rules (c :: tail ++ rest) (c :: tail ++ rest).length) _ = _
  rw [hlongest]
  rfl

theorem splits_of_lexemesAfter? (ha : Apart rules) {passed : Nat} {lexemes : List τ}
    (h : lexemesAfter? rules passed text = some lexemes) :
    Splits rules (text.drop passed) lexemes := by
  induction text generalizing passed lexemes with
  | nil =>
    simp only [lexemesAfter?, Option.some.injEq] at h
    subst h
    rw [List.drop_nil]
    exact .nil
  | cons c rest ih =>
    cases passed with
    | succ passed => exact ih h
    | zero =>
      simp only [lexemesAfter?, Option.bind_eq_bind, Option.bind_eq_some_iff] at h
      obtain ⟨⟨word, rule⟩, hword, lexeme, hl, hmap⟩ := h
      obtain ⟨others, hothers, rfl⟩ := Option.map_eq_some_iff.1 hmap
      obtain ⟨left, htext, hlongest⟩ := (longestWord?_eq_some_iff ha).1 hword
      obtain ⟨first, tail, rfl⟩ := List.exists_cons_of_ne_nil hlongest.ne_nil
      rw [List.cons_append, List.cons.injEq] at htext
      obtain ⟨rfl, rfl⟩ := htext
      have hr := ih hothers
      rw [List.length_cons, Nat.add_sub_cancel, List.drop_left] at hr
      exact .cons hlongest hl hr

theorem isLexer_lexemes? (ha : Apart rules) : IsLexer rules (lexemes? rules) := by
  intro text lexemes
  constructor
  · exact splits_of_lexemesAfter? ha
  · intro h
    induction h with
    | nil => rfl
    | cons h hl hr ih => simp [lexemes?_append ha h, hl, ih]

end CircuitScript.Text
