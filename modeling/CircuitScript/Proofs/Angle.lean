import CircuitScript.Proofs.Placeholder.Reading
import CircuitScript.Token
/-!
Angles, said without the reader, and what negation does to them: the negation of a legal text of
the hash grammar is legal again, of the same kind, and of the opposite sign.
-/
namespace CircuitScript.Angle

/-- A finite number is a literal; what else the grammar calls legal is a placeholder. -/
inductive IsToken (grammar : PlaceholderGrammar) : String → Angle → Prop
  | literal {token : String} (h : isFiniteNumber token = true) :
      IsToken grammar token (.literal token)
  | placeholder {token : String} (hn : isFiniteNumber token = false)
      (h : grammar.isLegal token = true) : IsToken grammar token (.placeholder token)

section

variable {grammar : PlaceholderGrammar} {token : String} {angle : Angle}

theorem read?_eq_some_iff : read? grammar token = some angle ↔ IsToken grammar token angle := by
  unfold read?
  constructor
  · intro h
    split at h
    · rename_i hf
      cases h
      exact .literal hf
    · rename_i hf
      split at h
      · rename_i hl
        cases h
        exact .placeholder (Bool.eq_false_iff.2 hf) hl
      · cases h
  · intro h
    cases h with
    | literal h => simp [h]
    | placeholder hn h => simp [hn, h]

theorem ofToken_eq_ok_iff : ofToken grammar token = .ok angle ↔ IsToken grammar token angle := by
  rw [← read?_eq_some_iff]
  unfold ofToken
  split <;> simp_all

theorem IsToken.text_eq (h : IsToken grammar token angle) : angle.text = token := by
  cases h <;> rfl

theorem IsToken.unique {other : Angle} (h : IsToken grammar token angle)
    (ho : IsToken grammar token other) : angle = other :=
  Option.some.inj ((read?_eq_some_iff.2 h).symm.trans (read?_eq_some_iff.2 ho))

def ReadsBack (grammar : PlaceholderGrammar) (angle : Angle) : Prop :=
  IsToken grammar angle.text angle

theorem IsToken.readsBack (h : IsToken grammar token angle) : ReadsBack grammar angle := by
  unfold ReadsBack
  rwa [h.text_eq]

end

/-! Texts of the hash grammar. -/

theorem isLegal_hash_iff {token : String} :
    PlaceholderGrammar.hash.isLegal token = true ↔
      ∃ p, Placeholder.IsToken token.toList p := by
  simp only [← Placeholder.readChars?_eq_some_iff]
  exact Option.isSome_iff_exists

theorem isFiniteNumber_iff {text : String} :
    isFiniteNumber text = true ↔
      ∃ literal, Decimal.readLiteral? text.toList = some literal ∧ literal.isFinite = true := by
  unfold isFiniteNumber
  cases Decimal.readLiteral? text.toList <;> simp

theorem isNumberChar_of_isFiniteNumber {text : String} (h : isFiniteNumber text = true) :
    ∀ c ∈ text.toList, Decimal.isNumberChar c = true := by
  obtain ⟨literal, hr, hf⟩ := isFiniteNumber_iff.1 h
  exact Decimal.isNumberChar_of_readLiteral? hr hf

theorem isFiniteNumber_eq_false_of_hash_mem {text : String} (h : '#' ∈ text.toList) :
    isFiniteNumber text = false := by
  rw [Bool.eq_false_iff]
  intro hf
  exact absurd (isNumberChar_of_isFiniteNumber hf '#' h) (by decide)

theorem IsToken.isTokenChar {token : String} {angle : Angle} (h : IsToken .hash token angle) :
    ∀ c ∈ token.toList, Placeholder.isTokenChar c = true := by
  intro c hc
  cases h with
  | literal h =>
    exact Placeholder.isTokenChar_of_isNumberChar (isNumberChar_of_isFiniteNumber h c hc)
  | placeholder hn h =>
    obtain ⟨p, hp⟩ := isLegal_hash_iff.1 h
    exact hp.isTokenChar c hc

/-! Toggling a minus. -/

theorem toggleMinus_of_head {text : List Char} (h : ∀ c ∈ text.head?, c ≠ '-' ∧ c ≠ '+') :
    toggleMinus text = '-' :: text := by
  unfold toggleMinus
  split
  · exact absurd rfl (h '-' rfl).1
  · exact absurd rfl (h '+' rfl).2
  · rfl

theorem readSign_of_head {text : List Char} (h : ∀ c ∈ text.head?, c ≠ '-' ∧ c ≠ '+') :
    Decimal.readSign text = (false, text) := by
  unfold Decimal.readSign
  split
  · exact absurd rfl (h '-' rfl).1
  · exact absurd rfl (h '+' rfl).2
  · rfl

theorem readSign_toggleMinus {text : List Char}
    (h : ∀ c ∈ (Decimal.readSign text).2.head?, c ≠ '-' ∧ c ≠ '+') :
    Decimal.readSign (toggleMinus text) =
      (!(Decimal.readSign text).1, (Decimal.readSign text).2) := by
  unfold toggleMinus
  split
  · rename_i rest
    change ∀ c ∈ rest.head?, c ≠ '-' ∧ c ≠ '+' at h
    exact readSign_of_head h
  · rfl
  · rename_i hminus hplus
    have hsign : Decimal.readSign text = (false, text) := by
      unfold Decimal.readSign
      split
      · exact absurd rfl (hminus _)
      · exact absurd rfl (hplus _)
      · rfl
    rw [hsign]
    rfl

theorem head_of_readMagnitude? {text : List Char} {magnitude : Decimal.Magnitude}
    (h : Decimal.readMagnitude? text = some magnitude) :
    ∀ c ∈ text.head?, c ≠ '-' ∧ c ≠ '+' := by
  intro c hc
  obtain ⟨rest, rfl⟩ := List.head?_eq_some_iff.1 hc
  constructor <;> rintro rfl
  · simp [Decimal.readMagnitude?_sign (.inl rfl)] at h
  · simp [Decimal.readMagnitude?_sign (.inr rfl)] at h

theorem readLiteral?_toggleMinus {text : List Char} {literal : Decimal.Literal}
    (h : Decimal.readLiteral? text = some literal) :
    Decimal.readLiteral? (toggleMinus text) =
      some { literal with negative := !literal.negative } := by
  rw [Decimal.readLiteral?_eq] at h ⊢
  obtain ⟨magnitude, hm, rfl⟩ := Option.map_eq_some_iff.1 h
  rw [readSign_toggleMinus (head_of_readMagnitude? hm), hm]
  rfl

theorem head_of_isBody {negated : Bool} {text : List Char} {p : Placeholder}
    (h : Placeholder.IsBody negated text p) : ∀ c ∈ text.head?, c ≠ '-' ∧ c ≠ '+' := by
  obtain ⟨d, rest, rfl, hd⟩ := h.head
  rintro c ⟨⟩
  constructor <;> rintro rfl <;> exact absurd hd (by decide)

theorem isToken_toggleMinus {text : List Char} {p : Placeholder}
    (h : Placeholder.IsToken text p) :
    Placeholder.IsToken (toggleMinus text) { p with negated := !p.negated } := by
  cases h with
  | plain h =>
    rw [toggleMinus_of_head (head_of_isBody h), h.negated_eq]
    exact .minus (h.renegate true)
  | minus h =>
    rw [h.negated_eq]
    exact .plain (h.renegate false)

theorem isFiniteNumber_toggleMinus {text : String} (h : isFiniteNumber text = true) :
    isFiniteNumber (String.ofList (toggleMinus text.toList)) = true := by
  obtain ⟨literal, hr, hf⟩ := isFiniteNumber_iff.1 h
  rw [isFiniteNumber_iff, String.toList_ofList]
  exact ⟨_, readLiteral?_toggleMinus hr, hf⟩

theorem isFiniteNumber_of_isLegal {token : String}
    (h : PlaceholderGrammar.hash.isLegal token = true) : isFiniteNumber token = false := by
  obtain ⟨p, hp⟩ := isLegal_hash_iff.1 h
  exact isFiniteNumber_eq_false_of_hash_mem hp.hash_mem

theorem readsBack_literal_iff {grammar : PlaceholderGrammar} {text : String} :
    ReadsBack grammar (.literal text) ↔ isFiniteNumber text = true := by
  constructor
  · intro h
    cases h with
    | literal h => exact h
  · exact .literal

theorem readsBack_placeholder_iff {token : String} :
    ReadsBack .hash (.placeholder token) ↔ ∃ p, Placeholder.IsToken token.toList p := by
  rw [← isLegal_hash_iff]
  constructor
  · intro h
    cases h with
    | placeholder hn h => exact h
  · intro h
    exact .placeholder (isFiniteNumber_of_isLegal h) h

theorem ReadsBack.negated {angle : Angle} (h : ReadsBack .hash angle) :
    ReadsBack .hash angle.negated := by
  cases angle with
  | literal text =>
    exact readsBack_literal_iff.2 (isFiniteNumber_toggleMinus (readsBack_literal_iff.1 h))
  | placeholder token =>
    obtain ⟨p, hp⟩ := readsBack_placeholder_iff.1 h
    refine readsBack_placeholder_iff.2 ⟨{ p with negated := !p.negated }, ?_⟩
    rw [String.toList_ofList]
    exact isToken_toggleMinus hp

theorem read?_eq_none_of_isFiniteNumber {text : String} (h : isFiniteNumber text = true) :
    Placeholder.read? text = none := by
  rw [← Option.not_isSome_iff_eq_none]
  intro hlegal
  rw [isFiniteNumber_of_isLegal hlegal] at h
  cases h

theorem ReadsBack.read?_negated {angle : Angle} (h : ReadsBack .hash angle) :
    Placeholder.read? angle.negated.text =
      (Placeholder.read? angle.text).map fun p => { p with negated := !p.negated } := by
  cases angle with
  | literal text =>
    have hn := readsBack_literal_iff.1 h
    rw [Angle.text, read?_eq_none_of_isFiniteNumber hn]
    exact read?_eq_none_of_isFiniteNumber (isFiniteNumber_toggleMinus hn)
  | placeholder token =>
    obtain ⟨p, hp⟩ := readsBack_placeholder_iff.1 h
    have htoggled := isToken_toggleMinus hp
    rw [← String.toList_ofList (l := toggleMinus token.toList)] at htoggled
    have hread : Placeholder.read? token = some p := Placeholder.readChars?_eq_some_iff.2 hp
    rw [Angle.text, hread]
    exact Placeholder.readChars?_eq_some_iff.2 htoggled

/-! Negating twice. -/

def HasOneSign (text : List Char) : Prop :=
  ∀ c ∈ (Decimal.readSign text).2.head?, c ≠ '-' ∧ c ≠ '+'

theorem hasOneSign_of_isFiniteNumber {text : String} (h : isFiniteNumber text = true) :
    HasOneSign text.toList := by
  obtain ⟨literal, hr, -⟩ := isFiniteNumber_iff.1 h
  rw [Decimal.readLiteral?_eq] at hr
  obtain ⟨magnitude, hm, -⟩ := Option.map_eq_some_iff.1 hr
  exact head_of_readMagnitude? hm

theorem hasOneSign_of_isToken {text : List Char} {p : Placeholder}
    (h : Placeholder.IsToken text p) : HasOneSign text := by
  cases h with
  | plain h =>
    rw [HasOneSign, readSign_of_head (head_of_isBody h)]
    exact head_of_isBody h
  | minus h => exact head_of_isBody h

theorem ReadsBack.hasOneSign {angle : Angle} (h : ReadsBack .hash angle) :
    HasOneSign angle.text.toList := by
  cases angle with
  | literal text => exact hasOneSign_of_isFiniteNumber (readsBack_literal_iff.1 h)
  | placeholder token =>
    obtain ⟨p, hp⟩ := readsBack_placeholder_iff.1 h
    exact hasOneSign_of_isToken hp

def dropPlus : List Char → List Char
  | '+' :: rest => rest
  | text => text

def withoutPlus (angle : Angle) : Angle := angle.mapText dropPlus

theorem dropPlus_eq_self_iff {text : List Char} :
    dropPlus text = text ↔ text.head? ≠ some '+' := by
  unfold dropPlus
  split
  · rename_i rest
    simp
  · rename_i hplus
    have hhead : text.head? ≠ some '+' := by
      intro h
      obtain ⟨rest, rfl⟩ := List.head?_eq_some_iff.1 h
      exact hplus rest rfl
    simp [hhead]

/-- A second minus would be removed, not put back; that none is there makes this an equation. -/
theorem toggleMinus_toggleMinus {text : List Char} (h : HasOneSign text) :
    toggleMinus (toggleMinus text) = dropPlus text := by
  fun_cases toggleMinus text with
  | case1 rest => exact toggleMinus_of_head h
  | case2 rest => rfl
  | case3 _ _ hplus =>
    change text = dropPlus text
    symm
    rw [dropPlus_eq_self_iff]
    intro hhead
    obtain ⟨rest, hrest⟩ := List.head?_eq_some_iff.1 hhead
    exact hplus rest hrest

theorem toggleMinus_dropPlus {text : List Char} (h : HasOneSign text) :
    toggleMinus (dropPlus text) = toggleMinus text := by
  fun_cases dropPlus text with
  | case1 rest => exact toggleMinus_of_head h
  | case2 => rfl

theorem mapText_mapText (f g : List Char → List Char) (angle : Angle) :
    (angle.mapText f).mapText g = angle.mapText (g ∘ f) := by
  cases angle <;> simp [mapText]

theorem mapText_congr {f g : List Char → List Char} {angle : Angle}
    (h : f angle.text.toList = g angle.text.toList) : angle.mapText f = angle.mapText g := by
  cases angle with
  | literal text => exact congrArg (fun chars => Angle.literal (String.ofList chars)) h
  | placeholder token => exact congrArg (fun chars => Angle.placeholder (String.ofList chars)) h

theorem mapText_eq_self_iff {f : List Char → List Char} {angle : Angle} :
    angle.mapText f = angle ↔ f angle.text.toList = angle.text.toList := by
  cases angle <;> simp [mapText, text, ← String.toList_inj]

theorem ReadsBack.negated_negated {angle : Angle} (h : ReadsBack .hash angle) :
    angle.negated.negated = angle.withoutPlus := by
  unfold Angle.negated withoutPlus
  rw [mapText_mapText]
  exact mapText_congr (toggleMinus_toggleMinus h.hasOneSign)

theorem ReadsBack.negated_withoutPlus {angle : Angle} (h : ReadsBack .hash angle) :
    angle.withoutPlus.negated = angle.negated := by
  unfold Angle.negated withoutPlus
  rw [mapText_mapText]
  exact mapText_congr (toggleMinus_dropPlus h.hasOneSign)

theorem withoutPlus_eq_self_iff {angle : Angle} :
    angle.withoutPlus = angle ↔ angle.text.toList.head? ≠ some '+' :=
  mapText_eq_self_iff.trans dropPlus_eq_self_iff

end CircuitScript.Angle
