import CircuitScript.Proofs.Placeholder
import CircuitScript.Proofs.Text.Lexer
/-!
The lexemes of placeholder tokens. Each rule has characters of its own to begin with, so the
character that a word begins with tells which rule takes it.
-/
namespace CircuitScript.Placeholder

inductive Spells : List Char → Lexeme → Prop
  | minus : Spells ['-'] .minus
  | star : Spells ['*'] .star
  | hash {digits : List Char} {number : UInt32} (h : IsVariable digits number) :
      Spells ('#' :: digits) (.hash number)
  | name {first : Char} {name : List Char} (hstart : isNameStart first = true)
      (hname : ∀ c ∈ name, isNameChar c = true) :
      Spells (first :: name) (.name (String.ofList (first :: name)))
  | number {text : List Char} {magnitude : Decimal.Magnitude}
      (h : Decimal.IsNumber text magnitude) : Spells text (.number ⟨false, magnitude⟩)

def ruleFor (c : Char) : Text.Rule Lexeme :=
  if c = '-' then markRule '-' .minus
  else if c = '*' then markRule '*' .star
  else if c = '#' then hashRule
  else if c = '.' then pointRule
  else if c.isDigit then wholeRule
  else nameRule

theorem word32?_eq_some_iff {digits : List Char} {number : UInt32}
    (hd : ∀ c ∈ digits, c.isDigit = true) :
    Text.word32? digits = some number ↔ IsVariable digits number := by
  rw [Text.word32?_eq_some_iff]
  constructor
  · rintro ⟨digits', rfl | rfl, h, -⟩
    · exact h
    · exact absurd (hd '+' List.mem_cons_self) (by decide)
  · exact fun h => ⟨digits, .inl rfl, h, number.toNat_lt⟩

theorem hashRule_fits_iff {word : List Char} :
    hashRule.fits word = true ↔
      ∃ digits, word = '#' :: digits ∧ digits ≠ [] ∧ ∀ c ∈ digits, c.isDigit = true := by
  simp only [hashRule]
  split
  · simp
  · rename_i hhash
    simpa using fun digits h => absurd h (hhash digits)

theorem nameRule_fits_iff {word : List Char} :
    nameRule.fits word = true ↔
      ∃ first rest, word = first :: rest ∧ isNameStart first = true ∧
        ∀ c ∈ rest, isNameChar c = true := by
  cases word <;> simp [nameRule]

theorem isPower_iff {text : List Char} :
    isPower text = true ↔ ∃ exponent, Decimal.IsExponent text exponent := by
  simp only [isPower, Option.isSome_iff_exists, Decimal.readExponent?_eq_some_iff]

theorem wholeRule_fits_iff {word : List Char} :
    wholeRule.fits word = true ↔
      (∃ c ∈ word.head?, c.isDigit = true) ∧ ∃ magnitude, Decimal.IsNumber word magnitude := by
  constructor
  · intro h
    obtain ⟨whole, rest, hspan⟩ : ∃ whole rest, word.span Char.isDigit = (whole, rest) :=
      ⟨_, _, rfl⟩
    obtain ⟨fraction, power, hfraction⟩ :
      ∃ fraction power, Decimal.readFraction rest = (fraction, power) := ⟨_, _, rfl⟩
    simp only [wholeRule, hspan, hfraction, Bool.and_eq_true, isPower_iff] at h
    obtain ⟨hwhole, exponent, he⟩ := h
    obtain ⟨rfl, hw, -⟩ := Text.span_eq_iff.1 hspan
    obtain ⟨point, rfl, hf⟩ := Decimal.readFraction_eq hfraction
    obtain ⟨c, whole, rfl⟩ := List.exists_cons_of_ne_nil (l := whole) (by simpa using hwhole)
    exact ⟨⟨c, rfl, hw c List.mem_cons_self⟩, _, .of hw hf (by simp) he⟩
  · rintro ⟨⟨c, hc, hd⟩, magnitude, h⟩
    cases h with
    | @of whole point fraction power exponent hw hf hne he =>
      have hspan := Text.span_append hw (hf.head_not_digit he)
      have hfraction := Decimal.readFraction_append hf he
      simp only [wholeRule, hspan, hfraction, Bool.and_eq_true, isPower_iff]
      refine ⟨?_, exponent, he⟩
      cases whole with
      | cons => rfl
      | nil => exact absurd hd (by simp [hf.head_not_digit he c hc])

theorem pointRule_fits_iff {word : List Char} :
    pointRule.fits word = true ↔
      '.' ∈ word.head? ∧ ∃ magnitude, Decimal.IsNumber word magnitude := by
  constructor
  · intro h
    simp only [pointRule] at h
    split at h
    · rename_i text
      obtain ⟨fraction, power, hspan⟩ :
        ∃ fraction power, text.span Char.isDigit = (fraction, power) := ⟨_, _, rfl⟩
      simp only [hspan, Bool.and_eq_true, isPower_iff] at h
      obtain ⟨hfraction, exponent, he⟩ := h
      obtain ⟨rfl, hd, -⟩ := Text.span_eq_iff.1 hspan
      exact ⟨rfl, _, @Decimal.IsNumber.of [] _ _ _ _ (by simp) (.point hd)
        (by simpa using hfraction) he⟩
    · cases h
  · rintro ⟨hpoint, magnitude, h⟩
    cases h with
    | @of whole point fraction power exponent hw hf hne he =>
      cases whole with
      | cons c whole =>
        cases hpoint
        exact absurd (hw '.' List.mem_cons_self) (by decide)
      | nil =>
        cases hf with
        | none => exact absurd rfl hne
        | point hd =>
          have hspan := Text.span_append hd he.head_not_digit
          simp only [pointRule, List.nil_append, List.cons_append, hspan, Bool.and_eq_true,
            isPower_iff]
          exact ⟨by simpa using hne, exponent, he⟩

theorem isDigit_of_isNameStart {c : Char} (h : isNameStart c = true) : c.isDigit = false := by
  rw [Bool.eq_false_iff]
  intro hd
  obtain h | h := Bool.or_eq_true_iff.1 h
  · change (decide (c.val ≥ 65 ∧ c.val ≤ 90) || c.val ≥ 97 && c.val ≤ 122) = true at h
    change (c.val ≥ 48 && c.val ≤ 57) = true at hd
    simp only [Bool.or_eq_true, Bool.and_eq_true, decide_eq_true_eq, ge_iff_le,
      UInt32.le_iff_toNat_le] at h hd
    change 65 ≤ c.toNat ∧ c.toNat ≤ 90 ∨ 97 ≤ c.toNat ∧ c.toNat ≤ 122 at h
    change 48 ≤ c.toNat ∧ c.toNat ≤ 57 at hd
    omega
  · obtain rfl := of_decide_eq_true h
    exact absurd hd (by decide)

/-- The rules take words apart by their first character. -/
theorem eq_ruleFor_of_fits {rule : Text.Rule Lexeme} {c : Char} {word : List Char}
    (hmem : rule ∈ rules) (h : rule.fits (c :: word) = true) : rule = ruleFor c := by
  simp only [rules, List.mem_cons, List.not_mem_nil, or_false] at hmem
  obtain rfl | rfl | rfl | rfl | rfl | rfl := hmem
  · obtain ⟨rfl, -⟩ : c = '-' ∧ word = [] := by simpa [markRule] using h
    rfl
  · obtain ⟨rfl, -⟩ : c = '*' ∧ word = [] := by simpa [markRule] using h
    rfl
  · obtain ⟨digits, heq, -⟩ := hashRule_fits_iff.1 h
    cases heq
    rfl
  · obtain ⟨first, rest, heq, hstart, -⟩ := nameRule_fits_iff.1 h
    cases heq
    have hne (mark : Char) (hm : isNameStart mark = false) : c ≠ mark :=
      ne_of_apply_ne isNameStart (by simp [hstart, hm])
    rw [ruleFor, if_neg (hne '-' (by decide)), if_neg (hne '*' (by decide)),
      if_neg (hne '#' (by decide)), if_neg (hne '.' (by decide)),
      if_neg (by simp [isDigit_of_isNameStart hstart])]
  · obtain ⟨⟨d, hc, hd⟩, -⟩ := wholeRule_fits_iff.1 h
    cases hc
    have hne (mark : Char) (hm : mark.isDigit = false) : c ≠ mark :=
      ne_of_apply_ne Char.isDigit (by simp [hd, hm])
    rw [ruleFor, if_neg (hne '-' (by decide)), if_neg (hne '*' (by decide)),
      if_neg (hne '#' (by decide)), if_neg (hne '.' (by decide)), if_pos hd]
  · obtain ⟨hpoint, -⟩ := pointRule_fits_iff.1 h
    cases hpoint
    rfl

theorem not_fits_nil {rule : Text.Rule Lexeme} (hmem : rule ∈ rules) : rule.fits [] = false := by
  simp only [rules, List.mem_cons, List.not_mem_nil, or_false] at hmem
  obtain rfl | rfl | rfl | rfl | rfl | rfl := hmem <;> rfl

theorem apart_rules : Text.Apart rules := by
  intro word a ha b hb hfa hfb
  cases word with
  | nil => exact absurd hfa (by simp [not_fits_nil ha])
  | cons c word => rw [eq_ruleFor_of_fits ha hfa, eq_ruleFor_of_fits hb hfb]

theorem map_readLiteral?_eq_some_iff {word : List Char} {magnitude : Decimal.Magnitude}
    {lexeme : Lexeme} (h : Decimal.IsNumber word magnitude) :
    (Decimal.readLiteral? word).map .number = some lexeme ↔
      lexeme = .number ⟨false, magnitude⟩ := by
  rw [h.readLiteral?_eq_some, Option.map_some, Option.some.injEq, eq_comm]

theorem exists_rule_iff {word : List Char} {lexeme : Lexeme} :
    (∃ rule ∈ rules, rule.fits word = true ∧ rule.lexeme? word = some lexeme) ↔
      Spells word lexeme := by
  constructor
  · rintro ⟨rule, hmem, hfits, hlexeme⟩
    simp only [rules, List.mem_cons, List.not_mem_nil, or_false] at hmem
    obtain rfl | rfl | rfl | rfl | rfl | rfl := hmem
    · cases hlexeme
      obtain rfl : word = ['-'] := by simpa [markRule] using hfits
      exact .minus
    · cases hlexeme
      obtain rfl : word = ['*'] := by simpa [markRule] using hfits
      exact .star
    · obtain ⟨digits, rfl, -, hd⟩ := hashRule_fits_iff.1 hfits
      obtain ⟨number, hn, rfl⟩ := Option.map_eq_some_iff.1 hlexeme
      exact .hash ((word32?_eq_some_iff hd).1 hn)
    · cases hlexeme
      obtain ⟨first, rest, rfl, hstart, hname⟩ := nameRule_fits_iff.1 hfits
      exact .name hstart hname
    · obtain ⟨-, magnitude, h⟩ := wholeRule_fits_iff.1 hfits
      rw [(map_readLiteral?_eq_some_iff h).1 hlexeme]
      exact .number h
    · obtain ⟨-, magnitude, h⟩ := pointRule_fits_iff.1 hfits
      rw [(map_readLiteral?_eq_some_iff h).1 hlexeme]
      exact .number h
  · intro h
    cases h with
    | minus => exact ⟨markRule '-' .minus, by simp [rules], rfl, rfl⟩
    | star => exact ⟨markRule '*' .star, by simp [rules], rfl, rfl⟩
    | hash h =>
      refine ⟨hashRule, by simp [rules], hashRule_fits_iff.2 ⟨_, rfl, h.1, h.2.1⟩, ?_⟩
      exact Option.map_eq_some_iff.2 ⟨_, (word32?_eq_some_iff h.2.1).2 h, rfl⟩
    | name hstart hname =>
      exact ⟨nameRule, by simp [rules], nameRule_fits_iff.2 ⟨_, _, rfl, hstart, hname⟩, rfl⟩
    | @number _ magnitude h =>
      have hlexeme := (map_readLiteral?_eq_some_iff h).2 rfl
      obtain ⟨c, hc, hd | rfl⟩ := h.head
      · exact ⟨wholeRule, by simp [rules], wholeRule_fits_iff.2 ⟨⟨c, hc, hd⟩, magnitude, h⟩,
          hlexeme⟩
      · exact ⟨pointRule, by simp [rules], pointRule_fits_iff.2 ⟨hc, magnitude, h⟩, hlexeme⟩

/-- Before such a rest the word of the lexeme cannot go on. A number is the last lexeme of a token,
so nothing is asked of what else may follow it. -/
def Lexeme.EndsBefore : Lexeme → List Char → Prop
  | .minus, _ | .star, _ => True
  | .hash _, rest => ∀ c ∈ rest.head?, c.isDigit = false
  | .name _, rest => ∀ c ∈ rest.head?, isNameChar c = false
  | .number _, rest => rest = []

theorem Spells.not_fits {word more rest : List Char} {next : Char} {lexeme : Lexeme}
    {rule : Text.Rule Lexeme} (h : Spells word lexeme) (hends : lexeme.EndsBefore (next :: rest))
    (hmem : rule ∈ rules) : rule.fits (word ++ next :: more) = false := by
  rw [Bool.eq_false_iff]
  intro hfits
  -- The longer word begins like the word, so it is for the same rule.
  cases h with
  | minus =>
    obtain rfl := eq_ruleFor_of_fits hmem hfits
    simp [ruleFor, markRule] at hfits
  | star =>
    obtain rfl := eq_ruleFor_of_fits hmem hfits
    simp [ruleFor, markRule] at hfits
  | hash h =>
    obtain rfl := eq_ruleFor_of_fits hmem hfits
    obtain ⟨digits, heq, -, hd⟩ := hashRule_fits_iff.1 hfits
    cases heq
    exact absurd (hd next (by simp)) (by simp [hends next rfl])
  | @name first name hstart hname =>
    have hname := nameRule_fits_iff.2 ⟨first, name, rfl, hstart, hname⟩
    have hfirst := eq_ruleFor_of_fits (by simp [rules]) hname
    obtain rfl := (eq_ruleFor_of_fits hmem hfits).trans hfirst.symm
    obtain ⟨first, rest, heq, -, hchars⟩ := nameRule_fits_iff.1 hfits
    cases heq
    exact absurd (hchars next (by simp)) (by simp [hends next rfl])
  | number => cases hends

theorem Spells.isLongest {word rest : List Char} {lexeme : Lexeme} (h : Spells word lexeme)
    (hends : lexeme.EndsBefore rest) :
    ∃ rule, Text.IsLongest rules rule word rest ∧ rule.lexeme? word = some lexeme := by
  obtain ⟨rule, hmem, hfits, hlexeme⟩ := exists_rule_iff.2 h
  have hne : word ≠ [] := by
    rintro rfl
    exact absurd hfits (by simp [not_fits_nil hmem])
  refine ⟨rule, ⟨hmem, hne, hfits, ?_⟩, hlexeme⟩
  rintro more hmore ⟨others, rfl⟩ other hother
  obtain ⟨next, more, rfl⟩ := List.exists_cons_of_ne_nil hmore
  exact h.not_fits hends hother

theorem Spells.splits {word rest : List Char} {lexeme : Lexeme} {lexemes : List Lexeme}
    (h : Spells word lexeme) (hends : lexeme.EndsBefore rest)
    (hr : Text.Splits rules rest lexemes) :
    Text.Splits rules (word ++ rest) (lexeme :: lexemes) := by
  obtain ⟨rule, hlongest, hlexeme⟩ := h.isLongest hends
  exact .cons hlongest hlexeme hr

theorem splits_nil_iff {text : List Char} : Text.Splits rules text [] ↔ text = [] := by
  constructor
  · intro h
    cases h
    rfl
  · rintro rfl
    exact .nil

theorem spells_of_splits_cons {text : List Char} {lexeme : Lexeme} {lexemes : List Lexeme}
    (h : Text.Splits rules text (lexeme :: lexemes)) :
    ∃ word rest, text = word ++ rest ∧ Spells word lexeme ∧ Text.Splits rules rest lexemes := by
  cases h with
  | cons h hl hr => exact ⟨_, _, rfl, exists_rule_iff.1 ⟨_, h.mem, h.fits, hl⟩, hr⟩

end CircuitScript.Placeholder
