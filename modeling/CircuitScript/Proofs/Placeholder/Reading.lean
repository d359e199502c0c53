import CircuitScript.Proofs.Placeholder.Lexeme
/-!
Reading placeholder tokens through their lexemes. Any lexer for the rules leads to the tokens of the
grammar, each with its own parts: a lexeme of a token ends where its longest word does.
-/
namespace CircuitScript.Placeholder

theorem hash?_eq_some_iff {lexeme : Lexeme} {number : UInt32} :
    lexeme.hash? = some number ↔ lexeme = .hash number := by
  cases lexeme <;> simp [Lexeme.hash?]

theorem mapM_hash?_eq_some_iff {lexemes : List Lexeme} {numbers : List UInt32} :
    lexemes.mapM Lexeme.hash? = some numbers ↔ lexemes = numbers.map .hash := by
  rw [Stateful.mapM_eq_some_iff]
  simp only [hash?_eq_some_iff]
  rw [← List.forall₂_map_right_iff, List.forall₂_eq_eq_eq]

theorem splits_map_hash_iff {text : List Char} {numbers : List UInt32} :
    Text.Splits rules text (numbers.map .hash) ↔
      ∃ runs, List.Forall₂ IsVariable runs numbers ∧ text = runs.flatMap ('#' :: ·) := by
  constructor
  · intro h
    induction numbers generalizing text with
    | nil => exact ⟨[], .nil, splits_nil_iff.1 h⟩
    | cons number numbers ih =>
      obtain ⟨word, rest, rfl, hword, hrest⟩ := spells_of_splits_cons h
      obtain ⟨runs, hruns, rfl⟩ := ih hrest
      cases hword with
      | @hash digits _ hdigits => exact ⟨digits :: runs, .cons hdigits hruns, rfl⟩
  · rintro ⟨runs, hruns, rfl⟩
    induction hruns with
    | nil => exact .nil
    | @cons digits number runs numbers hdigits hruns ih =>
      refine (Spells.hash hdigits).splits ?_ ih
      cases runs <;> simp [Lexeme.EndsBefore]

theorem spells_of_splits_singleton {text : List Char} {lexeme : Lexeme}
    (h : Text.Splits rules text [lexeme]) : Spells text lexeme := by
  obtain ⟨word, rest, rfl, hword, hrest⟩ := spells_of_splits_cons h
  rwa [splits_nil_iff.1 hrest, List.append_nil]

theorem Spells.splits_singleton {text : List Char} {lexeme : Lexeme} (h : Spells text lexeme) :
    Text.Splits rules text [lexeme] := by
  have hends : lexeme.EndsBefore [] := by cases lexeme <;> simp [Lexeme.EndsBefore]
  simpa using h.splits hends .nil

theorem isBody_of_splits {negated : Bool} {text : List Char} {lexemes : List Lexeme}
    {p : Placeholder} (hs : Text.Splits rules text lexemes)
    (h : ofBody? negated lexemes = some p) : IsBody negated text p := by
  unfold ofBody? at h
  split at h
  · cases h
    cases spells_of_splits_singleton hs with
    | hash hnumber => exact .plain hnumber
  · cases h
    obtain ⟨_, _, rfl, hhash, hbehind⟩ := spells_of_splits_cons hs
    obtain ⟨_, _, rfl, hstar, hlast⟩ := spells_of_splits_cons hbehind
    cases hhash with
    | hash hnumber =>
      cases hstar
      cases spells_of_splits_singleton hlast with
      | number hf => exact .scaled hnumber (.plain hf)
  · cases h
    obtain ⟨_, _, rfl, hhash, hbehind⟩ := spells_of_splits_cons hs
    obtain ⟨_, _, rfl, hstar, hfactor⟩ := spells_of_splits_cons hbehind
    obtain ⟨_, _, rfl, hminus, hlast⟩ := spells_of_splits_cons hfactor
    cases hhash with
    | hash hnumber =>
      cases hstar
      cases hminus
      cases spells_of_splits_singleton hlast with
      | number hf => exact .scaled hnumber (.minus hf)
  · split at h
    · cases h
    · rename_i hne
      obtain ⟨numbers, hnumbers, rfl⟩ := Option.map_eq_some_iff.1 h
      obtain rfl := mapM_hash?_eq_some_iff.1 hnumbers
      obtain ⟨word, rest, rfl, hword, hrest⟩ := spells_of_splits_cons hs
      obtain ⟨runs, hruns, rfl⟩ := splits_map_hash_iff.1 hrest
      have hruns' : runs ≠ [] := by
        rintro rfl
        cases hruns
        exact hne rfl
      cases hword with
      | name hstart hname => exact .functional hstart hname hruns' hruns
  · cases h

theorem IsBody.exists_splits {negated : Bool} {text : List Char} {p : Placeholder}
    (h : IsBody negated text p) :
    ∃ lexemes, Text.Splits rules text lexemes ∧ ofBody? negated lexemes = some p := by
  cases h with
  | plain h => exact ⟨_, (Spells.hash h).splits_singleton, rfl⟩
  | @scaled digits factor number literal h hf =>
    have hstar {rest : List Char} {lexemes : List Lexeme} (hr : Text.Splits rules rest lexemes) :
        Text.Splits rules ('#' :: (digits ++ '*' :: rest)) (.hash number :: .star :: lexemes) :=
      (Spells.hash h).splits (by simp [Lexeme.EndsBefore]) (Spells.star.splits trivial hr)
    cases hf with
    | plain hf => exact ⟨_, hstar (Spells.number hf).splits_singleton, rfl⟩
    | minus hf =>
      exact ⟨_, hstar (Spells.minus.splits trivial (Spells.number hf).splits_singleton), rfl⟩
  | @functional first name runs numbers hstart hname hne h =>
    have hends : (Lexeme.name (String.ofList (first :: name))).EndsBefore
        (runs.flatMap ('#' :: ·)) := by
      obtain ⟨run, others, rfl⟩ := List.exists_cons_of_ne_nil hne
      rintro c hc
      cases hc
      decide
    refine ⟨_, (Spells.name hstart hname).splits hends (splits_map_hash_iff.2 ⟨runs, h, rfl⟩), ?_⟩
    have hnumbers : numbers.map Lexeme.hash ≠ [] := by
      rintro hnil
      rw [List.map_eq_nil_iff.1 hnil] at h
      cases h
      exact hne rfl
    simp only [ofBody?, List.isEmpty_iff, if_neg hnumbers, mapM_hash?_eq_some_iff.2 rfl,
      Option.map_some]

theorem exists_splits_iff {text : List Char} {p : Placeholder} :
    (∃ lexemes, Text.Splits rules text lexemes ∧ ofLexemes? lexemes = some p) ↔
      IsToken text p := by
  constructor
  · rintro ⟨lexemes, hs, h⟩
    unfold ofLexemes? at h
    split at h
    · obtain ⟨_, _, rfl, hminus, hbody⟩ := spells_of_splits_cons hs
      cases hminus
      exact .minus (isBody_of_splits hbody h)
    · exact .plain (isBody_of_splits hs h)
  · intro h
    cases h with
    | plain h =>
      obtain ⟨lexemes, hs, hp⟩ := h.exists_splits
      refine ⟨lexemes, hs, ?_⟩
      unfold ofLexemes?
      split
      · cases hp
      · exact hp
    | minus h =>
      obtain ⟨lexemes, hs, hp⟩ := h.exists_splits
      exact ⟨.minus :: lexemes, Spells.minus.splits trivial hs, hp⟩

theorem readWith?_eq_some_iff {lexer : List Char → Option (List Lexeme)}
    (hlexer : Text.IsLexer rules lexer) {text : List Char} {p : Placeholder} :
    readWith? lexer text = some p ↔ IsToken text p := by
  rw [readWith?, Option.bind_eq_some_iff, ← exists_splits_iff]
  simp only [hlexer text]

theorem readChars?_eq_some_iff {text : List Char} {p : Placeholder} :
    readChars? text = some p ↔ IsToken text p :=
  readWith?_eq_some_iff (Text.isLexer_lexemes? apart_rules)

/-- Whatever lexer splits by longest match, the texts that are read are the tokens of the grammar,
with the parts that the grammar gives them. -/
theorem readWith?_isToken {lexer : List Char → Option (List Lexeme)}
    (hlexer : Text.IsLexer rules lexer) (token : String) (p : Placeholder) :
    (readWith? lexer token.toList = some p ↔ IsToken token.toList p) ∧
      (readWith? lexer token.toList = some p → ∀ literal, p.factor = some literal →
        ∃ front number reading, Decimal.readLiteral? number = some reading ∧
          (token.toList = front ++ '*' :: number ∧ literal = reading ∨
            token.toList = front ++ '*' :: '-' :: number ∧
              literal.toFloat = -reading.toFloat)) := by
  refine ⟨readWith?_eq_some_iff hlexer, fun h literal hp => ?_⟩
  have htoken := (readWith?_eq_some_iff hlexer).1 h
  obtain ⟨front, factor, htext, hfactor⟩ := htoken.exists_factor hp
  obtain ⟨number, reading, hreading, ⟨rfl, hl⟩ | ⟨rfl, hl⟩⟩ := hfactor.exists_reading
  · exact ⟨front, factor, reading, hreading, .inl ⟨htext, hl⟩⟩
  · exact ⟨front, number, reading, hreading, .inr ⟨htext, hl⟩⟩

theorem readWith?_isToken_scaled :
    read? "-#4*-1.5e2" = some ⟨true, [4], none, some ⟨true, .finite 15 1⟩⟩ := by
  have hnumber : Decimal.IsNumber ['1', '.', '5', 'e', '2'] (.finite 15 1) :=
    Decimal.readFinite?_eq_some_iff.1 (by decide)
  have hvariable : IsVariable ['4'] 4 := ⟨by simp, by simp, rfl⟩
  have htoken : IsToken "-#4*-1.5e2".toList ⟨true, [4], none, some ⟨true, .finite 15 1⟩⟩ :=
    .minus (.scaled hvariable (.minus hnumber))
  exact (readWith?_isToken (Text.isLexer_lexemes? apart_rules) _ _).1.2 htoken

end CircuitScript.Placeholder
