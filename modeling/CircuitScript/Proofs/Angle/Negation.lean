import CircuitScript.Proofs.Angle
import CircuitScript.Proofs.Decimal.Double
/-!
What the negation of an angle means. Negation edits the text and never reads it; for the texts of
the hash grammar the edited text is read again, as the negative of what was read before.
-/
namespace CircuitScript.Angle

/-- The second angle is the negative of the first: of two literals the doubles differ in the sign
bit alone, of two placeholders the parts differ in the minus alone. -/
inductive IsNegative : Angle → Angle → Prop
  | literal {text other : String} {degrees negative : Float}
      (h : (literal text).degrees? = some degrees)
      (ho : (literal other).degrees? = some negative)
      (bits : negative.toBits = degrees.toBits ^^^ Decimal.signBit) :
      IsNegative (.literal text) (.literal other)
  | placeholder {token other : String} {p : Placeholder} (h : Placeholder.read? token = some p)
      (ho : Placeholder.read? other = some { p with negated := !p.negated }) :
      IsNegative (.placeholder token) (.placeholder other)

theorem ReadsBack.isNegative {angle : Angle} (h : ReadsBack .hash angle) :
    IsNegative angle angle.negated := by
  cases angle with
  | literal text =>
    obtain ⟨literal, hread, hfinite⟩ := isFiniteNumber_iff.1 (readsBack_literal_iff.1 h)
    have hother := readLiteral?_toggleMinus hread
    rw [← String.toList_ofList (l := toggleMinus text.toList)] at hother
    exact .literal (congrArg (Option.map Decimal.Literal.toFloat) hread)
      (congrArg (Option.map Decimal.Literal.toFloat) hother)
      (Decimal.Literal.toBits_toFloat_not_negative hfinite)
  | placeholder token =>
    obtain ⟨p, hp⟩ := readsBack_placeholder_iff.1 h
    have hread : Placeholder.read? token = some p := Placeholder.readChars?_eq_some_iff.2 hp
    exact .placeholder hread (h.read?_negated.trans (congrArg (Option.map _) hread))

theorem toggleMinus_ne_self (text : List Char) : toggleMinus text ≠ text := by
  intro h
  unfold toggleMinus at h
  split at h
  · exact List.cons_ne_self _ _ h.symm
  · exact absurd (List.cons.inj h).1 (by decide)
  · exact List.cons_ne_self _ _ h

theorem negated_ne_self (angle : Angle) : angle.negated ≠ angle :=
  mapText_eq_self_iff.not.2 (toggleMinus_ne_self _)

/-- Every angle that is read has a negative: its negation, which is read again from its own text. It
is another angle, and negating once more gives the first one without a plus in front. No text is
both a number and a placeholder. -/
theorem negated_isNegative :
    (∀ (token : String) (angle : Angle), ofToken .hash token = .ok angle →
      ofToken .hash angle.negated.text = .ok angle.negated ∧ IsNegative angle angle.negated ∧
        angle.negated ≠ angle ∧ angle.negated.negated = angle.withoutPlus) ∧
    ∀ token : String,
      ¬(isFiniteNumber token = true ∧ PlaceholderGrammar.hash.isLegal token = true) := by
  constructor
  · intro token angle hread
    have htoken := ofToken_eq_ok_iff.1 hread
    have hback := htoken.readsBack
    exact ⟨ofToken_eq_ok_iff.2 hback.negated, hback.isNegative, negated_ne_self angle,
      hback.negated_negated⟩
  · rintro token ⟨hnumber, hlegal⟩
    rw [isFiniteNumber_of_isLegal hlegal] at hnumber
    cases hnumber

theorem negated_isNegative_plus :
    ofToken .hash "+.5e1" = .ok (.literal "+.5e1") ∧
      ofToken .hash "-.5e1" = .ok (.literal "-.5e1") ∧
      IsNegative (.literal "+.5e1") (.literal "-.5e1") ∧
      (literal "-.5e1").negated = .literal ".5e1" ∧
      ofToken .hash "-f#2#1" = .ok (.placeholder "-f#2#1") ∧
      ofToken .hash "f#2#1" = .ok (.placeholder "f#2#1") ∧
      IsNegative (.placeholder "-f#2#1") (.placeholder "f#2#1") := by
  have hnumber : ofToken .hash "+.5e1" = .ok (.literal "+.5e1") :=
    ofToken_eq_ok_iff.2 (.literal (by decide +kernel))
  have hfunction : ofToken .hash "-f#2#1" = .ok (.placeholder "-f#2#1") :=
    ofToken_eq_ok_iff.2 (.placeholder (by decide +kernel) (by decide +kernel))
  obtain ⟨hread, hnegative, -, htwice⟩ := negated_isNegative.1 _ _ hnumber
  obtain ⟨hread', hnegative', -⟩ := negated_isNegative.1 _ _ hfunction
  exact ⟨hnumber, hread, hnegative, htwice, hfunction, hread', hnegative'⟩

end CircuitScript.Angle
