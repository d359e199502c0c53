import CircuitScript.Proofs.Circuit.Lines
/-!
One text read under two grammars of placeholders. A grammar is asked about angles that are no
numbers and about nothing else, so a wider grammar keeps every circuit, and grammars that call the
same fields legal read the same circuit or fail alike.
-/
namespace CircuitScript

namespace PlaceholderGrammar

def Widens (narrow wide : PlaceholderGrammar) : Prop :=
  ∀ token, narrow.isLegal token = true → wide.isLegal token = true

def AgreeOn (g h : PlaceholderGrammar) (fields : List String) : Prop :=
  ∀ field ∈ fields, g.isLegal field = h.isLegal field

section

variable {g h : PlaceholderGrammar} {fields others : List String} {field : String}

theorem agreeOn_cons :
    g.AgreeOn h (field :: fields) ↔ g.isLegal field = h.isLegal field ∧ g.AgreeOn h fields :=
  List.forall_mem_cons

theorem agreeOn_append :
    g.AgreeOn h (fields ++ others) ↔ g.AgreeOn h fields ∧ g.AgreeOn h others :=
  List.forall_mem_append

end

end PlaceholderGrammar

open PlaceholderGrammar (Widens agreeOn_cons agreeOn_append)

theorem Angle.IsToken.widen {narrow wide : PlaceholderGrammar} {token : String} {angle : Angle}
    (h : IsToken narrow token angle) (hw : Widens narrow wide) : IsToken wide token angle := by
  cases h with
  | literal h => exact .literal h
  | placeholder hn h => exact .placeholder hn (hw _ h)

theorem Angle.ofToken_of_isFiniteNumber {text : String} (h : isFiniteNumber text = true)
    (grammar : PlaceholderGrammar) : ofToken grammar text = .ok (.literal text) :=
  ofToken_eq_ok_iff.2 (.literal h)

theorem Angle.ofToken_congr {g h : PlaceholderGrammar} {token : String}
    (ha : g.isLegal token = h.isLegal token) : ofToken g token = ofToken h token := by
  unfold ofToken read?
  rw [ha]

namespace Instruction

open Stateful

/-! A wider grammar. -/

section

variable {narrow wide : PlaceholderGrammar} {op : Opcode} {fields : List String}
  {controls : List Control} {coefficients : List Angle} {instruction : Instruction}

theorem CoefficientFields.widen (h : CoefficientFields narrow controls fields coefficients)
    (hw : Widens narrow wide) : CoefficientFields wide controls fields coefficients := by
  obtain ⟨h, hcount⟩ := h
  exact .of (h.imp fun _ _ ht => ht.widen hw) hcount

theorem Row.widen (h : Row narrow op fields instruction) (hw : Widens narrow wide) :
    Row wide op fields instruction := by
  cases h with
  | hadamard h => exact .hadamard h
  | pauli h => exact .pauli h
  | phase ha h => exact .phase (ha.widen hw) h
  | rotation ha h => exact .rotation (ha.widen hw) h
  | rotationVector hx hy hz h =>
    exact .rotationVector (hx.widen hw) (hy.widen hw) (hz.widen hw) h
  | swap h₁ h₂ hc => exact .swap h₁ h₂ hc
  | diagonal hc hb => exact .diagonal hc (hb.widen hw)
  | multiplexor h hne hb => exact .multiplexor h hne (hb.widen hw)
  | measure hk ht => exact .measure hk ht
  | note => exact .note
  | print => exact .print
  | loopBegin hi hr => exact .loopBegin hi hr
  | loopEnd hi => exact .loopEnd hi
  | conditionBegin hne hplain h => exact .conditionBegin hne hplain h
  | conditionEnd => exact .conditionEnd

theorem Line.widen {line : String} (h : Line narrow line instruction) (hw : Widens narrow wide) :
    Line wide line instruction := by
  cases h with
  | known split row distinct => exact .known split (row.widen hw) distinct
  | foreign split hne unknown => exact .foreign split hne unknown

end

/-! Grammars that agree. -/

section

variable {g h : PlaceholderGrammar} {fields : List String} {n : Nat} {α β : Type}

theorem bind_congr_ok {x y : FieldReader α} {k l : α → FieldReader β} (hx : x fields = y fields)
    (hk : ∀ a rest, x fields = .ok (a, rest) → k a rest = l a rest) :
    (x >>= k) fields = (y >>= l) fields := by
  change (x fields).bind (fun p => k p.1 p.2) = (y fields).bind (fun p => l p.1 p.2)
  rw [← hx]
  cases hr : x fields with
  | error fault => rfl
  | ok p => exact hk p.1 p.2 hr

theorem readAngle_congr (ha : g.AgreeOn h fields) :
    readAngle ⟨g, n⟩ fields = readAngle ⟨h, n⟩ fields := by
  cases fields with
  | nil => rfl
  | cons field rest =>
    have htoken := Angle.ofToken_congr (agreeOn_cons.1 ha).1
    change (liftM (Angle.ofToken g field) : FieldReader Angle) rest =
      (liftM (Angle.ofToken h field) : FieldReader Angle) rest
    rw [htoken]

theorem readAngle_bind_congr {k l : Angle → FieldReader β} (ha : g.AgreeOn h fields)
    (hk : ∀ angle rest, g.AgreeOn h rest → k angle rest = l angle rest) :
    (readAngle ⟨g, n⟩ >>= k) fields = (readAngle ⟨h, n⟩ >>= l) fields := by
  apply bind_congr_ok (readAngle_congr ha)
  intro angle rest hread
  obtain ⟨token, rfl, -⟩ := readAngle_eq_ok_iff.1 hread
  exact hk angle rest (agreeOn_cons.1 ha).2

theorem mapM_ofToken_congr (ha : g.AgreeOn h fields) :
    fields.mapM (Angle.ofToken g) = fields.mapM (Angle.ofToken h) := by
  induction fields with
  | nil => rfl
  | cons field rest ih =>
    obtain ⟨hfield, hrest⟩ := agreeOn_cons.1 ha
    rw [List.mapM_cons, List.mapM_cons, Angle.ofToken_congr hfield, ih hrest]

theorem readCoefficients_congr (ha : g.AgreeOn h fields) (controls : List Control) :
    readCoefficients ⟨g, n⟩ controls fields = readCoefficients ⟨h, n⟩ controls fields := by
  unfold readCoefficients
  apply bind_congr_ok rfl
  intro _ rest hkeyword
  obtain rfl := readKeyword_eq_ok_iff.1 hkeyword
  apply bind_congr_ok rfl
  intro tokens _ htokens
  obtain ⟨rfl, rfl⟩ := takeRest_eq_ok_iff.1 htokens
  rw [mapM_ofToken_congr (agreeOn_cons.1 ha).2]

theorem agreeOn_of_readOptionalControls {controls : List Control} {rest : List String}
    (ha : g.AgreeOn h fields)
    (hread : readOptionalControls (some "BY") fields = .ok (controls, rest)) :
    g.AgreeOn h rest := by
  have hstop : ∀ word ∈ some "BY", ∀ control, ¬Control.IsToken word control := by
    rintro word ⟨⟩
    exact not_isToken_of_head (by decide)
  obtain ⟨tail, rfl, -⟩ := (readOptionalControls_eq_ok_iff hstop).1 hread
  exact (agreeOn_append.1 ha).2

/-- Reading a body asks about fields that are angles. All that is read before and between them is
read without the grammar. -/
theorem readBody_congr (ha : g.AgreeOn h fields) (op : Opcode) :
    readBody ⟨g, n⟩ op fields = readBody ⟨h, n⟩ op fields := by
  cases op with
  | phase | rotation => exact readAngle_bind_congr ha fun _ _ _ => rfl
  | rotationVector =>
    apply readAngle_bind_congr ha
    intro x rest hx
    apply readAngle_bind_congr hx
    intro y rest hy
    exact readAngle_bind_congr hy fun _ _ _ => rfl
  | diagonal =>
    apply bind_congr_ok rfl
    intro controls branches hread
    have hbranches := agreeOn_of_readOptionalControls ha hread
    exact bind_congr_ok (readCoefficients_congr hbranches controls) fun _ _ _ => rfl
  | multiplexor =>
    apply bind_congr_ok rfl
    intro target tail htarget
    obtain ⟨field, rfl, -⟩ := readTarget_eq_ok_iff.1 htarget
    have htail := (agreeOn_cons.1 (agreeOn_cons.1 ha).2).2
    apply bind_congr_ok rfl
    intro controls branches hread
    have hbranches := agreeOn_of_readOptionalControls htail hread
    cases controls with
    | nil => rfl
    | cons control controls =>
      exact bind_congr_ok (readCoefficients_congr hbranches _) fun _ _ _ => rfl
  | _ => rfl

theorem ofFields_congr (ha : g.AgreeOn h fields) (op : Opcode) :
    ofFields g op fields = ofFields h op fields := by
  unfold ofFields
  rw [readBody_congr ha]

theorem read_congr {line : String} (ha : g.AgreeOn h (Text.fields line)) :
    read g line = read h line := by
  unfold read
  split
  · rfl
  · rfl
  · rename_i head fields _ hfields
    rw [hfields, agreeOn_cons] at ha
    cases Opcode.ofName? head with
    | none => rfl
    | some op =>
      dsimp only
      rw [ofFields_congr ha.2]

end

end Instruction

namespace Circuit

section

variable {g h : PlaceholderGrammar} {c : Circuit} {lines : List String}

theorem ReadsAs.widen {width : UInt64} {line : String} {instruction : Instruction}
    (hr : ReadsAs g width line instruction) (hw : g.Widens h) :
    ReadsAs h width line instruction := by
  obtain ⟨hread, hwithin⟩ := hr
  exact ⟨((Instruction.read_eq_ok_iff.1 hread).widen hw).read_eq_ok, hwithin⟩

theorem ofLines_widen {width : UInt64} (hw : g.Widens h) (hc : ofLines g width lines = .ok c) :
    ofLines h width lines = .ok c := by
  rw [ofLines_eq_ok_iff] at hc ⊢
  exact ⟨hc.1, hc.2.imp fun _ _ hr => hr.widen hw⟩

theorem pushLine_congr {line : String} (ha : g.AgreeOn h (Text.fields line)) :
    c.pushLine g line = c.pushLine h line := by
  unfold pushLine
  rw [Instruction.read_congr ha]

theorem pushLines_congr (ha : ∀ line ∈ lines, g.AgreeOn h (Text.fields line)) :
    c.pushLines g lines = c.pushLines h lines := by
  induction lines generalizing c with
  | nil => rfl
  | cons line rest ih =>
    obtain ⟨hline, hrest⟩ := List.forall_mem_cons.1 ha
    rw [pushLines, pushLines, pushLine_congr hline]
    cases c.pushLine h line with
    | error error => rfl
    | ok pushed => exact ih hrest

end

/-- A wider grammar keeps every circuit. Grammars that call the same fields legal give the same
result, a circuit or an error, whatever variables and functions they see in the tokens. A finite
number is a literal whatever the grammar. -/
theorem ofLines_asks_legality (width : UInt64) (lines : List String) :
    (∀ narrow wide : PlaceholderGrammar, narrow.Widens wide →
      ∀ c, ofLines narrow width lines = .ok c → ofLines wide width lines = .ok c) ∧
    (∀ g h : PlaceholderGrammar, (∀ line ∈ lines, g.AgreeOn h (Text.fields line)) →
      ofLines g width lines = ofLines h width lines) ∧
    ∀ (grammar : PlaceholderGrammar) (text : String), Angle.isFiniteNumber text = true →
      Angle.ofToken grammar text = .ok (.literal text) :=
  ⟨fun _ _ hw _ hc => ofLines_widen hw hc, fun _ _ ha => pushLines_congr ha,
    fun grammar _ hn => Angle.ofToken_of_isFiniteNumber hn grammar⟩

theorem ofLines_asks_legality_permissive :
    let permissive : PlaceholderGrammar := ⟨fun _ => true, fun _ => [], fun _ => none⟩
    let silent : PlaceholderGrammar := ⟨PlaceholderGrammar.hash.isLegal, fun _ => [], fun _ => none⟩
    let lines := ["ROTX\t-#1*.5\tAT\t0\tIF\t1F", "DIAG\tIF\t0(0)\tBY\t30\tf#2"]
    let c : Circuit := ⟨2, [.rotation .x (.placeholder "-#1*.5") 0 [.onZero 1],
      .diagonal [.multiplexed 0 0] [.literal "30", .placeholder "f#2"]]⟩
    PlaceholderGrammar.hash.Widens permissive ∧ ofLines .hash 2 lines = .ok c ∧
      ofLines permissive 2 lines = .ok c ∧
      (∀ line ∈ lines, silent.AgreeOn .hash (Text.fields line)) ∧
      ofLines silent 2 lines = .ok c := by
  intro permissive silent lines c
  have hwidens : PlaceholderGrammar.hash.Widens permissive := fun _ _ => rfl
  have hagree : ∀ line ∈ lines, silent.AgreeOn .hash (Text.fields line) := fun _ _ _ _ => rfl
  have hread : ofLines .hash 2 lines = .ok c := by
    apply Stateful.eq_ok_of_toOption
    decide +kernel
  obtain ⟨hwide, halike, -⟩ := ofLines_asks_legality 2 lines
  exact ⟨hwidens, hread, hwide .hash permissive hwidens c hread, hagree,
    (halike silent .hash hagree).trans hread⟩

end Circuit

end CircuitScript
