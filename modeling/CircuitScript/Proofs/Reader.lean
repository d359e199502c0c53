import CircuitScript.Instruction.Reader
import CircuitScript.Proofs.Grammar
/-!
Reading a line is the grammar of lines: each reader takes exactly the fields of its part of a row,
and a line is read exactly when the grammar has it, as the instruction that the grammar says.
-/
namespace CircuitScript.Instruction

open Stateful

section

variable {c : LineContext} {fields rest : List String}

theorem nextField_eq_ok_iff {what field : String} :
    nextField c what fields = .ok (field, rest) ↔ fields = field :: rest := by
  cases fields <;> simp [nextField]

theorem readKeyword_eq_ok_iff {word : String} {u : Unit} :
    readKeyword c word fields = .ok (u, rest) ↔ fields = word :: rest := by
  unfold readKeyword
  simp only [bind_eq_ok_iff, nextField_eq_ok_iff]
  constructor
  · rintro ⟨field, rest', rfl, h⟩
    split at h
    · rename_i hword
      rw [(pure_eq_ok_iff.1 h).2, hword]
    · exact absurd h throw_ne_ok
  · rintro rfl
    exact ⟨word, rest, rfl, by rw [if_pos rfl]; rfl⟩

theorem readNumber_eq_ok_iff {α : Type} {what : String} {read? : List Char → Option α} {n : α} :
    readNumber c what read? fields = .ok (n, rest) ↔
      ∃ field, fields = field :: rest ∧ read? field.toList = some n := by
  unfold readNumber
  simp only [bind_eq_ok_iff, nextField_eq_ok_iff]
  constructor
  · rintro ⟨field, rest', rfl, h⟩
    cases hn : read? field.toList with
    | none =>
      rw [hn] at h
      exact absurd h throw_ne_ok
    | some number =>
      rw [hn] at h
      obtain ⟨rfl, rfl⟩ := pure_eq_ok_iff.1 h
      exact ⟨field, rfl, hn⟩
  · rintro ⟨field, rfl, hn⟩
    exact ⟨field, rest, rfl, by rw [hn]; rfl⟩

theorem readQubit_eq_ok_iff {qubit : Qubit} :
    readQubit c fields = .ok (qubit, rest) ↔
      ∃ field, fields = field :: rest ∧ IsQubit field qubit := by
  unfold readQubit
  simp only [readNumber_eq_ok_iff, Text.word64?_eq_some_iff]
  rfl

theorem readCount_eq_ok_iff {what : String} {count : UInt32} :
    readNumber c what Text.word32? fields = .ok (count, rest) ↔
      ∃ field, fields = field :: rest ∧ IsCount field count := by
  simp only [readNumber_eq_ok_iff, Text.word32?_eq_some_iff]
  rfl

theorem readAngle_eq_ok_iff {angle : Angle} :
    readAngle c fields = .ok (angle, rest) ↔
      ∃ token, fields = token :: rest ∧ Angle.IsToken c.grammar token angle := by
  unfold readAngle
  simp only [bind_eq_ok_iff, nextField_eq_ok_iff, lift_eq_ok_iff, Angle.ofToken_eq_ok_iff]
  constructor
  · rintro ⟨token, rest', rfl, h, rfl⟩
    exact ⟨token, rfl, h⟩
  · rintro ⟨token, rfl, h⟩
    exact ⟨token, rest, rfl, h, rfl⟩

theorem readTarget_eq_ok_iff {target : Qubit} :
    readTarget c fields = .ok (target, rest) ↔
      ∃ field, fields = "AT" :: field :: rest ∧ IsQubit field target := by
  unfold readTarget
  simp only [bind_eq_ok_iff, readKeyword_eq_ok_iff, readQubit_eq_ok_iff]
  constructor
  · rintro ⟨_, rest', rfl, field, rfl, h⟩
    exact ⟨field, rfl, h⟩
  · rintro ⟨field, rfl, h⟩
    exact ⟨(), field :: rest, rfl, field, rfl, h⟩

/-- Controls end at the end of the line or at the stop word, which is no control itself. -/
theorem controlsUntil_eq_ok_iff {stop : Option String} {controls : List Control}
    (hstop : ∀ word ∈ stop, ∀ control, ¬Control.IsToken word control) :
    controlsUntil stop fields = .ok (controls, rest) ↔
      ∃ tokens, fields = tokens ++ rest ∧ List.Forall₂ Control.IsToken tokens controls ∧
        ∀ field ∈ rest.head?, stop = some field := by
  induction fields generalizing controls with
  | nil =>
    rw [controlsUntil]
    constructor
    · rintro ⟨⟩
      exact ⟨[], rfl, .nil, by simp⟩
    · rintro ⟨tokens, htokens, h, -⟩
      obtain ⟨rfl, rfl⟩ := List.append_eq_nil_iff.1 htokens.symm
      cases h
      rfl
  | cons field fields ih =>
    rw [controlsUntil]
    split
    · rename_i hfield
      constructor
      · rintro ⟨⟩
        exact ⟨[], rfl, .nil, by rintro _ ⟨⟩; exact hfield.symm⟩
      · rintro ⟨tokens, htokens, h, -⟩
        cases h with
        | nil =>
          cases htokens
          rfl
        | cons ht h =>
          -- The stop word is no control, so no token can be it.
          cases htokens
          exact absurd ht (hstop _ hfield.symm _)
    · rename_i hfield
      simp only [except_bind_eq_ok_iff, Control.ofToken_eq_ok_iff]
      constructor
      · rintro ⟨control, ht, ⟨controls', rest'⟩, htail, h⟩
        cases h
        obtain ⟨tokens, rfl, htokens, hend⟩ := ih.1 htail
        exact ⟨field :: tokens, rfl, .cons ht htokens, hend⟩
      · rintro ⟨tokens, htokens, h, hend⟩
        cases h with
        | nil =>
          cases htokens
          exact absurd (hend field rfl).symm hfield
        | cons ht h =>
          cases htokens
          exact ⟨_, ht, ⟨_, rest⟩, ih.2 ⟨_, rfl, h, hend⟩, rfl⟩

theorem readOptionalControls_eq_ok_iff {stop : Option String} {controls : List Control}
    (hstop : ∀ word ∈ stop, ∀ control, ¬Control.IsToken word control) :
    readOptionalControls stop fields = .ok (controls, rest) ↔
      ∃ tail, fields = tail ++ rest ∧ ControlFields tail controls ∧
        if controls = [] then rest.head? ≠ some "IF"
        else ∀ field ∈ rest.head?, stop = some field := by
  unfold readOptionalControls
  split
  · rename_i following
    simp only [except_bind_eq_ok_iff]
    constructor
    · rintro ⟨⟨controls', rest'⟩, hc, h⟩
      obtain ⟨tokens, rfl, htokens, hend⟩ := (controlsUntil_eq_ok_iff hstop).1 hc
      simp only [List.isEmpty_iff] at h
      split at h
      · cases h
      · rename_i hne
        cases h
        exact ⟨"IF" :: tokens, rfl, .marked hne htokens, by rwa [if_neg hne]⟩
    · rintro ⟨tail, htail, hc, hend⟩
      cases hc with
      | none =>
        rw [if_pos rfl] at hend
        cases htail
        exact absurd rfl hend
      | marked hne h =>
        rw [if_neg hne] at hend
        cases htail
        refine ⟨(controls, rest), (controlsUntil_eq_ok_iff hstop).2 ⟨_, rfl, h, hend⟩, ?_⟩
        simp [hne]
  · rename_i hif
    constructor
    · rintro ⟨⟩
      refine ⟨[], rfl, .none, ?_⟩
      rw [if_pos rfl]
      intro hhead
      obtain ⟨rest', rfl⟩ := List.head?_eq_some_iff.1 hhead
      exact hif rest' rfl
    · rintro ⟨tail, rfl, hc, -⟩
      cases hc with
      | none => rfl
      | marked hne h => exact absurd rfl (hif _)

theorem readLastControls_eq_ok_iff {controls : List Control} :
    readOptionalControls none fields = .ok (controls, []) ↔ ControlFields fields controls := by
  rw [readOptionalControls_eq_ok_iff (by simp)]
  constructor
  · rintro ⟨tail, rfl, hc, -⟩
    rwa [List.append_nil]
  · intro hc
    exact ⟨fields, (List.append_nil _).symm, hc, by split <;> simp⟩

theorem takeRest_eq_ok_iff {out : List String} :
    takeRest fields = .ok (out, rest) ↔ fields = out ∧ rest = [] := by
  simp [takeRest, eq_comm]

theorem readCoefficients_eq_ok_iff {controls : List Control} {coefficients : List Angle} :
    readCoefficients c controls fields = .ok (coefficients, rest) ↔
      CoefficientFields c.grammar controls fields coefficients ∧ rest = [] := by
  unfold readCoefficients
  simp only [bind_eq_ok_iff, readKeyword_eq_ok_iff, takeRest_eq_ok_iff, lift_eq_ok_iff,
    mapM_eq_ok_iff, Angle.ofToken_eq_ok_iff, guard_eq_ok_iff, pure_eq_ok_iff, List.isEmpty_iff,
    ne_eq, not_not]
  constructor
  · rintro ⟨_, _, rfl, tokens, _, ⟨rfl, rfl⟩, coefficients', _, ⟨h, rfl⟩, -, hcount, rfl, rfl⟩
    exact ⟨.of h hcount, rfl⟩
  · rintro ⟨⟨h, hcount⟩, rfl⟩
    refine ⟨(), _, rfl, _, [], ⟨rfl, rfl⟩, coefficients, [], ⟨h, rfl⟩, ?_, hcount, rfl, rfl⟩
    rintro rfl
    exact absurd hcount (Nat.two_pow_pos _).ne

theorem readPlace_eq_ok_iff {make : Qubit → List Control → Instruction}
    {instruction : Instruction} :
    (do
      let target ← readTarget c
      let controls ← readOptionalControls none
      return make target controls) fields = .ok (instruction, []) ↔
      ∃ target controls, TargetFields fields target controls ∧
        make target controls = instruction := by
  simp only [bind_eq_ok_iff, readTarget_eq_ok_iff, pure_eq_ok_iff]
  constructor
  · rintro ⟨target, _, ⟨field, rfl, ht⟩, controls, _, hc, rfl, rfl⟩
    exact ⟨target, controls, .of ht (readLastControls_eq_ok_iff.1 hc), rfl⟩
  · rintro ⟨target, controls, ⟨ht, hc⟩, rfl⟩
    exact ⟨target, _, ⟨_, rfl, ht⟩, controls, [], readLastControls_eq_ok_iff.2 hc, rfl, rfl⟩

theorem not_isToken_of_head {word : String} (h : word.toList.head?.any Char.isDigit = false)
    (control : Control) : ¬Control.IsToken word control := by
  intro ht
  obtain ⟨d, tail, hd, hdigit⟩ := ht.head_isDigit
  rw [hd, List.head?_cons, Option.any_some, hdigit] at h
  cases h

theorem readBranches_eq_ok_iff {controls : List Control} {coefficients : List Angle} :
    (∃ following, readOptionalControls (some "BY") fields = .ok (controls, following) ∧
      readCoefficients c controls following = .ok (coefficients, [])) ↔
      ∃ tail branches, fields = tail ++ branches ∧ ControlFields tail controls ∧
        CoefficientFields c.grammar controls branches coefficients := by
  have hstop : ∀ word ∈ some "BY", ∀ control, ¬Control.IsToken word control := by
    rintro word ⟨⟩
    exact not_isToken_of_head (by decide)
  simp only [readOptionalControls_eq_ok_iff hstop, readCoefficients_eq_ok_iff, and_true]
  constructor
  · rintro ⟨branches, ⟨tail, rfl, hc, -⟩, hb⟩
    exact ⟨tail, branches, rfl, hc, hb⟩
  · rintro ⟨tail, branches, rfl, hc, hb⟩
    refine ⟨branches, ⟨tail, rfl, hc, ?_⟩, hb⟩
    cases hb
    split <;> simp

theorem isMeasurement_iff {field : String} {kind : UInt8} :
    IsMeasurement field kind ↔
      Text.word8? field.toList = some kind ∧ kind.toNat ≤ lastMeasurement := by
  rw [Text.word8?_eq_some_iff]
  unfold IsMeasurement Text.IsNumeral lastMeasurement
  constructor
  · rintro ⟨digits, hd, h, hlt⟩
    exact ⟨⟨digits, hd, h, kind.toNat_lt⟩, by omega⟩
  · rintro ⟨⟨digits, hd, h, -⟩, hle⟩
    exact ⟨digits, hd, h, by omega⟩

theorem arePlainConditions_iff {conditions : List Control} :
    arePlainConditions conditions = true ↔
      conditions ≠ [] ∧ ∀ condition ∈ conditions, condition.isMultiplexed = false := by
  simp [arePlainConditions]

theorem readBody_eq_ok_iff {op : Opcode} {instruction : Instruction} :
    readBody c op fields = .ok (instruction, []) ↔ Row c.grammar op fields instruction := by
  cases op with
  | hadamard =>
    refine readPlace_eq_ok_iff.trans ⟨?_, ?_⟩
    · rintro ⟨target, controls, h, rfl⟩
      exact .hadamard h
    · intro h
      cases h with
      | hadamard h => exact ⟨_, _, h, rfl⟩
  | pauli axis =>
    refine readPlace_eq_ok_iff.trans ⟨?_, ?_⟩
    · rintro ⟨target, controls, h, rfl⟩
      exact .pauli h
    · intro h
      cases h with
      | pauli h => exact ⟨_, _, h, rfl⟩
  | phase kind =>
    unfold readBody
    simp only [bind_eq_ok_iff (x := readAngle c), readAngle_eq_ok_iff, readPlace_eq_ok_iff]
    constructor
    · rintro ⟨angle, _, ⟨token, rfl, ha⟩, target, controls, h, rfl⟩
      exact .phase ha h
    · intro h
      cases h with
      | phase ha h => exact ⟨_, _, ⟨_, rfl, ha⟩, _, _, h, rfl⟩
  | rotation axis =>
    unfold readBody
    simp only [bind_eq_ok_iff (x := readAngle c), readAngle_eq_ok_iff, readPlace_eq_ok_iff]
    constructor
    · rintro ⟨angle, _, ⟨token, rfl, ha⟩, target, controls, h, rfl⟩
      exact .rotation ha h
    · intro h
      cases h with
      | rotation ha h => exact ⟨_, _, ⟨_, rfl, ha⟩, _, _, h, rfl⟩
  | rotationVector =>
    unfold readBody
    simp only [bind_eq_ok_iff (x := readAngle c), readAngle_eq_ok_iff, readPlace_eq_ok_iff]
    constructor
    · rintro ⟨x, _, ⟨tx, rfl, hx⟩, y, _, ⟨ty, rfl, hy⟩, z, _, ⟨tz, rfl, hz⟩, target, controls, h,
        rfl⟩
      exact .rotationVector hx hy hz h
    · intro h
      cases h with
      | rotationVector hx hy hz h =>
        exact ⟨_, _, ⟨_, rfl, hx⟩, _, _, ⟨_, rfl, hy⟩, _, _, ⟨_, rfl, hz⟩, _, _, h, rfl⟩
  | swap =>
    unfold readBody
    simp only [bind_eq_ok_iff, readQubit_eq_ok_iff, pure_eq_ok_iff]
    constructor
    · rintro ⟨first, _, ⟨field₁, rfl, h₁⟩, second, _, ⟨field₂, rfl, h₂⟩, controls, _, hc, rfl,
        rfl⟩
      exact .swap h₁ h₂ (readLastControls_eq_ok_iff.1 hc)
    · intro h
      cases h with
      | swap h₁ h₂ hc =>
        have hlast := readLastControls_eq_ok_iff.2 hc
        exact ⟨_, _, ⟨_, rfl, h₁⟩, _, _, ⟨_, rfl, h₂⟩, _, _, hlast, rfl, rfl⟩
  | diagonal =>
    unfold readBody
    simp only [bind_eq_ok_iff, pure_eq_ok_iff]
    constructor
    · rintro ⟨controls, following, hc, coefficients, _, hb, rfl, rfl⟩
      obtain ⟨tail, branches, rfl, hc, hb⟩ := readBranches_eq_ok_iff.1 ⟨following, hc, hb⟩
      exact .diagonal hc hb
    · intro h
      cases h with
      | diagonal hc hb =>
        obtain ⟨following, hc, hb⟩ := readBranches_eq_ok_iff.2 ⟨_, _, rfl, hc, hb⟩
        exact ⟨_, _, hc, _, _, hb, rfl, rfl⟩
  | multiplexor =>
    unfold readBody
    simp only [bind_eq_ok_iff, pure_eq_ok_iff, guard_eq_ok_iff, readTarget_eq_ok_iff,
      List.isEmpty_iff]
    constructor
    · rintro ⟨target, _, ⟨field, rfl, ht⟩, controls, following, hc, hne, coefficients, _, hb, rfl,
        rfl⟩
      obtain ⟨tail, branches, rfl, hc, hb⟩ := readBranches_eq_ok_iff.1 ⟨following, hc, hb⟩
      exact .multiplexor (.of ht hc) hne hb
    · intro h
      cases h with
      | multiplexor h hne hb =>
        obtain ⟨ht, hc⟩ := h
        obtain ⟨following, hc, hb⟩ := readBranches_eq_ok_iff.2 ⟨_, _, rfl, hc, hb⟩
        exact ⟨_, _, ⟨_, rfl, ht⟩, _, _, hc, hne, _, _, hb, rfl, rfl⟩
  | measure =>
    unfold readBody
    simp only [bind_eq_ok_iff, pure_eq_ok_iff, guard_eq_ok_iff, readTarget_eq_ok_iff,
      readNumber_eq_ok_iff, not_lt]
    constructor
    · rintro ⟨kind, _, ⟨field₁, rfl, hk⟩, hle, target, _, ⟨field₂, rfl, ht⟩, rfl, rfl⟩
      exact .measure (isMeasurement_iff.2 ⟨hk, hle⟩) ht
    · intro h
      cases h with
      | measure hk ht =>
        obtain ⟨hk, hle⟩ := isMeasurement_iff.1 hk
        exact ⟨_, _, ⟨_, rfl, hk⟩, hle, _, _, ⟨_, rfl, ht⟩, rfl, rfl⟩
  | note =>
    unfold readBody
    simp only [bind_eq_ok_iff, pure_eq_ok_iff, takeRest_eq_ok_iff, Text.line_eq_intercalate]
    constructor
    · rintro ⟨out, _, ⟨rfl, rfl⟩, rfl, -⟩
      exact .note
    · rintro ⟨⟩
      exact ⟨_, _, ⟨rfl, rfl⟩, rfl, rfl⟩
  | print =>
    unfold readBody
    simp only [bind_eq_ok_iff, pure_eq_ok_iff, nextField_eq_ok_iff]
    constructor
    · rintro ⟨style, _, rfl, rfl, rfl⟩
      exact .print
    · rintro ⟨⟩
      exact ⟨_, _, rfl, rfl, rfl⟩
  | loopBegin =>
    unfold readBody readId
    simp only [bind_eq_ok_iff, pure_eq_ok_iff, readCount_eq_ok_iff, readKeyword_eq_ok_iff]
    constructor
    · rintro ⟨id, _, ⟨field₁, rfl, hi⟩, _, _, rfl, repetitions, _, ⟨field₂, rfl, hr⟩, rfl, rfl⟩
      exact .loopBegin hi hr
    · intro h
      cases h with
      | loopBegin hi hr => exact ⟨_, _, ⟨_, rfl, hi⟩, (), _, rfl, _, _, ⟨_, rfl, hr⟩, rfl, rfl⟩
  | loopEnd =>
    unfold readBody readId
    simp only [bind_eq_ok_iff, pure_eq_ok_iff, readCount_eq_ok_iff]
    constructor
    · rintro ⟨id, _, ⟨field, rfl, hi⟩, rfl, rfl⟩
      exact .loopEnd hi
    · intro h
      cases h with
      | loopEnd hi => exact ⟨_, _, ⟨_, rfl, hi⟩, rfl, rfl⟩
  | conditionBegin =>
    have hstop : ∀ word ∈ some ")", ∀ control, ¬Control.IsToken word control := by
      rintro word ⟨⟩
      exact not_isToken_of_head (by decide)
    unfold readBody readControls
    simp only [bind_eq_ok_iff, readKeyword_eq_ok_iff, controlsUntil_eq_ok_iff hstop]
    constructor
    · rintro ⟨conditions, _, ⟨tokens, rfl, h, -⟩, _, following, rfl, hend⟩
      split at hend
      · rename_i hplain
        obtain ⟨rfl, rfl⟩ := pure_eq_ok_iff.1 hend
        obtain ⟨hne, hplain⟩ := arePlainConditions_iff.1 hplain
        exact .conditionBegin hne hplain h
      · exact absurd hend throw_ne_ok
    · intro h
      cases h with
      | conditionBegin hne hplain h =>
        refine ⟨_, [")"], ⟨_, rfl, h, by simp⟩, (), [], rfl, ?_⟩
        rw [if_pos (arePlainConditions_iff.2 ⟨hne, hplain⟩)]
        rfl
  | conditionEnd =>
    unfold readBody
    simp only [pure_eq_ok_iff]
    constructor
    · rintro ⟨rfl, rfl⟩
      exact .conditionEnd
    · rintro ⟨⟩
      exact ⟨rfl, rfl⟩

end

section

variable {grammar : PlaceholderGrammar} {line : String} {instruction : Instruction}

theorem firstRepeated?_eq_none_iff {seen qubits : List Qubit} :
    firstRepeated? seen qubits = none ↔ qubits.Nodup ∧ ∀ qubit ∈ qubits, qubit ∉ seen := by
  induction qubits generalizing seen with
  | nil => simp [firstRepeated?]
  | cons qubit rest ih =>
    rw [firstRepeated?]
    split
    · rename_i hseen
      simp [hseen]
    · rename_i hseen
      simp only [ih, List.nodup_cons, List.mem_cons, not_or, forall_eq_or_imp, hseen,
        not_false_eq_true, true_and]
      constructor
      · rintro ⟨hdistinct, hrest⟩
        exact ⟨⟨fun h => (hrest _ h).1 rfl, hdistinct⟩, fun q hq => (hrest q hq).2⟩
      · rintro ⟨⟨hqubit, hdistinct⟩, hrest⟩
        exact ⟨hdistinct, fun q hq => ⟨fun h => hqubit (h ▸ hq), hrest q hq⟩⟩

theorem ofFields_eq_ok_iff {op : Opcode} {fields : List String} :
    ofFields grammar op fields = .ok instruction ↔
      Row grammar op fields instruction ∧ instruction.qubitFields.Nodup := by
  unfold ofFields
  rw [except_bind_eq_ok_iff, ← qubits_eq_qubitFields]
  constructor
  · rintro ⟨⟨instruction', rest⟩, hbody, h⟩
    cases rest with
    | cons field rest => cases h
    | nil =>
      cases hr : firstRepeated? [] instruction'.qubits with
      | some qubit =>
        simp only [hr] at h
        cases h
      | none =>
        simp only [hr] at h
        cases h
        exact ⟨readBody_eq_ok_iff.1 hbody, (firstRepeated?_eq_none_iff.1 hr).1⟩
  · rintro ⟨hrow, hdistinct⟩
    refine ⟨(instruction, []), readBody_eq_ok_iff.2 hrow, ?_⟩
    have hr : firstRepeated? [] instruction.qubits = none :=
      firstRepeated?_eq_none_iff.2 ⟨hdistinct, by simp⟩
    simp only [hr]
    rfl

theorem ofName?_eq_none_iff {name : String} :
    Opcode.ofName? name = none ↔ ∀ op : Opcode, op.name ≠ name := by
  unfold Opcode.ofName?
  simp [Opcode.mem_all]

theorem opcode_name_ne_empty (op : Opcode) : op.name ≠ "" := by
  have key : ∀ x ∈ Opcode.all, x.name ≠ "" := by decide
  exact key op (Opcode.mem_all op)

theorem read_of_empty {fields : List String} (h : Text.fields line = "" :: fields) :
    read grammar line = .error (.malformed "" .emptyLine (some line)) := by
  unfold read
  split
  · rfl
  · rfl
  · rename_i hne hfields
    rw [h] at hfields
    cases hfields
    exact absurd rfl hne

theorem read_of_known {op : Opcode} {fields : List String}
    (h : Text.fields line = op.name :: fields) :
    read grammar line =
      (ofFields grammar op fields).mapError fun fault =>
        .malformed op.name fault (some line) := by
  unfold read
  split
  · rename_i hnil
    exact absurd hnil (Text.fields_ne_nil line)
  · rename_i hempty
    rw [h] at hempty
    exact absurd (List.cons.inj hempty).1 (opcode_name_ne_empty op)
  · rename_i hfields
    rw [h] at hfields
    cases hfields
    rw [Opcode.ofName?_name]

theorem read_of_foreign {opcode : String} {fields : List String}
    (h : Text.fields line = opcode :: fields) (hne : opcode ≠ "")
    (ho : Opcode.ofName? opcode = none) : read grammar line = .ok (.foreign opcode fields) := by
  unfold read
  split
  · rename_i hnil
    exact absurd hnil (Text.fields_ne_nil line)
  · rename_i hempty
    rw [h] at hempty
    exact absurd (List.cons.inj hempty).1 hne
  · rename_i hfields
    rw [h] at hfields
    cases hfields
    rw [ho]

theorem Line.read_eq_ok (h : Line grammar line instruction) :
    read grammar line = .ok instruction := by
  cases h with
  | known split row distinct =>
    rw [read_of_known ((Text.isSplit_iff (by simp)).1 split),
      ofFields_eq_ok_iff.2 ⟨row, distinct⟩]
    rfl
  | foreign split hne unknown =>
    exact read_of_foreign ((Text.isSplit_iff (by simp)).1 split) hne
      (ofName?_eq_none_iff.2 unknown)

def firstField (line : String) : String := (Text.fields line).headD ""

theorem line_or_malformed (grammar : PlaceholderGrammar) (line : String) :
    (∃ instruction, Line grammar line instruction) ∨
      ∃ fault, read grammar line = .error (.malformed (firstField line) fault (some line)) := by
  have hsplit := Text.isSplit_fields line
  unfold firstField
  cases hfields : Text.fields line with
  | nil => exact absurd hfields (Text.fields_ne_nil line)
  | cons head fields =>
    rw [hfields] at hsplit
    rw [List.headD_cons]
    by_cases hne : head = ""
    · rw [hne] at hfields ⊢
      exact .inr ⟨_, read_of_empty hfields⟩
    cases ho : Opcode.ofName? head with
    | none => exact .inl ⟨_, .foreign hsplit hne (ofName?_eq_none_iff.1 ho)⟩
    | some op =>
      rw [← Opcode.name_of_ofName? ho] at hfields hsplit ⊢
      cases hr : ofFields grammar op fields with
      | error fault => exact .inr ⟨fault, by rw [read_of_known hfields, hr]; rfl⟩
      | ok instruction =>
        obtain ⟨hrow, hdistinct⟩ := ofFields_eq_ok_iff.1 hr
        exact .inl ⟨instruction, .known hsplit hrow hdistinct⟩

theorem read_eq_ok_iff : read grammar line = .ok instruction ↔ Line grammar line instruction := by
  constructor
  · intro hread
    obtain ⟨other, h⟩ | ⟨fault, herror⟩ := line_or_malformed grammar line
    · rw [h.read_eq_ok] at hread
      cases hread
      exact h
    · rw [herror] at hread
      cases hread
  · exact Line.read_eq_ok

/-- Reading is the grammar: the lines that it has are read as what they stand for, and every other
line is malformed. -/
theorem read_accepts_exactly_grammar (grammar : PlaceholderGrammar) (line : String) :
    (∀ instruction, read grammar line = .ok instruction ↔ Line grammar line instruction) ∧
      ((¬∃ instruction, Line grammar line instruction) ↔
        ∃ fault, read grammar line = .error (.malformed (firstField line) fault (some line))) := by
  refine ⟨fun instruction => read_eq_ok_iff, ?_⟩
  constructor
  · intro hnot
    obtain h | h := line_or_malformed grammar line
    · exact absurd h hnot
    · exact h
  · rintro ⟨fault, herror⟩ ⟨instruction, h⟩
    rw [h.read_eq_ok] at herror
    cases herror

end

end CircuitScript.Instruction
