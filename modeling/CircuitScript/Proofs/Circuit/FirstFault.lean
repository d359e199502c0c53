import CircuitScript.Proofs.Circuit.QubitRange
/-!
Reading a circuit from lines gives all of them or nothing. The first line that cannot be added says
what went wrong, in the words in which it was given, and no line after it is looked at.
-/
namespace CircuitScript.Circuit

open Stateful

/-- Why a line cannot be added to a circuit of this width: it is malformed, or else its instruction
has a qubit too many, and the first such qubit is named. -/
inductive LineFault (grammar : PlaceholderGrammar) (width : UInt64) (line : String) :
    CircuitError → Prop
  | malformed {fault : Fault}
      (h : Instruction.read grammar line =
        .error (.malformed (Instruction.firstField line) fault (some line))) :
      LineFault grammar width line
        (.malformed (Instruction.firstField line) fault (some line))
  | outside {instruction : Instruction} {before later : List Qubit} {qubit : Qubit}
      (h : Instruction.read grammar line = .ok instruction)
      (hqubits : instruction.qubitFields = before ++ qubit :: later)
      (hbefore : ∀ other ∈ before, other < width) (hout : width ≤ qubit) :
      LineFault grammar width line (.qubitOutOfRange qubit width (some line))

def Fits (grammar : PlaceholderGrammar) (width : UInt64) (line : String) : Prop :=
  ∃ instruction, ReadsAs grammar width line instruction

section

variable {grammar : PlaceholderGrammar} {width : UInt64} {c d : Circuit} {line : String}
  {lines : List String} {error : CircuitError}

theorem pushLine_eq_error_iff :
    c.pushLine grammar line = .error error ↔ LineFault grammar c.width line error := by
  unfold pushLine
  simp only [except_bind_eq_error_iff, mapError_eq_error_iff, push_eq_error_iff]
  constructor
  · rintro (hread | ⟨instruction, hread, _, ⟨before, qubit, later, hqubits, hbefore, hout, rfl⟩,
      rfl⟩)
    · obtain ⟨instruction, hline⟩ | ⟨fault, hfault⟩ := Instruction.line_or_malformed grammar line
      · rw [hline.read_eq_ok] at hread
        cases hread
      · rw [hfault] at hread
        cases hread
        exact .malformed hfault
    · exact .outside hread hqubits hbefore hout
  · intro h
    cases h with
    | malformed h => exact .inl h
    | outside h hqubits hbefore hout =>
      -- The error first names the instruction's own line, then the line as it was given.
      exact .inr ⟨_, h, _, ⟨_, _, _, hqubits, hbefore, hout, rfl⟩, rfl⟩

theorem pushLine_eq_ok_of_fits (h : Fits grammar c.width line) :
    ∃ instruction, c.pushLine grammar line = .ok (c.extended [instruction]) := by
  obtain ⟨instruction, hread⟩ := h
  exact ⟨instruction, pushLine_eq_ok_iff.2 ⟨instruction, hread, rfl⟩⟩

theorem fits_iff_forall_not_lineFault :
    Fits grammar width line ↔ ∀ error, ¬LineFault grammar width line error := by
  constructor
  · intro hfits error hfault
    obtain ⟨instruction, hpush⟩ := pushLine_eq_ok_of_fits (c := empty width) hfits
    have herror : (empty width).pushLine grammar line = .error error :=
      pushLine_eq_error_iff.2 hfault
    rw [hpush] at herror
    cases herror
  · intro hnone
    cases hpush : (empty width).pushLine grammar line with
    | ok pushed =>
      obtain ⟨instruction, hread, -⟩ := pushLine_eq_ok_iff.1 hpush
      exact ⟨instruction, hread⟩
    | error error => exact absurd (pushLine_eq_error_iff.1 hpush) (hnone error)

theorem pushLines_eq_error_iff :
    c.pushLines grammar lines = .error error ↔
      ∃ before line later, lines = before ++ line :: later ∧
        (∀ earlier ∈ before, Fits grammar c.width earlier) ∧
        LineFault grammar c.width line error := by
  induction lines generalizing c with
  | nil => simp [pushLines]
  | cons first rest ih =>
    rw [pushLines, except_bind_eq_error_iff]
    constructor
    · rintro (hfirst | ⟨pushed, hfirst, hrest⟩)
      · exact ⟨[], first, rest, rfl, by simp, pushLine_eq_error_iff.1 hfirst⟩
      · obtain ⟨instruction, hread, rfl⟩ := pushLine_eq_ok_iff.1 hfirst
        obtain ⟨before, line, later, rfl, hbefore, hfault⟩ := ih.1 hrest
        refine ⟨first :: before, line, later, rfl, ?_, hfault⟩
        exact List.forall_mem_cons.2 ⟨⟨instruction, hread⟩, hbefore⟩
    · rintro ⟨before, line, later, hlines, hbefore, hfault⟩
      cases before with
      | nil =>
        cases hlines
        exact .inl (pushLine_eq_error_iff.2 hfault)
      | cons earlier before =>
        cases hlines
        obtain ⟨hearlier, hbefore⟩ := List.forall_mem_cons.1 hbefore
        obtain ⟨instruction, hpush⟩ := pushLine_eq_ok_of_fits hearlier
        exact .inr ⟨_, hpush, ih.2 ⟨before, line, later, rfl, hbefore, hfault⟩⟩

theorem pushLines_append (more : List String) :
    c.pushLines grammar (lines ++ more) =
      c.pushLines grammar lines >>= (·.pushLines grammar more) := by
  induction lines generalizing c with
  | nil => rfl
  | cons line rest ih =>
    rw [List.cons_append, pushLines, pushLines]
    cases c.pushLine grammar line with
    | error error => rfl
    | ok pushed => exact ih

theorem exists_forall₂_readsAs_iff :
    (∃ instructions, List.Forall₂ (ReadsAs grammar width) lines instructions) ↔
      ∀ line ∈ lines, Fits grammar width line := by
  constructor
  · rintro ⟨instructions, h⟩
    exact forall_mem_left h fun line instruction hread => ⟨instruction, hread⟩
  · intro h
    induction lines with
    | nil => exact ⟨[], .nil⟩
    | cons line rest ih =>
      obtain ⟨⟨instruction, hread⟩, hrest⟩ := List.forall_mem_cons.1 h
      obtain ⟨instructions, hinstructions⟩ := ih hrest
      exact ⟨instruction :: instructions, .cons hread hinstructions⟩

theorem exists_ofLines_eq_ok_iff :
    (∃ c, ofLines grammar width lines = .ok c) ↔ ∀ line ∈ lines, Fits grammar width line := by
  rw [← exists_forall₂_readsAs_iff]
  constructor
  · rintro ⟨c, hc⟩
    exact ⟨c.instructions, (ofLines_eq_ok_iff.1 hc).2⟩
  · rintro ⟨instructions, h⟩
    exact ⟨⟨width, instructions⟩, ofLines_eq_ok_iff.2 ⟨rfl, h⟩⟩

/-- Reading succeeds exactly when every line can be added by itself, and then the circuit has the
instructions of the lines in their order. Else it fails for the first line that cannot be added,
which is the first with a fault. More lines are read only after these, so they change nothing of a
failure. -/
theorem ofLines_blames_first (grammar : PlaceholderGrammar) (width : UInt64)
    (lines : List String) :
    ((∃ c, ofLines grammar width lines = .ok c) ↔ ∀ line ∈ lines, Fits grammar width line) ∧
    (∀ c, ofLines grammar width lines = .ok c ↔
      c.width = width ∧ List.Forall₂ (ReadsAs grammar width) lines c.instructions) ∧
    (∀ line, Fits grammar width line ↔ ∀ error, ¬LineFault grammar width line error) ∧
    (∀ error, ofLines grammar width lines = .error error ↔
      ∃ before line later, lines = before ++ line :: later ∧
        (∀ earlier ∈ before, Fits grammar width earlier) ∧ LineFault grammar width line error) ∧
    ∀ more, ofLines grammar width (lines ++ more) =
      ofLines grammar width lines >>= (·.pushLines grammar more) :=
  ⟨exists_ofLines_eq_ok_iff, fun _ => ofLines_eq_ok_iff, fun _ => fits_iff_forall_not_lineFault,
    fun _ => pushLines_eq_error_iff, pushLines_append⟩

end

end CircuitScript.Circuit
