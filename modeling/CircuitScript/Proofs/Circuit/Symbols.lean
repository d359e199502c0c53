import CircuitScript.Circuit.Symbols
import CircuitScript.Proofs.Circuit.TextBuilt
import Mathlib.Data.List.Nodup
/-!
The names of a circuit against the list of all its mentions. The collection takes the mentions one
by one and leaves each value where it is mentioned first; so two parts of a circuit can be collected
apart.
-/
namespace CircuitScript

namespace Symbols

section

variable {α : Type} [BEq α] [LawfulBEq α] {seen values : List α} {value : α}

theorem addUnseen_of_mem (h : value ∈ seen) : addUnseen seen value = seen :=
  if_pos (List.contains_iff_mem.2 h)

theorem addUnseen_of_not_mem (h : value ∉ seen) : addUnseen seen value = seen ++ [value] :=
  if_neg (mt List.contains_iff_mem.1 h)

theorem mem_removeAll_iff {others : List α} :
    value ∈ values.removeAll others ↔ value ∈ values ∧ value ∉ others := by
  simp [List.removeAll]

theorem eraseDups_append_singleton (values : List α) (value : α) :
    (values ++ [value]).eraseDups = addUnseen values.eraseDups value := by
  rw [List.eraseDups_append]
  by_cases hmem : value ∈ values
  · rw [addUnseen_of_mem (List.mem_eraseDups.2 hmem)]
    simp [List.removeAll, hmem]
  · rw [addUnseen_of_not_mem (mt List.mem_eraseDups.1 hmem)]
    simp [List.removeAll, hmem, List.eraseDups_cons]

theorem addUnseen_append_removeAll (seen values : List α) (value : α) :
    addUnseen (seen ++ values.removeAll seen) value =
      seen ++ (addUnseen values value).removeAll seen := by
  by_cases hseen : value ∈ seen
  · rw [addUnseen_of_mem (List.mem_append_left _ hseen)]
    by_cases hvalues : value ∈ values
    · rw [addUnseen_of_mem hvalues]
    · rw [addUnseen_of_not_mem hvalues]
      simp [List.removeAll, hseen]
  · by_cases hvalues : value ∈ values
    · have hmem := mem_removeAll_iff.2 ⟨hvalues, hseen⟩
      rw [addUnseen_of_mem (List.mem_append_right _ hmem), addUnseen_of_mem hvalues]
    · have hmem : value ∉ seen ++ values.removeAll seen := by
        rw [List.mem_append, mem_removeAll_iff]
        rintro (h | h)
        · exact hseen h
        · exact hvalues h.1
      rw [addUnseen_of_not_mem hmem, addUnseen_of_not_mem hvalues]
      simp [List.removeAll, hseen]

/-- Behind the values seen before stand the first mentions of the others. -/
theorem foldl_addUnseen (seen values : List α) :
    values.foldl addUnseen seen = seen ++ values.eraseDups.removeAll seen := by
  induction values using List.reverseRecOn with
  | nil => simp [List.removeAll]
  | append_singleton values value ih =>
    rw [List.foldl_append, List.foldl_cons, List.foldl_nil, ih, addUnseen_append_removeAll,
      eraseDups_append_singleton]

theorem foldl_addUnseen_nil (values : List α) : values.foldl addUnseen [] = values.eraseDups := by
  rw [foldl_addUnseen]
  simp [List.removeAll]

theorem eraseDups_append_eq (first second : List α) :
    (first ++ second).eraseDups =
      first.eraseDups ++ second.eraseDups.removeAll first.eraseDups := by
  rw [← foldl_addUnseen_nil, List.foldl_append, foldl_addUnseen_nil, foldl_addUnseen]

theorem nodup_addUnseen (h : seen.Nodup) : (addUnseen seen value).Nodup := by
  by_cases hmem : value ∈ seen
  · rwa [addUnseen_of_mem hmem]
  · rw [addUnseen_of_not_mem hmem, ← List.concat_eq_append]
    exact h.concat hmem

theorem nodup_eraseDups (values : List α) : values.eraseDups.Nodup := by
  induction values using List.reverseRecOn with
  | nil => exact List.nodup_nil
  | append_singleton values value ih =>
    rw [eraseDups_append_singleton]
    exact nodup_addUnseen ih

end

variable {grammar : PlaceholderGrammar}

theorem foldl_addToken (symbols : Symbols) (tokens : List String) :
    tokens.foldl (addToken grammar) symbols =
      ⟨((tokens.filter grammar.isLegal).flatMap grammar.variableNumbers).foldl addUnseen
          symbols.variableNumbers,
        ((tokens.filter grammar.isLegal).filterMap grammar.function).foldl addUnseen
          symbols.functions⟩ := by
  induction tokens generalizing symbols with
  | nil => rfl
  | cons token tokens ih =>
    rw [List.foldl_cons, ih, addToken]
    by_cases hlegal : grammar.isLegal token = true
    · rw [if_pos hlegal, List.filter_cons_of_pos hlegal, List.flatMap_cons, List.foldl_append]
      cases hname : grammar.function token with
      | none => rw [List.filterMap_cons_none hname]
      | some name => rw [List.filterMap_cons_some hname, List.foldl_cons]
    · rw [if_neg hlegal, List.filter_cons_of_neg hlegal]

end Symbols

/-- The fields that are scanned for names, constructor by constructor: none of a comment. -/
def Instruction.scannedFields : Instruction → List String
  | .phase _ angle _ _ | .rotation _ angle _ _ => [angle.text]
  | .rotationVector x y z _ _ => [x.text, y.text, z.text]
  | .diagonal _ coefficients | .multiplexor _ _ coefficients => coefficients.map Angle.text
  | .foreign _ fields => fields
  | .hadamard _ _ | .pauli _ _ _ | .swap _ _ _ | .measure _ _ | .note _ | .print _
  | .loopBegin _ _ | .loopEnd _ | .conditionBegin _ | .conditionEnd => []

theorem Instruction.tokens_eq_scannedFields : tokens = scannedFields := by
  funext instruction
  cases instruction <;> rfl

namespace Circuit

def legalTokens (grammar : PlaceholderGrammar) (c : Circuit) : List String :=
  (c.instructions.flatMap Instruction.scannedFields).filter grammar.isLegal

/-- All variables that legal tokens report, as often as they do. -/
def variableMentions (grammar : PlaceholderGrammar) (c : Circuit) : List UInt32 :=
  (c.legalTokens grammar).flatMap grammar.variableNumbers

def functionMentions (grammar : PlaceholderGrammar) (c : Circuit) : List String :=
  (c.legalTokens grammar).filterMap grammar.function

variable {grammar : PlaceholderGrammar}

theorem symbols_eq (c : Circuit) :
    c.symbols grammar =
      ⟨(c.variableMentions grammar).eraseDups, (c.functionMentions grammar).eraseDups⟩ := by
  rw [← Symbols.foldl_addUnseen_nil, ← Symbols.foldl_addUnseen_nil, variableMentions,
    functionMentions, legalTokens, ← Symbols.foldl_addToken ⟨[], []⟩, List.foldl_flatMap,
    ← Instruction.tokens_eq_scannedFields]
  rfl

theorem legalTokens_append (a b : Circuit) :
    legalTokens grammar ⟨a.width, a.instructions ++ b.instructions⟩ =
      a.legalTokens grammar ++ b.legalTokens grammar := by
  simp only [legalTokens, List.flatMap_append, List.filter_append]

theorem mem_variableNumbers_symbols_iff {c : Circuit} {number : UInt32} :
    number ∈ (c.symbols grammar).variableNumbers ↔
      ∃ instruction ∈ c.instructions, ∃ token ∈ instruction.tokens,
        grammar.isLegal token = true ∧ number ∈ grammar.variableNumbers token := by
  rw [symbols_eq, List.mem_eraseDups, variableMentions, legalTokens,
    ← Instruction.tokens_eq_scannedFields]
  simp only [List.mem_flatMap, List.mem_filter]
  grind

theorem mem_functions_symbols_iff {c : Circuit} {name : String} :
    name ∈ (c.symbols grammar).functions ↔
      ∃ instruction ∈ c.instructions, ∃ token ∈ instruction.tokens,
        grammar.isLegal token = true ∧ grammar.function token = some name := by
  rw [symbols_eq, List.mem_eraseDups, functionMentions, legalTokens,
    ← Instruction.tokens_eq_scannedFields]
  simp only [List.mem_filterMap, List.mem_flatMap, List.mem_filter]
  grind

theorem nodup_variableNumbers_symbols {c : Circuit} :
    (c.symbols grammar).variableNumbers.Nodup := by
  rw [symbols_eq]
  exact Symbols.nodup_eraseDups _

theorem nodup_functions_symbols {c : Circuit} : (c.symbols grammar).functions.Nodup := by
  rw [symbols_eq]
  exact Symbols.nodup_eraseDups _

theorem symbols_append (a b : Circuit) :
    symbols grammar ⟨a.width, a.instructions ++ b.instructions⟩ =
      ⟨(a.symbols grammar).variableNumbers ++
          (b.symbols grammar).variableNumbers.removeAll (a.symbols grammar).variableNumbers,
        (a.symbols grammar).functions ++
          (b.symbols grammar).functions.removeAll (a.symbols grammar).functions⟩ := by
  simp only [symbols_eq, variableMentions, functionMentions, legalTokens_append,
    List.flatMap_append, List.filterMap_append, Symbols.eraseDups_append_eq]

/-- The names of a circuit are what its legal tokens report, each value at its first mention and no
value twice. The names of a sum are those of the first part and then the names of the second part
that are new. -/
theorem symbols_firstMentions (grammar : PlaceholderGrammar) :
    (∀ c : Circuit,
      (c.symbols grammar).variableNumbers = (c.variableMentions grammar).eraseDups ∧
      (c.symbols grammar).functions = (c.functionMentions grammar).eraseDups ∧
      (c.symbols grammar).variableNumbers.Nodup ∧ (c.symbols grammar).functions.Nodup) ∧
    ∀ a b : Circuit, a.width = b.width →
      ∃ ab, (a + b : Except Abort Circuit) = .ok ab ∧
        (ab.symbols grammar).variableNumbers =
          (a.symbols grammar).variableNumbers ++
            (b.symbols grammar).variableNumbers.removeAll (a.symbols grammar).variableNumbers ∧
        (ab.symbols grammar).functions =
          (a.symbols grammar).functions ++
            (b.symbols grammar).functions.removeAll (a.symbols grammar).functions := by
  constructor
  · intro c
    refine ⟨?_, ?_, nodup_variableNumbers_symbols, nodup_functions_symbols⟩
    · rw [symbols_eq]
    · rw [symbols_eq]
  · intro a b hwidth
    refine ⟨_, hAdd_eq_ok_iff.2 (concat_eq_ok_iff.2 ⟨hwidth, rfl⟩), ?_⟩
    rw [symbols_append]
    exact ⟨rfl, rfl⟩

theorem symbols_firstMentions_foreign :
    let a : Circuit := ⟨2, [.rotation .x (.placeholder "-g#2#1") 1 [⟨0, .isOne⟩], .note "#9"]⟩
    let b : Circuit := ⟨2, [.foreign "CUSTOM" ["f#7", "AT", "#2", "g#7"]]⟩
    a.width = b.width ∧ ∃ ab, (a + b : Except Abort Circuit) = .ok ab ∧
      (ab.symbols .hash).variableNumbers = [2, 1, 7] ∧
      (ab.symbols .hash).functions = ["g", "f"] := by
  intro a b
  obtain ⟨ab, hadd, hvariables, hfunctions⟩ := (symbols_firstMentions .hash).2 a b rfl
  refine ⟨rfl, ab, hadd, hvariables.trans ?_, hfunctions.trans ?_⟩
  · decide +kernel
  · decide +kernel

end Circuit

end CircuitScript
