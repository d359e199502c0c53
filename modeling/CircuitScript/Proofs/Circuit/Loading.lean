import CircuitScript.Proofs.Circuit.Saving
/-!
Circuits are loaded from files of any make. How the lines of a file end and where blank lines stand
between them changes nothing of the circuit, and nothing of the error where there is one.
-/
namespace CircuitScript

namespace Text

/-- What an ending leaves as it is: a line without a line feed and without a carriage return at its
end. -/
def IsBare (line : String) : Prop :=
  '\n' ∉ line.toList ∧ line.toList.getLast? ≠ some '\r'

instance (line : String) : Decidable (IsBare line) := inferInstanceAs (Decidable (_ ∧ _))

/-- A text made of the lines: each ends in carriage returns and a line feed, and lines of white space
stand anywhere. After the last line feed there is white space or nothing, unless that line feed is
missing. -/
inductive IsFileOf : List String → List Char → Prop
  | line (first : String) (returns : Nat) {lines : List String} {rest : List Char}
      (h : IsFileOf lines rest) :
      IsFileOf (first :: lines)
        ((first.toList ++ List.replicate returns '\r') ++ '\n' :: rest)
  | blank {white : List Char} (hwhite : isBlank white = true) (hfeed : '\n' ∉ white)
      {lines : List String} {rest : List Char} (h : IsFileOf lines rest) :
      IsFileOf lines (white ++ '\n' :: rest)
  | lastLine (last : String) (returns : Nat) :
      IsFileOf [last] (last.toList ++ List.replicate returns '\r')
  | lastBlank {white : List Char} (hwhite : isBlank white = true) (hfeed : '\n' ∉ white) :
      IsFileOf [] white

theorem dropReturns_append_replicate {text : List Char} (h : text.getLast? ≠ some '\r')
    (returns : Nat) : dropReturns (text ++ List.replicate returns '\r') = text := by
  have hreturns : ∀ c ∈ List.replicate returns '\r', decide (c = carriageReturn) = true := by
    intro c hc
    rw [List.eq_of_mem_replicate hc]
    rfl
  calc dropReturns (text ++ List.replicate returns '\r')
      = dropReturns text := by
        rw [dropReturns, List.reverse_append, List.reverse_replicate,
          List.dropWhile_append_of_pos hreturns]
        rfl
    _ = text := dropReturns_of_getLast? h

theorem significantLines_of_lineFeed_not_mem {piece : List Char} (h : '\n' ∉ piece) :
    significantLines (String.ofList piece) =
      [readPiece piece].filter fun line => !isBlank line.toList := by
  rw [significantLines_eq, String.toList_ofList, cut_of_not_mem h, List.map_singleton]

theorem significantLines_ended {line : String} (h : IsBare line) (returns : Nat) :
    significantLines (String.ofList (line.toList ++ List.replicate returns '\r')) =
      [line].filter fun line => !isBlank line.toList := by
  have hfeed : '\n' ∉ line.toList ++ List.replicate returns '\r' := by
    simp [h.1, List.mem_replicate]
  rw [significantLines_of_lineFeed_not_mem hfeed, readPiece,
    dropReturns_append_replicate h.2, String.ofList_toList]

theorem significantLines_white {white : List Char} (h : isBlank white = true)
    (hfeed : '\n' ∉ white) : significantLines (String.ofList white) = [] := by
  have hpiece : isBlank (readPiece white).toList = true := by
    rw [readPiece, String.toList_ofList, isBlank, List.all_eq_true]
    intro c hc
    exact List.all_eq_true.1 h c (mem_of_mem_dropReturns hc)
  rw [significantLines_of_lineFeed_not_mem hfeed, List.filter_singleton, hpiece]
  rfl

theorem IsFileOf.significantLines_eq {lines : List String} {text : List Char}
    (h : IsFileOf lines text) (hbare : ∀ line ∈ lines, IsBare line) :
    significantLines (String.ofList text) = lines.filter fun line => !isBlank line.toList := by
  induction h with
  | line first returns _ ih =>
    obtain ⟨hfirst, hrest⟩ := List.forall_mem_cons.1 hbare
    rw [significantLines_append, significantLines_ended hfirst, ih hrest, ← List.filter_append]
    rfl
  | blank hwhite hfeed _ ih =>
    rw [significantLines_append, significantLines_white hwhite hfeed, ih hbare, List.nil_append]
  | lastLine last returns => exact significantLines_ended (hbare last List.mem_cons_self) returns
  | lastBlank hwhite hfeed => exact significantLines_white hwhite hfeed

end Text

namespace Circuit

variable {files : Directory} {folder stem : String} {width : UInt64}

/-- A file that is made of lines, whatever ends them and whatever white space stands between them,
is loaded as the lines that are not white space are read. -/
theorem load_of_isFileOf {lines : List String} {text : String}
    (hfile : files.read? (Path.ofText (Path.within folder (englishName stem width))) = some text)
    (hbare : ∀ line ∈ lines, Text.IsBare line) (htext : Text.IsFileOf lines text.toList) :
    load files folder stem width =
      ofLines .hash width (lines.filter fun line => !Text.isBlank line.toList) := by
  rw [load_of_read? hfile, ← htext.significantLines_eq hbare, String.ofList_toList]

theorem load_of_isFileOf_returns :
    let lines := ["HAD2\tAT\t0", "", "NOTA\ta\rb", "SIGX\tAT\t+1"]
    let text := " \t\nHAD2\tAT\t0\r\r\n\r\nNOTA\ta\rb\n \r\nSIGX\tAT\t+1\r"
    let files : Directory := ⟨[(["p_2_eng.txt"], text)], []⟩
    files.read? (Path.ofText (Path.within "." (englishName "p" 2))) = some text ∧
      (∀ line ∈ lines, Text.IsBare line) ∧ Text.IsFileOf lines text.toList ∧
      load files "." "p" 2 = .ok ⟨2, [.hadamard 0 [], .note "a\rb", .pauli .x 1 []]⟩ := by
  intro lines text files
  have hfile : files.read? (Path.ofText (Path.within "." (englishName "p" 2))) = some text := by
    decide +kernel
  have hbare : ∀ line ∈ lines, Text.IsBare line := by decide
  have hlast := Text.IsFileOf.lastLine "SIGX\tAT\t+1" 1
  have hnote := Text.IsFileOf.line "NOTA\ta\rb" 0
    (@Text.IsFileOf.blank [' ', '\r'] rfl (by decide) _ _ hlast)
  have hgate := Text.IsFileOf.line "HAD2\tAT\t0" 2 (.line "" 1 hnote)
  have htext : Text.IsFileOf lines text.toList := by
    convert @Text.IsFileOf.blank [' ', '\t'] rfl (by decide) _ _ hgate using 1
    decide +kernel
  refine ⟨hfile, hbare, htext, ?_⟩
  rw [load_of_isFileOf hfile hbare htext]
  apply Stateful.eq_ok_of_toOption
  decide +kernel

end Circuit

end CircuitScript
