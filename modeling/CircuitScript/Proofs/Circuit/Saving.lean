import CircuitScript.Proofs.Circuit.Append
import CircuitScript.Proofs.Circuit.TextBuilt
import CircuitScript.Proofs.Directory
import CircuitScript.Proofs.OneLine
/-!
Circuits that are saved and loaded again. A circuit comes back as it was exactly when each of its
lines is one that a file keeps. Loaded circuits are of this kind, and every operation keeps it; only
lines that were never in a file can be of another kind.
-/
namespace CircuitScript

open Stateful

theorem numbered_injective {stem stem' ending : String} {m n : Nat}
    (h : stem ++ "_" ++ Text.decimal m ++ ending = stem' ++ "_" ++ Text.decimal n ++ ending) :
    stem = stem' ∧ m = n := by
  have hunder (n : Nat) : '_' ∉ (Nat.toDigits 10 n).reverse := by
    intro hmem
    exact absurd ((Text.isDigits_toDigits n).2.1 '_' (List.mem_reverse.1 hmem)) (by decide)
  -- Read from its end, the name has digits up to the last mark before them.
  have hreverse : (Nat.toDigits 10 m).reverse ++ '_' :: stem.toList.reverse =
      (Nat.toDigits 10 n).reverse ++ '_' :: stem'.toList.reverse := by
    have hlists := congrArg String.toList h
    simp only [String.toList_append, Text.toList_decimal] at hlists
    have hfront := congrArg List.reverse (List.append_cancel_right hlists)
    simpa using hfront
  obtain ⟨hdigits, hstem⟩ := Instruction.append_cons_inj (hunder _) (hunder _) hreverse
  constructor
  · exact String.toList_inj.1 (List.reverse_injective hstem)
  · have hvalue := congrArg (Nat.ofDigitChars 10 · 0) (List.reverse_injective hdigits)
    simpa only [Nat.ofDigitChars_ten_toDigits] using hvalue

theorem englishName_injective {stem stem' : String} {width width' : UInt64}
    (h : englishName stem width = englishName stem' width') : stem = stem' ∧ width = width' :=
  (numbered_injective h).imp_right UInt64.toNat_inj.1

namespace Circuit

structure Storable (c : Circuit) : Prop extends Sound c where
  significant : ∀ instruction ∈ c.instructions, Text.Significant instruction.text

section

variable {a b c d : Circuit} {width : UInt64} {lines : List String}

theorem significant_iff_of_readsAs {grammar : PlaceholderGrammar}
    {instructions : List Instruction}
    (h : List.Forall₂ (ReadsAs grammar width) lines instructions) :
    (∀ line ∈ lines, Text.Significant line) ↔
      ∀ instruction ∈ instructions, Text.Significant instruction.text := by
  induction h with
  | nil => simp
  | cons hread _ ih =>
    rw [List.forall_mem_cons, List.forall_mem_cons, ih,
      Instruction.significant_text_iff hread.1]

theorem storable_iff_of_ofLines (h : ofLines .hash width lines = .ok c) :
    c.Storable ↔ ∀ line ∈ lines, Text.Significant line := by
  rw [significant_iff_of_readsAs (ofLines_eq_ok_iff.1 h).2]
  exact ⟨fun hc => hc.significant, fun hs => ⟨sound_ofLines h, hs⟩⟩

theorem Storable.significant_lines (h : c.Storable) : ∀ line ∈ c.lines, Text.Significant line := by
  intro line hmem
  obtain ⟨instruction, hinstruction, rfl⟩ := List.mem_map.1 hmem
  exact h.significant instruction hinstruction

theorem Storable.ofLines_english (h : c.Storable) :
    ofLines .hash c.width (Text.significantLines c.english) = .ok c := by
  rw [english, Text.significantLines_ofLines_eq_iff.2 h.significant_lines]
  exact ofLines_lines h.wellFormed h.within

theorem storable_of_significantLines {text : String}
    (h : ofLines .hash width (Text.significantLines text) = .ok c) : c.Storable :=
  (storable_iff_of_ofLines h).2 fun _ => Text.significant_of_mem

/-! Operations. -/

theorem Storable.of_subset (h : c.Storable) (hsound : d.Sound)
    (hsub : ∀ instruction ∈ d.instructions, instruction ∈ c.instructions) : d.Storable :=
  ⟨hsound, fun instruction hmem => h.significant instruction (hsub instruction hmem)⟩

theorem storable_empty (width : UInt64) : (empty width).Storable :=
  ⟨sound_of_readsAs .nil, by simp [empty]⟩

theorem significant_of_build {name : String} {parameters : List Parameter}
    {instruction : Instruction} (h : build width name parameters = .ok instruction) :
    Text.Significant instruction.text := by
  obtain ⟨op, denoted, -, hdenotes, -, -, hbuild⟩ | ⟨error, hbuild, -⟩ :=
    build_cases width name parameters
  · rw [hbuild] at h
    cases h
    exact hdenotes.unambiguous.significant_text
  · rw [hbuild] at h
    cases h

theorem Storable.append {name : String} {parameters : List Parameter} (h : c.Storable)
    (ha : c.append name parameters = .ok d) : d.Storable := by
  obtain ⟨instruction, hbuild, rfl⟩ := append_eq_ok_iff_build.1 ha
  refine ⟨h.toSound.build hbuild, ?_⟩
  intro other hmem
  obtain hmem | hmem := List.mem_append.1 hmem
  · exact h.significant other hmem
  · rw [List.mem_singleton.1 hmem]
    exact significant_of_build hbuild

theorem Storable.extend (ha : a.Storable) (hb : b.Storable) : (a.extend b).1.Storable := by
  refine ⟨ha.toSound.extend hb.toSound, ?_⟩
  by_cases hwidth : a.width = b.width
  · rw [extend_of_eq hwidth]
    intro instruction hmem
    have hcases := List.mem_append.1 hmem
    exact hcases.elim (ha.significant instruction) (hb.significant instruction)
  · rw [extend_of_ne hwidth]
    exact ha.significant

theorem Storable.sliceStep {start stop : Option Int64} {step : Int64} (h : c.Storable)
    (hs : c.sliceStep start stop step = .ok d) : d.Storable :=
  h.of_subset (h.toSound.sliceStep hs) (sliceStep_subset hs)

theorem Storable.adjoint (h : c.Storable) (ha : c.adjoint = .ok d) : d.Storable := by
  refine ⟨h.toSound.adjoint ha, ?_⟩
  obtain ⟨-, rfl⟩ := adjoint_eq_ok_iff.1 ha
  intro instruction hmem
  obtain ⟨original, horiginal, rfl⟩ := List.mem_map.1 hmem
  rw [List.mem_reverse] at horiginal
  exact (h.wellFormed original horiginal).significant_negated.2 (h.significant original horiginal)

end

/-! Files. -/

section

variable {c : Circuit} {files : Directory} {folder stem : String} {place : Path} {width : UInt64}

theorem load_of_read? {text : String}
    (h : files.read? (Path.ofText (Path.within folder (englishName stem width))) = some text) :
    load files folder stem width = ofLines .hash width (Text.significantLines text) := by
  unfold load Directory.read
  rw [h]
  rfl

theorem load_eq_ok_iff :
    load files folder stem width = .ok c ↔
      ∃ text, files.read? (Path.ofText (Path.within folder (englishName stem width))) = some text ∧
        ofLines .hash width (Text.significantLines text) = .ok c := by
  unfold load Directory.read
  cases files.read? _ with
  | none => simp [bind, Except.bind]
  | some text => simp [bind, Except.bind]

theorem pushLine_ne_missingFile {grammar : PlaceholderGrammar} {line : String} :
    c.pushLine grammar line ≠ .error .missingFile := by
  obtain ⟨instruction, hline⟩ | ⟨fault, hread⟩ := Instruction.line_or_malformed grammar line
  · unfold pushLine push pushInPlace
    rw [hline.read_eq_ok]
    change Except.mapError _ _ ≠ _
    split <;> simp [result, Except.map, Except.mapError, CircuitError.withLine]
  · unfold pushLine
    rw [hread]
    simp [bind, Except.bind]

theorem pushLines_ne_missingFile {grammar : PlaceholderGrammar} {lines : List String} :
    c.pushLines grammar lines ≠ .error .missingFile := by
  induction lines generalizing c with
  | nil => simp [pushLines]
  | cons line lines ih =>
    rw [pushLines]
    have hline : c.pushLine grammar line ≠ .error .missingFile := pushLine_ne_missingFile
    cases hpushed : c.pushLine grammar line with
    | ok pushed => exact ih
    | error error =>
      rw [hpushed] at hline
      exact hline

theorem load_eq_missingFile_iff :
    load files folder stem width = .error .missingFile ↔
      files.read? (Path.ofText (Path.within folder (englishName stem width))) = none := by
  unfold load Directory.read
  cases files.read? _ with
  | none => simp [bind, Except.bind]
  | some text => simp [bind, Except.bind, ofLines, pushLines_ne_missingFile]

theorem storable_load (h : load files folder stem width = .ok c) :
    c.width = width ∧ c.Storable := by
  obtain ⟨text, -, hlines⟩ := load_eq_ok_iff.1 h
  exact ⟨(ofLines_eq_ok_iff.1 hlines).1, storable_of_significantLines hlines⟩

theorem save_eq (h : files.HasAt folder place) (hstem : '/' ∉ stem.toList) :
    c.save files folder stem =
      .ok (files.put (place ++ [englishName stem c.width]) c.english) :=
  h.write (isName_englishName hstem c.width) c.english

theorem load_put_self (h : files.HasAt folder place) (hstem : '/' ∉ stem.toList) (width : UInt64)
    (text : String) :
    load (files.put (place ++ [englishName stem width]) text) folder stem width =
      ofLines .hash width (Text.significantLines text) :=
  load_of_read? (h.read?_put_self (isName_englishName hstem width) text)

theorem load_put_of_ne {other : String} {otherWidth : UInt64} (h : files.HasAt folder place)
    (hother : '/' ∉ other.toList) (hne : ¬(other = stem ∧ otherWidth = width)) (text : String) :
    load (files.put (place ++ [englishName stem width]) text) folder other otherWidth =
      load files folder other otherWidth := by
  unfold load Directory.read
  rw [h.read?_put_of_ne (isName_englishName hother otherWidth) (mt englishName_injective hne)]

/-- A circuit read from lines comes back from its file exactly when each of the lines is one that a
file keeps. Then the file has a line for each instruction. -/
theorem load_save_iff {lines : List String} (h : files.HasAt folder place)
    (hstem : '/' ∉ stem.toList) (hread : ofLines .hash width lines = .ok c) :
    ∃ saved, c.save files folder stem = .ok saved ∧
      saved.read? (Path.ofText (Path.within folder (englishName stem width))) = some c.english ∧
      (load saved folder stem width = .ok c ↔ ∀ line ∈ lines, Text.Significant line) ∧
      ((∀ line ∈ lines, Text.Significant line) → Text.lines c.english = c.lines) := by
  have hwidth := (ofLines_eq_ok_iff.1 hread).1
  subst hwidth
  have hname := isName_englishName hstem c.width
  have hstorable := storable_iff_of_ofLines hread
  refine ⟨_, save_eq h hstem, h.read?_put_self hname c.english, ?_, ?_⟩
  · rw [← hstorable]
    constructor
    · intro hback
      exact (storable_load hback).2
    · intro hc
      rw [load_put_self h hstem, hc.ofLines_english]
  · intro hlines
    exact Text.lines_ofLines (hstorable.2 hlines).significant_lines

theorem load_save_iff_words :
    let files : Directory := ⟨[], [["out"]]⟩
    let lines := ["HAD2\tAT\t+01", "NOTA\ttwo words\t", "ORACLE\tf#1"]
    let c : Circuit := ⟨2, [.hadamard 1 [], .note "two words\t", .foreign "ORACLE" ["f#1"]]⟩
    files.HasAt "./out/" ["out"] ∧ '/' ∉ "p".toList ∧ ofLines .hash 2 lines = .ok c ∧
      ∃ saved, c.save files "./out/" "p" = .ok saved ∧ load saved "./out/" "p" 2 = .ok c := by
  intro files lines c
  have hplace : files.HasAt "./out/" ["out"] := ⟨by decide, by decide⟩
  have hstem : '/' ∉ "p".toList := by decide
  have hread : ofLines .hash 2 lines = .ok c := by
    apply eq_ok_of_toOption
    decide +kernel
  obtain ⟨saved, hsave, -, hload, -⟩ := load_save_iff hplace hstem hread
  exact ⟨hplace, hstem, hread, saved, hsave, hload.2 (by decide)⟩

/-- A note over two lines comes back as two instructions, and the circuit is another one. -/
theorem load_save_ne_of_two_lines :
    let c : Circuit := ⟨2, [.note "first\nHAD2\tAT\t0"]⟩
    ofLines .hash 2 ["NOTA\tfirst\nHAD2\tAT\t0"] = .ok c ∧
      ∃ saved, c.save .empty "." "p" = .ok saved ∧
        load saved "." "p" 2 = .ok ⟨2, [.note "first", .hadamard 0 []]⟩ ∧
        load saved "." "p" 2 ≠ .ok c := by
  intro c
  have hread : ofLines .hash 2 ["NOTA\tfirst\nHAD2\tAT\t0"] = .ok c := by
    apply eq_ok_of_toOption
    decide +kernel
  have hplace : Directory.empty.HasAt "." [] := ⟨by decide, by decide⟩
  have hstem : '/' ∉ "p".toList := by decide
  have hload := load_put_self hplace hstem 2 c.english
  have hinjected : ofLines .hash 2 (Text.significantLines c.english) =
      .ok ⟨2, [.note "first", .hadamard 0 []]⟩ := by
    apply eq_ok_of_toOption
    decide +kernel
  rw [hinjected] at hload
  refine ⟨hread, _, save_eq hplace hstem, hload, ?_⟩
  rw [hload]
  simp [c]

end

end Circuit

end CircuitScript
