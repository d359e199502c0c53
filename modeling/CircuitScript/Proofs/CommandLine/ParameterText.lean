import CircuitScript.CommandLine.ParameterText
import CircuitScript.Proofs.Decimal.Finite
import CircuitScript.Proofs.Stateful
import CircuitScript.Proofs.Text.Fields
import CircuitScript.Proofs.Text.Trimmed
/-!
Words of a command line, taken apart. The items of a list stand for what each of them stands for on
its own, whatever white space is around them. No word gives an infinite number, a text with white
space at an end, or an item of a list that is empty or holds a comma.
-/
namespace CircuitScript.Parameter

theorem ofChars_eq (word : List Char) :
    ofChars word = match bracketed? (Text.trimmed word) with
      | some inner => .list ((listItems inner).map ofChars)
      | none => ofAtom (Text.trimmed word) := by
  rw [ofChars]
  split
  · rename_i inner h
    rw [h]
    exact congrArg Parameter.list List.attach_map_val
  · rename_i h
    rw [h]

theorem ofChars_of_bracketed? {word inner : List Char}
    (h : bracketed? (Text.trimmed word) = some inner) :
    ofChars word = .list ((listItems inner).map ofChars) := by
  rw [ofChars_eq, h]

theorem ofChars_of_bracketed?_eq_none {word : List Char}
    (h : bracketed? (Text.trimmed word) = none) : ofChars word = ofAtom (Text.trimmed word) := by
  rw [ofChars_eq, h]

theorem ofChars_of_isPadded {padded word : List Char} (h : Text.IsPadded padded word) :
    ofChars padded = ofChars word := by
  rw [ofChars_eq, ofChars_eq word, Text.trimmed_of_isPadded h]

theorem ofChars_trimmed (word : List Char) : ofChars (Text.trimmed word) = ofChars word := by
  rw [ofChars_eq, ofChars_eq word, Text.trimmed_trimmed]

theorem bracketed?_brackets (inner : List Char) :
    bracketed? ('[' :: (inner ++ [']'])) = some inner := by
  rw [bracketed?, if_pos List.getLast?_concat, List.dropLast_concat]

structure IsItem (word : List Char) : Prop where
  not_blank : Text.isBlank word = false
  comma_not_mem : ',' ∉ word

theorem IsItem.trimmed_ne_nil {word : List Char} (h : IsItem word) : Text.trimmed word ≠ [] := by
  rw [Ne, Text.trimmed_eq_nil_iff, h.not_blank]
  decide

theorem isItem_of_mem_listItems {inner item : List Char} (h : item ∈ listItems inner) :
    IsItem item := by
  obtain ⟨hmem, hne⟩ := List.mem_filter.1 h
  obtain ⟨part, hpart, rfl⟩ := List.mem_map.1 hmem
  constructor
  · rw [← Bool.not_eq_true, ← Text.trimmed_eq_nil_iff, Text.trimmed_trimmed]
    simpa using hne
  · exact fun hcomma => Text.not_mem_of_mem_cut hpart (Text.mem_of_mem_trimmed hcomma)

theorem comma_not_mem_of_isPadded {padded word : List Char} (h : Text.IsPadded padded word)
    (hword : ',' ∉ word) : ',' ∉ padded := by
  have hblank {blank : List Char} (h : Text.isBlank blank = true) : ',' ∉ blank := fun hcomma =>
    absurd (List.all_eq_true.1 h _ hcomma) (by decide)
  obtain ⟨before, after, rfl, hbefore, hafter⟩ := h
  simp only [List.mem_append, not_or]
  exact ⟨hblank hbefore, hword, hblank hafter⟩

theorem listItems_joined {words padded : List (List Char)} (hwords : ∀ word ∈ words, IsItem word)
    (hpadded : List.Forall₂ Text.IsPadded padded words) :
    listItems (Text.joined ',' padded) = words.map Text.trimmed := by
  have hkept : (words.map Text.trimmed).filter (fun item => !item.isEmpty) =
      words.map Text.trimmed := by
    rw [List.filter_eq_self]
    intro item hitem
    obtain ⟨word, hword, rfl⟩ := List.mem_map.1 hitem
    simpa using (hwords word hword).trimmed_ne_nil
  have htrimmed : padded.map Text.trimmed = words.map Text.trimmed :=
    List.forall₂_eq_eq_eq ▸ List.forall₂_map_left_iff.2 (List.forall₂_map_right_iff.2
      (hpadded.imp fun _ _ => Text.trimmed_of_isPadded))
  have hcomma : ∀ part ∈ padded, ',' ∉ part :=
    Stateful.forall_mem_right ((List.forall₂_and_left _ _).2 ⟨hwords, hpadded.flip⟩)
      fun _ _ h => comma_not_mem_of_isPadded h.2 h.1.comma_not_mem
  cases hpadded with
  | nil => rfl
  | cons =>
    rw [listItems, Text.cut_joined (List.cons_ne_nil _ _) hcomma, htrimmed, hkept]

theorem isTrimmed_brackets (inner : List Char) : Text.IsTrimmed ('[' :: (inner ++ [']'])) where
  head := by
    rintro c ⟨⟩
    decide
  last := by
    rw [← List.cons_append, List.getLast?_concat]
    rintro c ⟨⟩
    decide

theorem ofChars_list {words padded : List (List Char)} (hwords : ∀ word ∈ words, IsItem word)
    (hpadded : List.Forall₂ Text.IsPadded padded words) :
    ofChars ('[' :: (Text.joined ',' padded ++ [']'])) = .list (words.map ofChars) := by
  have hinner : bracketed? (Text.trimmed ('[' :: (Text.joined ',' padded ++ [']']))) =
      some (Text.joined ',' padded) := by
    rw [(isTrimmed_brackets _).trimmed_eq, bracketed?_brackets]
  rw [ofChars_of_bracketed? hinner, listItems_joined hwords hpadded, List.map_map]
  congr 1
  exact List.map_congr_left fun word _ => ofChars_trimmed word

/-- What a word can stand for: finite numbers and trimmed texts, and inside a list no text that is
empty or holds a comma. -/
inductive IsClear : (nested : Bool) → Parameter → Prop
  | int {nested : Bool} (n : Int64) : IsClear nested (.int n)
  | float {nested : Bool} {x : Float} (h : x.isFinite = true) : IsClear nested (.float x)
  | flag {nested : Bool} (b : Bool) : IsClear nested (.flag b)
  | text {nested : Bool} {text : String} (h : Text.IsTrimmed text.toList)
      (hn : nested = true → text ≠ "" ∧ ',' ∉ text.toList) : IsClear nested (.text text)
  | list {nested : Bool} {items : List Parameter} (h : ∀ item ∈ items, IsClear true item) :
      IsClear nested (.list items)

theorem isClear_ofAtom {nested : Bool} {word : List Char} (h : Text.IsTrimmed word)
    (hn : nested = true → word ≠ [] ∧ ',' ∉ word) : IsClear nested (ofAtom word) := by
  have htext : IsClear nested (.text (String.ofList word)) := by
    apply IsClear.text
    · rwa [String.toList_ofList]
    · simpa using hn
  unfold ofAtom
  split
  · exact .flag true
  split
  · exact .flag false
  split
  · exact .int _
  · split
    · exact .float (Decimal.Literal.isFinite_toFloat ‹_›)
    · exact htext
  · exact htext

theorem isClear_ofChars (word : List Char) {nested : Bool} (hn : nested = true → IsItem word) :
    IsClear nested (ofChars word) := by
  cases h : bracketed? (Text.trimmed word) with
  | some inner =>
    rw [ofChars_of_bracketed? h]
    constructor
    intro item hitem
    obtain ⟨part, hpart, rfl⟩ := List.mem_map.1 hitem
    exact isClear_ofChars part fun _ => isItem_of_mem_listItems hpart
  | none =>
    rw [ofChars_of_bracketed?_eq_none h]
    apply isClear_ofAtom (Text.isTrimmed_trimmed word)
    intro hnested
    have hitem := hn hnested
    exact ⟨hitem.trimmed_ne_nil, fun hcomma =>
      hitem.comma_not_mem (Text.mem_of_mem_trimmed hcomma)⟩
termination_by word.length
decreasing_by
  have h₁ := length_of_bracketed? h
  have h₂ := Text.length_trimmed_le word
  have h₃ := length_le_of_mem_listItems hpart
  omega

/-- Lists are decoded item by item and white space around a word does not count; whatever the word,
its parameter is clear. -/
theorem ofWord_itemwise :
    (∀ words padded : List String, (∀ word ∈ words, IsItem word.toList) →
      List.Forall₂ (fun padded word => Text.IsPadded padded.toList word.toList) padded words →
      ofWord ("[" ++ ",".intercalate padded ++ "]") = .list (words.map ofWord)) ∧
    (∀ padded word : String, Text.IsPadded padded.toList word.toList →
      ofWord padded = ofWord word) ∧
    ∀ word : String, IsClear false (ofWord word) := by
  refine ⟨?_, fun padded word h => ofChars_of_isPadded h, fun word => isClear_ofChars _ (by simp)⟩
  intro words padded hwords hpadded
  have hitems : ∀ word ∈ words.map String.toList, IsItem word := by
    intro item hitem
    obtain ⟨word, hword, rfl⟩ := List.mem_map.1 hitem
    exact hwords word hword
  have hpairs : List.Forall₂ Text.IsPadded (padded.map String.toList) (words.map String.toList) :=
    List.forall₂_map_left_iff.2 (List.forall₂_map_right_iff.2 hpadded)
  have hchars : ("[" ++ ",".intercalate padded ++ "]").toList =
      '[' :: (Text.joined ',' (padded.map String.toList) ++ [']']) := by
    rw [String.toList_append, String.toList_append]
    exact congrArg (fun inner => '[' :: (inner ++ [']'])) (Text.toList_intercalate ',' padded)
  rw [ofWord, hchars, ofChars_list hitems hpairs, List.map_map]
  rfl

theorem ofWord_itemwise_nested :
    (∀ word ∈ ["[1]", "[#2]"], IsItem word.toList) ∧
      ofWord "\t[ [1],[#2] ] " = .list [ofWord "[1]", ofWord "[#2]"] := by
  have hitems : ∀ word ∈ ["[1]", "[#2]"], IsItem word.toList :=
    List.forall_mem_cons.2 ⟨⟨by decide, by decide⟩,
      List.forall_mem_singleton.2 ⟨by decide, by decide⟩⟩
  have hpadded : List.Forall₂ (fun padded word => Text.IsPadded padded.toList word.toList)
      [" [1]", "[#2] "] ["[1]", "[#2]"] :=
    .cons ⟨[' '], [], by decide, by decide, by decide⟩
      (.cons ⟨[], [' '], by decide, by decide, by decide⟩ .nil)
  have hword : "[" ++ ",".intercalate [" [1]", "[#2] "] ++ "]" = "[ [1],[#2] ]" := by decide
  have hlist := ofWord_itemwise.1 _ _ hitems hpadded
  rw [hword] at hlist
  refine ⟨hitems, (ofWord_itemwise.2.1 _ _ ?_).trans hlist⟩
  exact ⟨['\t'], [' '], by decide, by decide, by decide⟩

end CircuitScript.Parameter
