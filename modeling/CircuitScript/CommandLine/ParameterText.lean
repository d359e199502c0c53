import CircuitScript.Decimal.Literal
import CircuitScript.Parameter
import CircuitScript.Text.Blank
import CircuitScript.Text.Fields
/-!
Parameters as words of a command line. Brackets make a list of what stands between commas, `true`
and `false` are flags, then come whole numbers and finite real numbers, and all else is text. White
space around a word, and items that hold nothing else, do not count.
-/
namespace CircuitScript.Parameter

def bracketed? : List Char → Option (List Char)
  | '[' :: rest => if rest.getLast? = some ']' then some rest.dropLast else none
  | _ => none

theorem length_of_bracketed? {text inner : List Char} (h : bracketed? text = some inner) :
    inner.length < text.length := by
  unfold bracketed? at h
  split at h
  · split at h
    · obtain rfl := Option.some.inj h
      simp only [List.length_dropLast, List.length_cons]
      omega
    · simp at h
  · simp at h

def listItems (inner : List Char) : List (List Char) :=
  ((Text.cut ',' inner).map Text.trimmed).filter fun item => !item.isEmpty

theorem length_le_of_mem_listItems {inner item : List Char} (h : item ∈ listItems inner) :
    item.length ≤ inner.length := by
  obtain ⟨part, hp, rfl⟩ := List.mem_map.1 (List.mem_filter.1 h).1
  exact Nat.le_trans (Text.length_trimmed_le part) (Text.length_le_of_mem_cut hp)

def ofAtom (word : List Char) : Parameter :=
  if word = "true".toList then .flag true
  else if word = "false".toList then .flag false
  else match Text.signed64? word, Decimal.readLiteral? word with
    | some n, _ => .int (Int64.ofInt n)
    | none, some literal =>
      if literal.isFinite then .float literal.toFloat else .text (String.ofList word)
    | none, none => .text (String.ofList word)

def ofChars (word : List Char) : Parameter :=
  match _h : bracketed? (Text.trimmed word) with
  | some inner => .list ((listItems inner).attach.map fun ⟨item, _⟩ => ofChars item)
  | none => ofAtom (Text.trimmed word)
termination_by word.length
decreasing_by
  rename_i hitem
  have h₁ := length_of_bracketed? _h
  have h₂ := Text.length_trimmed_le word
  have h₃ := length_le_of_mem_listItems hitem
  omega

def ofWord (word : String) : Parameter := ofChars word.toList

end CircuitScript.Parameter
