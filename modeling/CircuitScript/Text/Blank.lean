/-!
White space: the characters with the property of that name. They are what trimming removes and
what a blank line consists of.
-/
namespace CircuitScript.Text

/-- The first and last code point of each run of white space. -/
def whiteSpaceRuns : List (Nat × Nat) :=
  [(0x9, 0xD), (0x20, 0x20), (0x85, 0x85), (0xA0, 0xA0), (0x1680, 0x1680), (0x2000, 0x200A),
   (0x2028, 0x2029), (0x202F, 0x202F), (0x205F, 0x205F), (0x3000, 0x3000)]

def isWhiteSpace (c : Char) : Bool :=
  whiteSpaceRuns.any fun (first, last) => first ≤ c.toNat && c.toNat ≤ last

def trimmedEnd (text : List Char) : List Char :=
  (text.reverse.dropWhile isWhiteSpace).reverse

def trimmed (text : List Char) : List Char :=
  trimmedEnd (text.dropWhile isWhiteSpace)

theorem length_trimmed_le (text : List Char) : (trimmed text).length ≤ text.length := by
  have h₁ := (List.dropWhile_sublist isWhiteSpace (l := text)).length_le
  have h₂ := (List.dropWhile_sublist isWhiteSpace
    (l := (text.dropWhile isWhiteSpace).reverse)).length_le
  simp only [trimmed, trimmedEnd, List.length_reverse] at *
  omega

def isBlank (text : List Char) : Bool :=
  text.all isWhiteSpace

end CircuitScript.Text
