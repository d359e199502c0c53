/-!
Splitting a text into lexemes. A rule takes the longest beginning of the text that fits any rule and
may still refuse it. Where nothing fits or the rule refuses, the whole text has no lexemes.
-/
namespace CircuitScript.Text

structure Rule (τ : Type) where
  fits : List Char → Bool
  lexeme? : List Char → Option τ

variable {τ : Type} (rules : List (Rule τ))

def longestWord? (text : List Char) : Nat → Option (List Char × Rule τ)
  | 0 => none
  | n + 1 =>
    match rules.find? (·.fits (text.take (n + 1))) with
    | some rule => some (text.take (n + 1), rule)
    | none => longestWord? text n

/-- The lexemes of what follows so many characters, which belong to a word read before. -/
def lexemesAfter? : Nat → List Char → Option (List τ)
  | _, [] => some []
  | passed + 1, _ :: rest => lexemesAfter? passed rest
  | 0, c :: rest => do
    let (word, rule) ← longestWord? rules (c :: rest) (rest.length + 1)
    let lexeme ← rule.lexeme? word
    (lexemesAfter? (word.length - 1) rest).map (lexeme :: ·)

def lexemes? (text : List Char) : Option (List τ) := lexemesAfter? rules 0 text

end CircuitScript.Text
