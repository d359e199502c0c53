import CircuitScript.Yaml.White
/-!
Quoted scalars. Between single quotes a quote is written twice; between double quotes a backslash
begins an escape, and one at the end of a line joins it with the next without a space.
-/
namespace CircuitScript.Yaml.Quoted

def codeWidth? : Char → Option Nat
  | 'x' => some 2
  | 'u' => some 4
  | 'U' => some 8
  | _ => none

def escaped? : Char → Option Char
  | '0' => some '\x00'
  | 'a' => some '\x07'
  | 'b' => some '\x08'
  | 't' | '\t' => some '\t'
  | 'n' => some '\n'
  | 'v' => some '\x0b'
  | 'f' => some '\x0c'
  | 'r' => some '\r'
  | 'e' => some '\x1b'
  | ' ' => some ' '
  | '"' => some '"'
  | '/' => some '/'
  | '\\' => some '\\'
  | 'N' => some '\u0085'
  | '_' => some '\u00a0'
  | 'L' => some '\u2028'
  | 'P' => some '\u2029'
  | _ => none

def readEscape? (c : Cursor) : Option (Char × Cursor) := do
  let letter ← c.peek?
  match codeWidth? letter with
  | some width =>
    let digits := (c.rest.drop 1).take width
    if digits.length = width ∧ digits.all isHexDigit ∧ (hexValue digits).isValidChar then
      return (Char.ofNat (hexValue digits), c.skip (1 + width))
    else none
  | none => return (← escaped? letter, c.skip 1)

inductive WordEnd where
  | open
  /-- At a line break that a backslash hides. -/
  | hiddenBreak
  deriving DecidableEq

def readWord? (quote : Char) : Nat → Cursor → Option (List Char × WordEnd × Cursor)
  | 0, _ => none
  | fuel + 1, c =>
    match c.rest with
    | [] => some ([], .open, c)
    | char :: rest =>
      if isBlank char || isBreak char then some ([], .open, c)
      else if char = quote then
        if quote = '\'' && rest.head? = some '\'' then do
          let (word, ending, c) ← readWord? quote fuel (c.skip 2)
          return ('\'' :: word, ending, c)
        else some ([], .open, c)
      else if quote = '"' && char = '\\' then
        if rest.head?.any isBreak then some ([], .hiddenBreak, c.next.next)
        else do
          let (char, c) ← readEscape? c.next
          let (word, ending, c) ← readWord? quote fuel c
          return (char :: word, ending, c)
      else do
        let (word, ending, c) ← readWord? quote fuel c.next
        return (char :: word, ending, c)

def readWords? (quote : Char) : Nat → Cursor → Option (List Char × Cursor)
  | 0, _ => none
  | fuel + 1, c =>
    if c.isAtDocumentEdge || c.rest.isEmpty then none
    else do
      let (word, ending, c) ← readWord? quote (fuel + 1) c
      if c.peek? = some quote then return (word, c.next)
      else
        let (white, c) ← White.read? 0 (ending = .hiddenBreak) c
        let between := match ending with
          | .open => white.text
          | .hiddenBreak => white.breaks
        let (more, c) ← readWords? quote fuel c
        return (word ++ between ++ more, c)

def read? (quote : Char) (c : Cursor) : Option (String × Cursor) :=
  (readWords? quote (c.rest.length + 1) c.next).map fun (text, c) => (String.ofList text, c)

end CircuitScript.Yaml.Quoted
