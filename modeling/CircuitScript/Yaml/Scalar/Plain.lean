import CircuitScript.Yaml.White
/-!
Plain scalars, which have no quotes: words that end at a colon before a white space, at a comment,
and inside brackets at the marks of collections.
-/
namespace CircuitScript.Yaml.Plain

/-- Whether a plain scalar begins here. A dash, a question mark or a colon begins one only when a
word goes on after it, and the latter two never do so inside brackets. -/
def canBegin (inFlow : Bool) : List Char → Bool
  | [] => false
  | c :: rest =>
    if c = '-' then !rest.head?.any isBlank
    else if c = '?' || c = ':' then !inFlow && !isWordEnd rest
    else !(isBlank c || isBreak c || isFlowMark c || "#&*!|>'\"%@\u0060".toList.contains c)

def word? (inFlow : Bool) : List Char → Option (List Char)
  | [] => some []
  | c :: rest =>
    if isBlank c || isBreak c then some []
    else if inFlow && c = ':' && rest.head?.any (fun c => isFlowMark c || c = '?') then none
    else if (c = ':' && isWordEnd rest) || (inFlow && isFlowMark c) then some []
    else (word? inFlow rest).map (c :: ·)

/-- Reads words from here on, after white space that counts only if a word follows. The answer tells
whether a line break was the last thing read. Outside brackets the scalar goes on only in columns
from the least one on. -/
def readWords? (inFlow : Bool) (least : Nat) :
    Nat → White → Cursor → Option (List Char × Bool × Cursor)
  | 0, _, _ => none
  | fuel + 1, before, c =>
    let brokeBefore := !before.breaks.isEmpty
    if c.isAtDocumentEdge || c.peek? = some '#' then some ([], brokeBefore, c)
    else do
      let word ← word? inFlow c.rest
      if word.isEmpty then return ([], brokeBefore, c)
      else
        let text := before.text ++ word
        let (white, after) ← White.read? least false (c.skip word.length)
        if white.isNone then return (text, false, after)
        else if !inFlow && after.column < least then
          return (text, !white.breaks.isEmpty, after)
        else
          let (more, broke, after) ← readWords? inFlow least fuel white after
          return (text ++ more, broke, after)

def read? (inFlow : Bool) (least : Nat) (c : Cursor) : Option (String × Bool × Cursor) :=
  (readWords? inFlow least (c.rest.length + 1) .none c).map fun (text, broke, c) =>
    (String.ofList text, broke, c)

end CircuitScript.Yaml.Plain
