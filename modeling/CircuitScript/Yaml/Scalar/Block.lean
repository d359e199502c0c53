import CircuitScript.Yaml.Cursor
/-!
Block scalars: indented lines after a mark, kept as they are or folded into paragraphs.
-/
namespace CircuitScript.Yaml.Block

inductive Chomping where
  | strip
  | clip
  | keep
  deriving DecidableEq

structure Header where
  chomping : Chomping
  /-- By how much the lines are indented, where that is given. -/
  indent : Option Nat

def chomping? : Char → Option Chomping
  | '+' => some .keep
  | '-' => some .strip
  | _ => none

def readIndent? (c : Cursor) : Option (Option Nat × Cursor) :=
  match c.peek? with
  | some '0' => none
  | some char => if char.isDigit then some (some (char.toNat - '0'.toNat), c.next) else some (none, c)
  | none => some (none, c)

def readChomping (c : Cursor) : Option Chomping × Cursor :=
  match c.peek?.bind chomping? with
  | some chomping => (some chomping, c.next)
  | none => (none, c)

def readHeader? (c : Cursor) : Option (Header × Cursor) := do
  let (first, c) := readChomping c
  let (indent, c) ← readIndent? c
  let (second, c) := if first.isNone && indent.isSome then readChomping c else (none, c)
  return (⟨(first <|> second).getD .clip, indent⟩, ← c.nextLine?)

/-- Reads empty lines and the indentation after them: their breaks, and the widest indentation met.
Without a known indentation all spaces count to it. A tab in its place is refused. -/
def readBreaks? (indent : Option Nat) : Nat → Nat → Cursor → Option (List Char × Nat × Cursor)
  | 0, _, _ => none
  | fuel + 1, widest, c =>
    let room := match indent with
      | some indent => indent - c.column
      | none => c.rest.length
    let spaces := (c.rest.take room).takeWhile (· = ' ')
    let c := c.skip spaces.length
    let widest := max widest c.column
    match c.peek? with
    | none => some ([], widest, c)
    | some char =>
      if char = '\t' && indent.all (c.column < ·) then none
      else if isBreak char then do
        let (breaks, widest, c) ← readBreaks? indent fuel widest c.next
        return (char :: breaks, widest, c)
      else some ([], widest, c)

/-- Lines read so far: the break after the last one, and the breaks of the empty lines after it. -/
structure Tail where
  lastBreak : List Char
  breaks : List Char
  wasBlank : Bool

/-- What joins a line to those before it. Two lines that begin with words fold into one. -/
def Tail.joint (tail : Tail) (folded isBlankNext : Bool) : List Char :=
  if folded && tail.lastBreak = ['\n'] && !tail.wasBlank && !isBlankNext then
    if tail.breaks.isEmpty then [' '] else tail.breaks
  else tail.lastBreak ++ tail.breaks

def Tail.chomped (tail : Tail) : Chomping → List Char
  | .strip => []
  | .clip => tail.lastBreak
  | .keep => tail.lastBreak ++ tail.breaks

def readLines? (folded : Bool) (chomping : Chomping) (indent : Nat) :
    Nat → Tail → Cursor → Option (List Char × Cursor)
  | 0, _, _ => none
  | fuel + 1, tail, c =>
    if c.column ≠ indent ∨ c.rest.isEmpty then some (tail.chomped chomping, c)
    else do
      let startsBlank := c.peek?.any isBlank
      let (line, c) := c.span fun _ => true
      let lastBreak := c.rest.take 1
      let (breaks, _, c) ← readBreaks? (some indent) (fuel + 1) 0 c.next
      let (more, c) ← readLines? folded chomping indent fuel ⟨lastBreak, breaks, startsBlank⟩ c
      return (tail.joint folded startsBlank ++ line ++ more, c)

/-- Reads a block scalar from its mark on; its lines begin right of the block around it, whose
column is given, if there is one. -/
def read? (folded : Bool) (around : Option Nat) (c : Cursor) : Option (String × Cursor) := do
  let fuel := c.rest.length + 1
  let (header, c) ← readHeader? c.next
  let given := header.indent.map (around.getD 0 + ·)
  let (breaks, widest, c) ← readBreaks? given fuel 0 c
  let least := match around with
    | some column => column + 1
    | none => 1
  let indent := given.getD (max widest least)
  let (text, c) ← readLines? folded header.chomping indent fuel ⟨[], breaks, false⟩ c
  return (String.ofList text, c)

end CircuitScript.Yaml.Block
