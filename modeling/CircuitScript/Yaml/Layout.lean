import CircuitScript.Yaml.Scalar.Block
import CircuitScript.Yaml.Scalar.Plain
import CircuitScript.Yaml.Scalar.Quoted
import CircuitScript.Yaml.Token
/-!
From a text to its tokens. Outside brackets the column of a mark opens a block or closes the blocks
right of it. Whether a scalar is a key is known only at the colon after it, so the place of every
token that may be a key is remembered, and the colon puts the key's tokens there.
-/
namespace CircuitScript.Yaml

structure PossibleKey where
  /-- The number of tokens before it. -/
  position : Nat
  line : Nat
  column : Nat
  /-- Whether it must be a key, as in a mapping at its own column. -/
  isRequired : Bool

structure Layout where
  cursor : Cursor
  /-- The tokens so far, the last one first. -/
  tokens : List Token
  /-- The columns of the open blocks, innermost first. -/
  blocks : List Nat
  /-- The possible key of the innermost collection, and those of the collections around it: one for
  the blocks, then one for each open bracket. -/
  key : Option PossibleKey
  outerKeys : List (Option PossibleKey)
  allowsKey : Bool

namespace Layout

def start (text : List Char) : Layout := ⟨.ofChars text, [], [], none, [], true⟩

def inFlow (s : Layout) : Bool := !s.outerKeys.isEmpty

def emit (s : Layout) (token : Token) : Layout := { s with tokens := token :: s.tokens }

def emitAt (s : Layout) (position : Nat) (token : Token) : Layout :=
  let later := s.tokens.length - position
  { s with tokens := s.tokens.take later ++ token :: s.tokens.drop later }

def moveTo (s : Layout) (cursor : Cursor) : Layout := { s with cursor }

/-! ## Blocks -/

/-- Opens a block at a column that is right of all open ones; brackets suspend blocks. -/
def openBlock (s : Layout) (column position : Nat) (token : Token) : Layout :=
  if !s.inFlow && s.blocks.head?.all (· < column) then
    { s.emitAt position token with blocks := column :: s.blocks }
  else s

def openBlockHere (s : Layout) (token : Token) : Layout :=
  s.openBlock s.cursor.column s.tokens.length token

def closeBlocks (s : Layout) (isClosed : Nat → Bool) : Layout :=
  if s.inFlow then s
  else
    let (closed, blocks) := s.blocks.span isClosed
    { s with tokens := closed.map (fun _ => .blockEnd) ++ s.tokens, blocks }

def closeAllBlocks (s : Layout) : Layout := s.closeBlocks fun _ => true

/-! ## Possible keys -/

/-- Gives up the possible key, which fails if it must be a key. -/
def dropKey? (s : Layout) : Option Layout :=
  if s.key.any (·.isRequired) then none else some { s with key := none }

/-- How many columns a key can be from its colon. -/
def longestKey : Nat := 1024

/-- A possible key is over at the end of its line, and after too many columns. -/
def isOver (s : Layout) (key : PossibleKey) : Bool :=
  key.line < s.cursor.line || key.column + longestKey < s.cursor.column

def current? (s : Layout) (key : Option PossibleKey) : Option (Option PossibleKey) :=
  match key with
  | some k => if s.isOver k then if k.isRequired then none else some none else some key
  | none => some none

def dropOverKeys? (s : Layout) : Option Layout := do
  let key ← s.current? s.key
  let outerKeys ← s.outerKeys.mapM s.current?
  return { s with key, outerKeys }

def noteKey? (s : Layout) : Option Layout :=
  if s.allowsKey then do
    let isRequired := !s.inFlow && s.blocks.head? = some s.cursor.column
    let key := ⟨s.tokens.length, s.cursor.line, s.cursor.column, isRequired⟩
    return { ← s.dropKey? with key := some key }
  else some s

/-! ## Marks -/

def take (s : Layout) (length : Nat) (token : Token) : Layout :=
  { s.emit token with cursor := s.cursor.skip length }

def takeDocumentMark? (s : Layout) (token : Token) : Option Layout := do
  let s ← s.closeAllBlocks.dropKey?
  return { s.take 3 token with allowsKey := false }

def takeDirective? (s : Layout) : Option Layout := do
  let s ← s.closeAllBlocks.dropKey?
  let (directive, cursor) ← Directive.read? s.cursor
  return { (s.emit (.directive directive)).moveTo cursor with allowsKey := false }

def takeOpening? (s : Layout) (token : Token) : Option Layout := do
  let s ← s.noteKey?
  return { s.take 1 token with key := none, outerKeys := s.key :: s.outerKeys, allowsKey := true }

/-- A closing bracket; one without an opening bracket is found later. -/
def takeClosing? (s : Layout) (token : Token) : Option Layout := do
  let s ← s.dropKey?
  let s := match s.outerKeys with
    | key :: outerKeys => { s with key, outerKeys }
    | [] => s
  return { s.take 1 token with allowsKey := false }

def takeSeparator? (s : Layout) : Option Layout := do
  return { (← s.dropKey?).take 1 .separator with allowsKey := true }

def takeIndicator? (s : Layout) (block token : Token) (allowsKey : Bool) : Option Layout :=
  if !s.inFlow && !s.allowsKey then none
  else do
    let s ← (s.openBlockHere block).dropKey?
    return { s.take 1 token with allowsKey }

/-- The colon after a key. Without a possible key it belongs to a written or an empty one. -/
def takeValue? (s : Layout) : Option Layout :=
  match s.key with
  | some key =>
    let s := (s.emitAt key.position .key).openBlock key.column key.position .blockMappingStart
    some { s.take 1 .value with key := none, allowsKey := false }
  | none =>
    if !s.inFlow && !s.allowsKey then none
    else some { (s.openBlockHere .blockMappingStart).take 1 .value with allowsKey := !s.inFlow }

/-! ## Words -/

def takeName? (s : Layout) (token : String → Token) : Option Layout := do
  let s ← s.noteKey?
  let (name, cursor) := s.cursor.next.span isNameChar
  if name.isEmpty ∨ !(cursor.isAtWordEnd || cursor.peek?.any "?:,]\x7d%@\u0060".toList.contains) then
    none
  else return { (s.emit (token (String.ofList name))).moveTo cursor with allowsKey := false }

def takeTag? (s : Layout) : Option Layout := do
  let s ← s.noteKey?
  let ((handle, suffix), cursor) ← Tag.read? s.inFlow s.cursor
  return { (s.emit (.tag handle suffix)).moveTo cursor with allowsKey := false }

def takeBlockScalar? (s : Layout) (style : ScalarStyle) : Option Layout := do
  let s ← s.dropKey?
  let (text, cursor) ← Block.read? (style = .folded) s.blocks.head? s.cursor
  return { (s.emit (.scalar text style)).moveTo cursor with allowsKey := true }

def takeQuoted? (s : Layout) (quote : Char) (style : ScalarStyle) : Option Layout := do
  let s ← s.noteKey?
  let (text, cursor) ← Quoted.read? quote s.cursor
  return { (s.emit (.scalar text style)).moveTo cursor with allowsKey := false }

def takePlain? (s : Layout) : Option Layout := do
  let s ← s.noteKey?
  let least := match s.blocks.head? with
    | some column => column + 1
    | none => 0
  let (text, broke, cursor) ← Plain.read? s.inFlow least s.cursor
  return { (s.emit (.scalar text .plain)).moveTo cursor with allowsKey := broke }

/-! ## Tokens -/

/-- After white space and comments. A mark of byte order may begin a line. Tabs count as white space
where no key may begin. -/
def skipWhite : Nat → Layout → Layout
  | 0, s => s
  | fuel + 1, s =>
    let c := if s.cursor.column = 0 ∧ s.cursor.peek? = some '\ufeff' then s.cursor.next else s.cursor
    let (_, c) := c.span fun char => char = ' ' || (char = '\t' && (s.inFlow || !s.allowsKey))
    let c := c.skipComment
    if c.peek?.any isBreak then
      skipWhite fuel { s with cursor := c.next, allowsKey := s.allowsKey || !s.inFlow }
    else s.moveTo c

def takeToken? (s : Layout) (char : Char) : Option Layout :=
  let endsWord := isWordEnd (s.cursor.rest.drop 1)
  if s.cursor.column = 0 ∧ char = '%' then s.takeDirective?
  else if s.cursor.isAtMarks '-' then s.takeDocumentMark? .documentStart
  else if s.cursor.isAtMarks '.' then s.takeDocumentMark? .documentEnd
  else if char = '[' then s.takeOpening? .flowSequenceStart
  else if char = '\x7b' then s.takeOpening? .flowMappingStart
  else if char = ']' then s.takeClosing? .flowSequenceEnd
  else if char = '\x7d' then s.takeClosing? .flowMappingEnd
  else if char = ',' then s.takeSeparator?
  else if char = '-' ∧ endsWord then s.takeIndicator? .blockSequenceStart .item true
  else if char = '?' ∧ (s.inFlow || endsWord) then
    s.takeIndicator? .blockMappingStart .key (!s.inFlow)
  else if char = ':' ∧ (s.inFlow || endsWord) then s.takeValue?
  else if char = '*' then s.takeName? .reference
  else if char = '&' then s.takeName? .anchor
  else if char = '!' then s.takeTag?
  else if char = '|' ∧ !s.inFlow then s.takeBlockScalar? .literal
  else if char = '>' ∧ !s.inFlow then s.takeBlockScalar? .folded
  else if char = '\'' then s.takeQuoted? '\'' .singleQuoted
  else if char = '"' then s.takeQuoted? '"' .doubleQuoted
  else if Plain.canBegin s.inFlow s.cursor.rest then s.takePlain?
  else none

def finish? : Nat → Layout → Option (List Token)
  | 0, _ => none
  | fuel + 1, s => do
    let s ← (s.skipWhite (fuel + 1)).dropOverKeys?
    match s.cursor.peek? with
    | none => return (← s.closeAllBlocks.dropKey?).tokens.reverse
    | some char => finish? fuel (← (s.closeBlocks (s.cursor.column < ·)).takeToken? char)

end Layout

def Token.ofText? (text : String) : Option (List Token) :=
  let chars := text.toList
  if chars.all isAllowed then
    (Layout.start (withLineFeeds chars)).finish? (chars.length + 1)
  else none

end CircuitScript.Yaml
