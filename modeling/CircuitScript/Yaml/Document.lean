import CircuitScript.Yaml.Layout
import CircuitScript.Yaml.Node
/-!
From tokens to nodes. A text holds one document, and directives before it say what the handles of
its tags expand to.
-/
namespace CircuitScript.Yaml

structure Progress where
  tokens : List Token
  /-- The anchors' names with the numbers that they last got. -/
  anchors : List (String × Nat)

abbrev NodeReader := StateT Progress Option

namespace NodeReader

def peek : NodeReader (Option Token) := do return (← get).tokens.head?

def drop : NodeReader Unit := modify fun p => { p with tokens := p.tokens.drop 1 }

def dropIf (token : Token) : NodeReader Bool := do
  if (← peek) = some token then
    drop
    return true
  else return false

def expect (token : Token) : NodeReader Unit := do
  if !(← dropIf token) then failure

/-- Numbers a new anchor: there are as many smaller numbers as names were known. -/
def addAnchor (name : String) : NodeReader Nat := do
  let p ← get
  let number := p.anchors.length
  set { p with anchors := (name, number) :: p.anchors.filter (·.1 ≠ name) }
  return number

def readAnchor : NodeReader (Option Nat) := do
  match ← peek with
  | some (.anchor name) =>
    drop
    return some (← addAnchor name)
  | _ => return none

def readTag (handles : Handles) : NodeReader (Option Tag) := do
  match ← peek with
  | some (.tag handle suffix) =>
    drop
    match Tag.expand? handles handle suffix with
    | some tag => return some tag
    | none => failure
  | _ => return none

def readProperties (handles : Handles) : NodeReader Properties := do
  let anchor ← readAnchor
  let tag ← readTag handles
  if anchor.isNone then return ⟨← readAnchor, tag⟩ else return ⟨anchor, tag⟩

inductive Place where
  | inFlow
  | inBlock
  /-- Also a sequence whose items are as far left as the mapping around it. -/
  | inEntry
  deriving DecidableEq

/-- A scalar whose tag leaves its meaning open has no tag. -/
def scalarProperties (properties : Properties) : Properties :=
  if properties.tag = some Tag.nonspecific then { properties with tag := none } else properties

def endsBlockItem (token : Token) : Bool := token = .item || token = .blockEnd

def endsBlockEntry (token : Token) : Bool :=
  token = .key || token = .value || token = .blockEnd

def endsIndentlessItem (token : Token) : Bool := token = .item || endsBlockEntry token

def endsFlowItem (token : Token) : Bool := token = .separator || token = .flowSequenceEnd

def endsFlowEntry (token : Token) : Bool := token = .separator || token = .flowMappingEnd

def orEmpty (endsHere : Token → Bool) (read : NodeReader Node) : NodeReader Node := do
  if (← peek).any endsHere then return .empty else read

def valueOrEmpty (endsHere : Token → Bool) (read : NodeReader Node) : NodeReader Node := do
  if ← dropIf .value then orEmpty endsHere read else return .empty

mutual
def readNode (handles : Handles) (fuel : Nat) (place : Place) : NodeReader Node :=
  match fuel with
  | 0 => failure
  | fuel + 1 => do
    match ← peek with
    | some (.reference name) =>
      drop
      match (← get).anchors.lookup name with
      | some number => return .reference number
      | none => failure
    | _ =>
      let properties ← readProperties handles
      match ← peek with
      | some (.scalar text style) =>
        drop
        return .scalar (scalarProperties properties) text style
      | some .flowSequenceStart =>
        drop
        return .sequence properties (← readFlowItems handles fuel true)
      | some .flowMappingStart =>
        drop
        return .mapping properties (← readFlowEntries handles fuel true)
      | some .blockSequenceStart =>
        if place = .inFlow then orElseEmpty properties
        else
          drop
          return .sequence properties (← readBlockItems handles fuel)
      | some .blockMappingStart =>
        if place = .inFlow then orElseEmpty properties
        else
          drop
          return .mapping properties (← readBlockEntries handles fuel)
      | some .item =>
        if place = .inEntry then return .sequence properties (← readIndentlessItems handles fuel)
        else orElseEmpty properties
      | _ => orElseEmpty properties

/-- An empty node needs properties to stand where a node has to be. -/
def orElseEmpty (properties : Properties) : NodeReader Node :=
  if properties = .none then failure else return .scalar properties "" .plain

def readBlockItems (handles : Handles) (fuel : Nat) : NodeReader (List Node) :=
  match fuel with
  | 0 => failure
  | fuel + 1 => do
    if ← dropIf .item then
      let item ← orEmpty endsBlockItem (readNode handles fuel .inBlock)
      return item :: (← readBlockItems handles fuel)
    else
      expect .blockEnd
      return []

def readIndentlessItems (handles : Handles) (fuel : Nat) : NodeReader (List Node) :=
  match fuel with
  | 0 => failure
  | fuel + 1 => do
    if ← dropIf .item then
      let item ← orEmpty endsIndentlessItem (readNode handles fuel .inBlock)
      return item :: (← readIndentlessItems handles fuel)
    else return []

def readBlockEntries (handles : Handles) (fuel : Nat) : NodeReader (List (Node × Node)) :=
  match fuel with
  | 0 => failure
  | fuel + 1 => do
    if ← dropIf .key then
      let key ← orEmpty endsBlockEntry (readNode handles fuel .inEntry)
      let value ← valueOrEmpty endsBlockEntry (readNode handles fuel .inEntry)
      return (key, value) :: (← readBlockEntries handles fuel)
    else
      expect .blockEnd
      return []

/-- The items up to the closing bracket; `isFirst` for the first one, which no separator precedes. -/
def readFlowItems (handles : Handles) (fuel : Nat) (isFirst : Bool) : NodeReader (List Node) :=
  match fuel with
  | 0 => failure
  | fuel + 1 => do
    if ← dropIf .flowSequenceEnd then return []
    if !isFirst then expect .separator
    if ← dropIf .flowSequenceEnd then return []
    let item ←
      if ← dropIf .key then readSingleEntry handles fuel else readNode handles fuel .inFlow
    return item :: (← readFlowItems handles fuel false)

/-- An entry among items, which is a mapping by itself. A token that stands in the place of its key
is passed over. -/
def readSingleEntry (handles : Handles) (fuel : Nat) : NodeReader Node :=
  match fuel with
  | 0 => failure
  | fuel + 1 => do
    let key ←
      if (← peek).any fun token => token = .value || endsFlowItem token then
        drop
        pure Node.empty
      else readNode handles fuel .inFlow
    let value ← valueOrEmpty endsFlowItem (readNode handles fuel .inFlow)
    return .mapping .none [(key, value)]

/-- The entries up to the closing bracket. Only a marked key has a value. -/
def readFlowEntries (handles : Handles) (fuel : Nat) (isFirst : Bool) :
    NodeReader (List (Node × Node)) :=
  match fuel with
  | 0 => failure
  | fuel + 1 => do
    if ← dropIf .flowMappingEnd then return []
    if !isFirst then expect .separator
    if ← dropIf .flowMappingEnd then return []
    let entry ←
      if ← dropIf .key then
        let key ← orEmpty (fun token => token = .value || endsFlowEntry token)
          (readNode handles fuel .inFlow)
        pure (key, ← valueOrEmpty endsFlowEntry (readNode handles fuel .inFlow))
      else pure (← readNode handles fuel .inFlow, Node.empty)
    return entry :: (← readFlowEntries handles fuel false)
end

end NodeReader

/-! ## Documents -/

structure Preamble where
  hasVersion : Bool
  handles : Handles

namespace Preamble

def empty : Preamble := ⟨false, []⟩

/-- A version or a handle is given once, and the version is one of two. -/
def add? (p : Preamble) : Directive → Option Preamble
  | .version major minor =>
    if !p.hasVersion ∧ major = 1 ∧ (minor = 1 ∨ minor = 2) then some { p with hasVersion := true }
    else none
  | .tagHandle handle expansion =>
    if (p.handles.lookup handle).isSome then none
    else some { p with handles := (handle, expansion) :: p.handles }

/-- Reads the directives and the mark of the document after them. Without directives the mark may
be left out; the answer tells whether it was there. -/
def read? (p : Preamble) : List Token → Option (Preamble × Bool × List Token)
  | .directive directive :: tokens => do read? (← p.add? directive) tokens
  | .documentStart :: tokens => some (p, true, tokens)
  | tokens => if p.hasVersion || !p.handles.isEmpty then none else some (p, false, tokens)

end Preamble

namespace Node

def endsDocument : List Token → Bool
  | [] | .directive _ :: _ | .documentStart :: _ | .documentEnd :: _ => true
  | _ => false

def ofTokens? (tokens : List Token) : Option Node := do
  let (preamble, isMarked, tokens) ← Preamble.empty.read? tokens
  if tokens.isEmpty || (isMarked && endsDocument tokens) then finish? .empty tokens
  else
    let reader := NodeReader.readNode (preamble.handles ++ Handles.standard)
      (4 * tokens.length + 4) .inBlock
    let (node, progress) ← reader.run ⟨tokens, []⟩
    finish? node progress.tokens
where
  finish? (node : Node) (tokens : List Token) : Option Node :=
    if tokens.all (· = .documentEnd) then some node else none

def ofText? (text : String) : Option Node := do ofTokens? (← Token.ofText? text)

end Node

end CircuitScript.Yaml
