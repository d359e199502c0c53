import CircuitScript.Yaml.Cursor
/-!
Tags of nodes, and the directives in front of a document. A tag is written with a handle, which a
directive or a convention expands, or in full between angle brackets; its text is a run of octets,
for escapes give octets rather than characters.
-/
namespace CircuitScript.Yaml

/-- The octets of a tag, its handle expanded. -/
abbrev Tag := List UInt8

/-- A handle with its exclamation marks. The empty handle belongs to tags written in full. -/
abbrev Handle := List Char

/-- What each handle expands to; of two entries the first counts. -/
abbrev Handles := List (Handle × Tag)

namespace Tag

def ofChars (text : List Char) : Tag := text.map fun c => UInt8.ofNat c.toNat

/-- The tag that leaves the meaning of a node open. -/
def nonspecific : Tag := ofChars ['!']

def bool : Tag := ofChars "tag:yaml.org,2002:bool".toList

def localName? : Tag → Option String
  | [] => none
  | mark :: name => if mark = 33 then String.fromUTF8? ⟨name.toArray⟩ else none

end Tag

def Handles.standard : Handles :=
  [(['!'], Tag.nonspecific), (['!', '!'], Tag.ofChars "tag:yaml.org,2002:".toList)]

namespace Tag

def expand? (handles : Handles) (handle : Handle) (suffix : Tag) : Option Tag :=
  if handle.isEmpty then some suffix else (handles.lookup handle).map (· ++ suffix)

/-! ## Octets -/

/-- Characters of tags; commas and square brackets only where nothing else could be meant. -/
def isTagChar (isDelimited : Bool) (c : Char) : Bool :=
  isNameChar c || ";/?:@&=+$.!~*'()%".toList.contains c
    || (isDelimited && (c = ',' || c = '[' || c = ']'))

def readOctet? (c : Cursor) : Option (UInt8 × Cursor) :=
  let digits := (c.rest.drop 1).take 2
  if c.peek? = some '%' ∧ digits.length = 2 ∧ digits.all isHexDigit then
    some (UInt8.ofNat (hexValue digits), c.skip 3)
  else none

/-- How many octets begin with this one, by its highest bits. -/
def sequenceWidth? (octet : UInt8) : Option Nat :=
  if octet &&& 0x80 = 0 then some 1
  else if octet &&& 0xE0 = 0xC0 then some 2
  else if octet &&& 0xF0 = 0xE0 then some 3
  else if octet &&& 0xF8 = 0xF0 then some 4
  else none

def readContinuation? : Nat → Cursor → Option (Tag × Cursor)
  | 0, c => some ([], c)
  | count + 1, c => do
    let (octet, c) ← readOctet? c
    if octet &&& 0xC0 ≠ 0x80 then none
    else
      let (more, c) ← readContinuation? count c
      return (octet :: more, c)

def readEscape? (c : Cursor) : Option (Tag × Cursor) := do
  let (octet, c) ← readOctet? c
  let (more, c) ← readContinuation? ((← sequenceWidth? octet) - 1) c
  return (octet :: more, c)

def readOctets? (isDelimited : Bool) : Nat → Cursor → Option (Tag × Cursor)
  | 0, _ => none
  | fuel + 1, c =>
    match c.peek? with
    | none => some ([], c)
    | some char =>
      if char = '%' then do
        let (octets, c) ← readEscape? c
        let (more, c) ← readOctets? isDelimited fuel c
        return (octets ++ more, c)
      else if isTagChar isDelimited char then do
        let (more, c) ← readOctets? isDelimited fuel c.next
        return (ofChars [char] ++ more, c)
      else some ([], c)

/-- Reads the text of a tag after a head that was read before; both together are not empty. The text
ends for good at an octet of zero. -/
def readText? (isDelimited : Bool) (head : List Char) (c : Cursor) : Option (Tag × Cursor) := do
  let (octets, c) ← readOctets? isDelimited (c.rest.length + 1) c
  if head.isEmpty && octets.isEmpty then none
  else return ((ofChars (head.drop 1) ++ octets).takeWhile (· ≠ 0), c)

/-! ## Written tags -/

def readHandle? (c : Cursor) : Option (Handle × Cursor) :=
  if c.peek? = some '!' then
    let (name, c) := c.next.span isNameChar
    if c.peek? = some '!' then some ('!' :: (name ++ ['!']), c.next) else some ('!' :: name, c)
  else none

def isNamedHandle (handle : Handle) : Bool := 1 < handle.length && handle.getLast? = some '!'

def read? (inFlow : Bool) (c : Cursor) : Option ((Handle × Tag) × Cursor) := do
  let (written, c) ←
    if c.rest[1]? = some '<' then do
      let (text, c) ← readText? true [] (c.skip 2)
      if c.peek? = some '>' then some (([], text), c.next) else none
    else do
      let (handle, c) ← readHandle? c
      if isNamedHandle handle then
        let (text, c) ← readText? false [] c
        some ((handle, text), c)
      else
        let (text, c) ← readText? false handle c
        if text.isEmpty then some (([], nonspecific), c) else some ((['!'], text), c)
  if c.isAtWordEnd || (inFlow && c.peek? = some ',') then return (written, c) else none

end Tag

inductive Directive where
  | version (major minor : Nat)
  | tagHandle (handle : Handle) (expansion : Tag)
  deriving DecidableEq, Repr

namespace Directive

/-- A number of a version has one to nine digits. -/
def readNumber? (c : Cursor) : Option (Nat × Cursor) :=
  let (digits, c) := c.span Char.isDigit
  if digits.isEmpty || 9 < digits.length then none
  else some (Nat.ofDigitChars 10 digits 0, c)

def readVersion? (c : Cursor) : Option (Directive × Cursor) := do
  let (major, c) ← readNumber? c
  if c.peek? ≠ some '.' then none
  else
    let (minor, c) ← readNumber? c.next
    return (.version major minor, c)

def readHandle? (c : Cursor) : Option (Directive × Cursor) := do
  let (handle, c) ← Tag.readHandle? c
  if handle ≠ ['!'] ∧ !Tag.isNamedHandle handle then none
  else if !c.peek?.any isBlank then none
  else
    let (expansion, c) ← Tag.readText? true [] c.skipBlanks
    if c.isAtWordEnd then return (.tagHandle handle expansion, c) else none

def read? (c : Cursor) : Option (Directive × Cursor) := do
  let (name, c) := c.next.span isNameChar
  if !c.isAtWordEnd then none
  else
    let c := c.skipBlanks
    let (directive, c) ←
      if name = "YAML".toList then readVersion? c
      else if name = "TAG".toList then readHandle? c
      else none
    return (directive, ← c.nextLine?)

end Directive

end CircuitScript.Yaml
