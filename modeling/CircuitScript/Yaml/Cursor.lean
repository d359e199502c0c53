import CircuitScript.Yaml.Character
/-!
A place in a text: what is left of it, and in which line and column that begins.
-/
namespace CircuitScript.Yaml

structure Cursor where
  rest : List Char
  line : Nat
  column : Nat

namespace Cursor

def ofChars (text : List Char) : Cursor := ⟨text, 0, 0⟩

def peek? (c : Cursor) : Option Char := c.rest.head?

def next (c : Cursor) : Cursor :=
  match c.rest with
  | [] => c
  | char :: rest => if isBreak char then ⟨rest, c.line + 1, 0⟩ else ⟨rest, c.line, c.column + 1⟩

theorem length_next_lt {c : Cursor} {char : Char} {rest : List Char} (h : c.rest = char :: rest) :
    c.next.rest.length < c.rest.length := by
  rw [next, h]
  simp only
  split <;> simp

def skip (c : Cursor) (count : Nat) : Cursor :=
  { c with rest := c.rest.drop count, column := c.column + count }

def span (c : Cursor) (belongs : Char → Bool) : List Char × Cursor :=
  let taken := c.rest.takeWhile fun char => belongs char && !isBreak char
  (taken, c.skip taken.length)

def skipBlanks (c : Cursor) : Cursor := (c.span isBlank).2

def skipComment (c : Cursor) : Cursor :=
  if c.peek? = some '#' then (c.span fun _ => true).2 else c

def isAtWordEnd (c : Cursor) : Bool := isWordEnd c.rest

def nextLine? (c : Cursor) : Option Cursor :=
  let c := c.skipBlanks.skipComment
  match c.peek? with
  | none => some c
  | some char => if isBreak char then some c.next else none

def isAtMarks (c : Cursor) (mark : Char) : Bool :=
  c.column = 0 && c.rest.take 3 = [mark, mark, mark] && isWordEnd (c.rest.drop 3)

def isAtDocumentEdge (c : Cursor) : Bool := c.isAtMarks '-' || c.isAtMarks '.'

end Cursor

end CircuitScript.Yaml
