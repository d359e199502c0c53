import CircuitScript.Yaml.Cursor
/-!
White space between the words of a scalar. One break between two words is a space, and of more
breaks all but the first are kept; blanks around breaks do not count.
-/
namespace CircuitScript.Yaml

structure White where
  blanks : List Char
  breaks : List Char

namespace White

def none : White := ⟨[], []⟩

def isNone (w : White) : Bool := w.blanks.isEmpty && w.breaks.isEmpty

def text (w : White) : List Char :=
  match w.breaks with
  | [] => w.blanks
  | ['\n'] => [' ']
  | '\n' :: more => more
  | breaks => breaks

/-- Reads white space; `afterBreak` tells whether a break went before. A tab that helps to indent a
line to the least column is refused. -/
def read? (least : Nat) (afterBreak : Bool) (c : Cursor) : Option (White × Cursor) :=
  match _h : c.rest with
  | [] => some (none, c)
  | char :: _ =>
    if isBreak char then
      (read? least true c.next).map fun (w, c) => (⟨[], char :: w.breaks⟩, c)
    else if !isBlank char then some (none, c)
    else if afterBreak then
      if char = '\t' && c.column < least then Option.none else read? least true c.next
    else
      (read? least false c.next).map fun (w, c) =>
        (⟨if w.breaks.isEmpty then char :: w.blanks else [], w.breaks⟩, c)
termination_by c.rest.length
decreasing_by all_goals exact Cursor.length_next_lt _h

end White

end CircuitScript.Yaml
