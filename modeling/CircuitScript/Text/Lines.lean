import CircuitScript.Text.Fields
import CircuitScript.Text.Blank
/-!
Lines of a text. A line feed ends a line; a carriage return right before it belongs to the line
ending. A text that ends in a line feed has no further line after it.
-/
namespace CircuitScript.Text

def lineFeed : Char := '\n'

def carriageReturn : Char := '\r'

def dropReturn (text : List Char) : List Char :=
  if text.getLast? = some carriageReturn then text.dropLast else text

def dropReturns (text : List Char) : List Char :=
  (text.reverse.dropWhile (· = carriageReturn)).reverse

/-- The lines that pieces between line feeds stand for: each but the last was ended by a line feed,
and the last is a line only if it holds a character. -/
def linesOfPieces : List (List Char) → List (List Char)
  | [] => []
  | [last] => if last.isEmpty then [] else [last]
  | piece :: others => dropReturn piece :: linesOfPieces others

def lines (text : String) : List String :=
  (linesOfPieces (cut lineFeed text.toList)).map String.ofList

def ofLines (lines : List String) : String :=
  String.join (lines.map (·.push lineFeed))

/-- The lines that carry something: carriage returns at the end of a line do not count as part of
it, and lines of white space are left out. -/
def significantLines (text : String) : List String :=
  ((lines text).map fun line => String.ofList (dropReturns line.toList)).filter
    fun line => !isBlank line.toList

end CircuitScript.Text
