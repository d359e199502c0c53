import CircuitScript.Decimal.Literal
import CircuitScript.Text.Lexer
/-!
Placeholders stand for angles whose value is bound later. The hash grammar writes a variable as
`#n`, with an optional factor as in `#2*.5`, or a function of variables as in `f#2#1`; a minus may
stand in front. Circuits can be read under other grammars too, which say only what is legal and
which variables and function a legal token names.
-/
namespace CircuitScript

structure Placeholder where
  negated : Bool
  variableNumbers : List UInt32
  function : Option String
  factor : Option Decimal.Literal
  deriving DecidableEq, Repr

namespace Placeholder

inductive Lexeme where
  | minus
  | star
  | hash (number : UInt32)
  | name (text : String)
  | number (literal : Decimal.Literal)
  deriving DecidableEq, Repr

def isNameStart (c : Char) : Bool := c.isAlpha || c = '_'

def isNameChar (c : Char) : Bool := c.isAlphanum || c = '_'

def markRule (mark : Char) (lexeme : Lexeme) : Text.Rule Lexeme where
  fits word := word = [mark]
  lexeme? _ := some lexeme

/-- Variables, `#[0-9]+`. The number must fit its word. -/
def hashRule : Text.Rule Lexeme where
  fits
    | '#' :: digits => !digits.isEmpty && digits.all Char.isDigit
    | _ => false
  lexeme? word := (Text.word32? word.tail).map .hash

/-- Names, `[A-Za-z_][A-Za-z0-9_]*`. -/
def nameRule : Text.Rule Lexeme where
  fits
    | first :: rest => isNameStart first && rest.all isNameChar
    | [] => false
  lexeme? word := some (.name (String.ofList word))

def isPower (text : List Char) : Bool := (Decimal.readExponent? text).isSome

/-- Numbers that begin with a digit, `[0-9]+(\.[0-9]*)?([eE][-+]?[0-9]+)?`. -/
def wholeRule : Text.Rule Lexeme where
  fits word :=
    let (whole, rest) := word.span Char.isDigit
    !whole.isEmpty && isPower (Decimal.readFraction rest).2
  lexeme? word := (Decimal.readLiteral? word).map .number

/-- Numbers that begin with a point, `\.[0-9]+([eE][-+]?[0-9]+)?`. -/
def pointRule : Text.Rule Lexeme where
  fits
    | '.' :: text =>
      let (fraction, rest) := text.span Char.isDigit
      !fraction.isEmpty && isPower rest
    | _ => false
  lexeme? word := (Decimal.readLiteral? word).map .number

def rules : List (Text.Rule Lexeme) :=
  [markRule '-' .minus, markRule '*' .star, hashRule, nameRule, wholeRule, pointRule]

def Lexeme.hash? : Lexeme → Option UInt32
  | .hash n => some n
  | _ => none

def ofBody? (negated : Bool) : List Lexeme → Option Placeholder
  | [.hash number] => some ⟨negated, [number], none, none⟩
  | [.hash number, .star, .number factor] => some ⟨negated, [number], none, some factor⟩
  | [.hash number, .star, .minus, .number factor] =>
    some ⟨negated, [number], none, some { factor with negative := !factor.negative }⟩
  | .name name :: hashes =>
    if hashes.isEmpty then none
    else (hashes.mapM Lexeme.hash?).map fun numbers => ⟨negated, numbers, some name, none⟩
  | _ => none

def ofLexemes? : List Lexeme → Option Placeholder
  | .minus :: rest => ofBody? true rest
  | lexemes => ofBody? false lexemes

def readWith? (lexer : List Char → Option (List Lexeme)) (text : List Char) : Option Placeholder :=
  (lexer text).bind ofLexemes?

def readChars? : List Char → Option Placeholder := readWith? (Text.lexemes? rules)

def read? (token : String) : Option Placeholder := readChars? token.toList

def isFunctional (p : Placeholder) : Bool := p.function.isSome

end Placeholder

/-- A convention for placeholder tokens. What it reports of illegal tokens does not matter. -/
structure PlaceholderGrammar where
  isLegal : String → Bool
  variableNumbers : String → List UInt32
  function : String → Option String

def PlaceholderGrammar.hash : PlaceholderGrammar where
  isLegal token := (Placeholder.read? token).isSome
  variableNumbers token := ((Placeholder.read? token).map Placeholder.variableNumbers).getD []
  function token := (Placeholder.read? token).bind Placeholder.function

end CircuitScript
