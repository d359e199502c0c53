import CircuitScript.Circuit.Basic
/-!
The variables and functions that the placeholders of a circuit name. They are collected instruction
by instruction and token by token, each in the order of its first mention.
-/
namespace CircuitScript

/-- The texts of an instruction that may be placeholders: its angles, and every field of a foreign
line. -/
def Instruction.tokens : Instruction → List String
  | .foreign _ fields => fields
  | instruction => instruction.angles.map Angle.text

structure Symbols where
  variableNumbers : List UInt32
  functions : List String
  deriving DecidableEq, Repr

namespace Symbols

def addUnseen [BEq α] (seen : List α) (value : α) : List α :=
  if seen.contains value then seen else seen ++ [value]

variable (grammar : PlaceholderGrammar)

def addToken (symbols : Symbols) (token : String) : Symbols :=
  if grammar.isLegal token then
    { variableNumbers := (grammar.variableNumbers token).foldl addUnseen symbols.variableNumbers
      functions :=
        match grammar.function token with
        | some name => addUnseen symbols.functions name
        | none => symbols.functions }
  else symbols

def addInstruction (symbols : Symbols) (instruction : Instruction) : Symbols :=
  instruction.tokens.foldl (addToken grammar) symbols

end Symbols

def Circuit.symbols (grammar : PlaceholderGrammar) (c : Circuit) : Symbols :=
  c.instructions.foldl (Symbols.addInstruction grammar) ⟨[], []⟩

end CircuitScript
