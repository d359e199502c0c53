import CircuitScript.Decimal.Format
/-!
JSON on several lines, two spaces for each level.
-/
namespace CircuitScript

inductive JsonText where
  | natural (n : Nat)
  | real (x : Float)
  | text (value : String)
  | array (items : List JsonText)
  | object (fields : List (String × JsonText))

namespace JsonText

def escapedChar (c : Char) : List Char :=
  match c with
  | '"' => ['\\', '"']
  | '\\' => ['\\', '\\']
  | '\n' => ['\\', 'n']
  | '\r' => ['\\', 'r']
  | '\t' => ['\\', 't']
  | '\x08' => ['\\', 'b']
  | '\x0c' => ['\\', 'f']
  | _ =>
    if c.toNat < 0x20 then
      let digits := Nat.toDigits 16 c.toNat
      ['\\', 'u'] ++ List.replicate (4 - digits.length) '0' ++ digits
    else [c]

def quoted (value : String) : String :=
  String.ofList ('"' :: value.toList.flatMap escapedChar ++ ['"'])

/-- A number; what no JSON number can be is null. -/
def realText (x : Float) : String :=
  if x.isFinite then Decimal.Layout.interchange.text x else "null"

def indent (level : Nat) : String := String.ofList (List.replicate (2 * level) ' ')

def block (level : Nat) (opening closing : String) (items : List String) : String :=
  if items.isEmpty then opening ++ closing
  else
    opening ++ "\n" ++ ",\n".intercalate (items.map (indent (level + 1) ++ ·)) ++ "\n"
      ++ indent level ++ closing

mutual
def pretty (level : Nat) : JsonText → String
  | .natural n => Text.decimal n
  | .real x => realText x
  | .text value => quoted value
  | .array items => block level "[" "]" (prettyItems (level + 1) items)
  | .object fields => block level "\x7b" "\x7d" (prettyFields (level + 1) fields)

def prettyItems (level : Nat) : List JsonText → List String
  | [] => []
  | item :: items => item.pretty level :: prettyItems level items

def prettyFields (level : Nat) : List (String × JsonText) → List String
  | [] => []
  | (key, value) :: fields =>
    (quoted key ++ ": " ++ value.pretty level) :: prettyFields level fields
end

end JsonText

end CircuitScript
