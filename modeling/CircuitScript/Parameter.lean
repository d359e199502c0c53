import CircuitScript.Decimal.Format
import CircuitScript.Text.Quoted
/-!
Parameters of building operations. What a parameter means, a qubit or an angle or a count, is up to
the operation that takes it.
-/
namespace CircuitScript

inductive Parameter where
  | int (value : Int64)
  | float (value : Float)
  | flag (value : Bool)
  | text (value : String)
  | list (items : List Parameter)

namespace Parameter

mutual
def shown : Parameter → String
  | .int value => "Int(" ++ Text.decimalInt value.toInt ++ ")"
  | .float value => "Float(" ++ Decimal.Layout.marked.text value ++ ")"
  | .flag value => "Bool(" ++ (if value then "true" else "false") ++ ")"
  | .text value => "Str(" ++ Text.quoted value ++ ")"
  | .list items => "List([" ++ ", ".intercalate (shownAll items) ++ "])"

def shownAll : List Parameter → List String
  | [] => []
  | item :: items => item.shown :: shownAll items
end

end Parameter

end CircuitScript
