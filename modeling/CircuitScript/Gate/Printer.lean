import CircuitScript.Decimal.Format
import CircuitScript.Gate.Matrix
/-!
Matrices as text, rows in brackets.
-/
namespace CircuitScript

def Amplitude.text (a : Amplitude Float) : String :=
  let imaginary := Decimal.Layout.plain.text a.im
  let signed := if a.im < 0 then imaginary else "+" ++ imaginary
  Decimal.Layout.plain.text a.re ++ signed ++ "i"

def Square.text (m : Square (Amplitude Float)) : String :=
  s!"[[{m.a.text}, {m.b.text}], [{m.c.text}, {m.d.text}]]"

end CircuitScript
