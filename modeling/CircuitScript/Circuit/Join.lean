import CircuitScript.Circuit.Basic
/-!
Ways to put one circuit behind another. Some give a new circuit, others change the first one in its
place; and where the widths differ, some report an error and others abort.
-/
namespace CircuitScript.Circuit

/-- How an operator gets a circuit: for good, so that it may take the instructions out, or for a
look only, so that it has to copy them. -/
inductive Passing where
  | given
  | lent
  deriving DecidableEq, Repr

def requireSameWidth (a b : Circuit) : Except CircuitError Unit :=
  if a.width = b.width then .ok () else .error (.widthMismatch a.width b.width)

def extend (c other : Circuit) : Circuit × Except CircuitError Unit :=
  match c.requireSameWidth other with
  | .error error => (c, .error error)
  | .ok () => (c.extended other.instructions, .ok ())

/-- Addition in place. A circuit that is given is checked here and emptied into the other. -/
def addAssign (passing : Passing) (c other : Circuit) : Circuit × Except Abort Unit :=
  match passing with
  | .given =>
    match c.requireSameWidth other with
    | .error error => (c, .error ⟨error.message⟩)
    | .ok () => (c.extended other.instructions, .ok ())
  | .lent =>
    let (c, outcome) := c.extend other
    (c, outcome.mapError fun error => ⟨error.message⟩)

def add (passing : Passing) (a b : Circuit) : Except Abort Circuit :=
  match passing with
  | .given => result (a.addAssign .given b)
  | .lent => a + b

end CircuitScript.Circuit
