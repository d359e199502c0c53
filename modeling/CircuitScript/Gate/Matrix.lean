import CircuitScript.Gate.Scalar
/-!
Two by two matrices. Entries of gates are amplitudes, complex numbers over some kind of scalar; a
gate whose entries are all real can be given as a matrix of scalars instead.
-/
namespace CircuitScript

structure Amplitude (K : Type) where
  re : K
  im : K
  deriving DecidableEq, Repr

namespace Amplitude

variable {K : Type} [Scalar K]

def zero : Amplitude K := ⟨Scalar.zero, Scalar.zero⟩

def one : Amplitude K := ⟨Scalar.one, Scalar.zero⟩

def ofReal (x : K) : Amplitude K := ⟨x, Scalar.zero⟩

def add (a b : Amplitude K) : Amplitude K := ⟨a.re + b.re, a.im + b.im⟩

def sub (a b : Amplitude K) : Amplitude K := ⟨a.re - b.re, a.im - b.im⟩

def mul (a b : Amplitude K) : Amplitude K :=
  ⟨a.re * b.re - a.im * b.im, a.re * b.im + a.im * b.re⟩

def conj (a : Amplitude K) : Amplitude K := ⟨a.re, -a.im⟩

def unit (angle : K) : Amplitude K :=
  ⟨Scalar.one * Scalar.cos angle, Scalar.one * Scalar.sin angle⟩

end Amplitude

structure Square (α : Type) where
  a : α
  b : α
  c : α
  d : α
  deriving DecidableEq, Repr

namespace Square

variable {α β K : Type} [Scalar K]

def entries (m : Square α) : List α := [m.a, m.b, m.c, m.d]

/-- The entry that stands so many rows and columns after the first, the entries counted row by
row. -/
def at? (m : Square α) (row column : Nat) : Option α := m.entries[2 * row + column]?

def map (f : α → β) (m : Square α) : Square β := ⟨f m.a, f m.b, f m.c, f m.d⟩

def diagonal (a d : Amplitude K) : Square (Amplitude K) := ⟨a, .zero, .zero, d⟩

def identity : Square (Amplitude K) := diagonal .one .one

def zeros : Square (Amplitude K) := diagonal .zero .zero

def mul (m n : Square (Amplitude K)) : Square (Amplitude K) :=
  ⟨(m.a.mul n.a).add (m.b.mul n.c), (m.a.mul n.b).add (m.b.mul n.d),
   (m.c.mul n.a).add (m.d.mul n.c), (m.c.mul n.b).add (m.d.mul n.d)⟩

def scale (m : Square (Amplitude K)) (factor : Amplitude K) : Square (Amplitude K) :=
  m.map (·.mul factor)

def adjoint (m : Square (Amplitude K)) : Square (Amplitude K) :=
  ⟨m.a.conj, m.c.conj, m.b.conj, m.d.conj⟩

end Square

inductive EntryKind where
  | real
  | complex
  deriving DecidableEq, Repr

inductive GateMatrix (K : Type) where
  | real (matrix : Square K)
  | complex (matrix : Square (Amplitude K))
  deriving Repr

namespace GateMatrix

variable {K : Type} [Scalar K]

def kind : GateMatrix K → EntryKind
  | .real _ => .real
  | .complex _ => .complex

def toComplex : GateMatrix K → Square (Amplitude K)
  | .real matrix => matrix.map Amplitude.ofReal
  | .complex matrix => matrix

def toReal? : GateMatrix K → Option (Square K)
  | .real matrix => some matrix
  | .complex _ => none

def ofReal (kind : EntryKind) (matrix : Square K) : GateMatrix K :=
  match kind with
  | .real => .real matrix
  | .complex => .complex (matrix.map Amplitude.ofReal)

end GateMatrix

end CircuitScript
