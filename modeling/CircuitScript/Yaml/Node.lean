import CircuitScript.Yaml.Token
/-!
The nodes of a document: scalars, sequences and mappings, and aliases for nodes that are elsewhere
in the document.
-/
namespace CircuitScript.Yaml

structure Properties where
  anchor : Option Nat
  tag : Option Tag
  deriving DecidableEq, Repr

def Properties.none : Properties := ⟨.none, .none⟩

inductive Node where
  /-- The last node of the document whose anchor has this number. -/
  | reference (anchor : Nat)
  | scalar (properties : Properties) (text : String) (style : ScalarStyle)
  | sequence (properties : Properties) (items : List Node)
  | mapping (properties : Properties) (entries : List (Node × Node))
  deriving Repr

namespace Node

def empty : Node := .scalar .none "" .plain

def properties : Node → Properties
  | reference _ => .none
  | scalar properties .. | sequence properties _ | mapping properties _ => properties

mutual
/-- The node and all nodes in it, each before those in it. -/
def all (node : Node) : List Node :=
  match node with
  | .reference _ | .scalar .. => [node]
  | .sequence _ items => node :: allOfItems items
  | .mapping _ entries => node :: allOfEntries entries

def allOfItems : List Node → List Node
  | [] => []
  | item :: items => item.all ++ allOfItems items

def allOfEntries : List (Node × Node) → List Node
  | [] => []
  | (key, value) :: entries => key.all ++ value.all ++ allOfEntries entries
end

def meant? (document : Node) : Node → Option Node
  | .reference anchor => document.all.reverse.find? (·.properties.anchor = some anchor)
  | node => some node

end Node

end CircuitScript.Yaml
