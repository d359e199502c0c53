import CircuitScript.Yaml.Tag
/-!
Tokens of a document: its marks and scalars in order, and the beginnings and ends of blocks, which
are not written but follow from indentation.
-/
namespace CircuitScript.Yaml

inductive ScalarStyle where
  | plain
  | singleQuoted
  | doubleQuoted
  | literal
  | folded
  deriving DecidableEq, Repr

inductive Token where
  | directive (directive : Directive)
  | documentStart
  | documentEnd
  | blockSequenceStart
  | blockMappingStart
  | blockEnd
  | flowSequenceStart
  | flowSequenceEnd
  | flowMappingStart
  | flowMappingEnd
  | item
  | separator
  /-- A key follows, whether a question mark is written or not. -/
  | key
  | value
  /-- An alias: the name of an anchor whose node is meant. -/
  | reference (name : String)
  | anchor (name : String)
  | tag (handle : Handle) (suffix : Tag)
  | scalar (text : String) (style : ScalarStyle)
  deriving DecidableEq, Repr

end CircuitScript.Yaml
