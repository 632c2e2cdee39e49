import SatClient.Yaml.Fault

/-! The tokens of YAML. Where a block starts and ends shows only in the indentation, and gets
tokens of its own.
-/

namespace SatClient.Yaml

/-- How a scalar is written. -/
inductive Style where
  | plain
  | single
  | double
  | literal
  | folded
  deriving DecidableEq, Repr

inductive Token where
  | streamEnd
  | versionDirective (major minor : Nat)
  | tagDirective (handle uri : List Char)
  | documentStart
  | documentEnd
  | blockSequenceStart
  | blockMappingStart
  | blockEnd
  | flowSequenceStart
  | flowSequenceEnd
  | flowMappingStart
  | flowMappingEnd
  | blockEntry
  | flowEntry
  | key
  | value
  | reference (name : List Char)
  | anchor (name : List Char)
  | tag (handle rest : List Char)
  | scalar (text : List Char) (style : Style)
  deriving DecidableEq, Repr

structure PlacedToken where
  token : Token
  start : Mark
  stop : Mark
  deriving DecidableEq, Repr

end SatClient.Yaml
