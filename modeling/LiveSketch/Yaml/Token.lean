import LiveSketch.Yaml.Fault

/-!
# YAML tokens

The pieces a YAML text is cut into.

## Main definitions

* `Token`, `Lexeme` — a piece, and a piece with its place.
-/

namespace LiveSketch
namespace Yaml

/-- How a scalar is written. -/
inductive ScalarStyle where
  | plain
  | quoted
  | block
deriving DecidableEq, Inhabited

/-- A piece of a text. -/
inductive Token where
  | streamStart
  | streamEnd
  | version (major minor : Nat)
  | tagRule (handle stem : String)
  | documentStart
  | documentEnd
  | blockSequenceStart
  | blockMappingStart
  | blockEnd
  | flowSequenceStart
  | flowSequenceEnd
  | flowMappingStart
  | flowMappingEnd
  | blockEntry
  | flowEntry
  | key
  | value
  | reference (name : String)
  | anchor (name : String)
  | tag (handle rest : String)
  | scalar (text : String) (style : ScalarStyle)
deriving DecidableEq, Inhabited

/-- A piece with the places where it starts and ends. -/
structure Lexeme where
  token : Token
  start : Mark
  stop : Mark
deriving Inhabited

end Yaml
end LiveSketch
