/-!
# Tokens of a YAML text
-/

namespace ApiClientGen
namespace Yaml

/-- A token.  The starts and ends of block collections are not written in the
text but follow from its indentation. -/
inductive Token where
  | version (major minor : Nat)
  | tagHandle (handle uri : String)
  | documentStart
  | documentEnd
  | blockSequenceStart
  | blockMappingStart
  | blockEnd
  | flowSequenceStart
  | flowSequenceEnd
  | flowMappingStart
  | flowMappingEnd
  | blockEntry
  | flowEntry
  | key
  | value
  | alias (name : String)
  | anchor (name : String)
  | tag (handle suffix : String)
  /-- A scalar, which is plain if it is neither quoted nor a block. -/
  | scalar (text : String) (plain : Bool)
deriving Repr, DecidableEq

end Yaml
end ApiClientGen
