/-!
# What can be wrong with a YAML text
-/

namespace ApiClientGen
namespace Yaml

/-- Why a text does not hold one YAML document that can be read as a JSON
value. -/
inductive Fault where
  | forbiddenCharacter
  | unexpectedCharacter
  | unexpectedToken
  | tabInIndentation
  | invalidDirective
  | repeatedDirective
  | unsupportedVersion
  | invalidAnchor
  | invalidTag
  | undefinedTagHandle
  | invalidBlockHeader
  | invalidEscape
  | unfinishedScalar
  | documentMarkInScalar
  | colonInPlainScalar
  | misplacedEntry
  | misplacedKey
  | misplacedValue
  | missingColon
  | secondDocument
  | undefinedAlias
  | tooManyAliases
  | tooDeep
  | keyNotScalar
  | unknownTag
  | tagMismatch
  | numberOutOfRange
deriving Repr, DecidableEq

def Fault.message : Fault → String
  | .forbiddenCharacter => "control characters are not allowed"
  | .unexpectedCharacter => "found character that cannot start any token"
  | .unexpectedToken => "did not find expected node content"
  | .tabInIndentation => "found a tab character that violates indentation"
  | .invalidDirective => "found an invalid directive"
  | .repeatedDirective => "found a duplicate directive"
  | .unsupportedVersion => "found an incompatible document version"
  | .invalidAnchor => "did not find expected alphabetic or numeric character"
  | .invalidTag => "found an invalid tag"
  | .undefinedTagHandle => "found undefined tag handle"
  | .invalidBlockHeader => "found an invalid block scalar header"
  | .invalidEscape => "found an invalid escape"
  | .unfinishedScalar => "found unexpected end of stream"
  | .documentMarkInScalar => "found unexpected document indicator"
  | .colonInPlainScalar => "found unexpected ':'"
  | .misplacedEntry => "block sequence entries are not allowed in this context"
  | .misplacedKey => "mapping keys are not allowed in this context"
  | .misplacedValue => "mapping values are not allowed in this context"
  | .missingColon => "could not find expected ':'"
  | .secondDocument => "more than one document is not supported"
  | .undefinedAlias => "unknown anchor"
  | .tooManyAliases => "repetition limit exceeded"
  | .tooDeep => "recursion limit exceeded"
  | .keyNotScalar => "invalid type of key, expected a string key"
  | .unknownTag => "unexpected tag"
  | .tagMismatch => "invalid value for its tag"
  | .numberOutOfRange => "number out of range"

end Yaml
end ApiClientGen
