import ApiClientGen.Document.LoadDocument
import ApiClientGen.Text.Blank

/-!
# Names of sources

A source is the address or the path of a document.  Its name alone decides
whether it is fetched and in which format it is read.
-/

namespace ApiClientGen
namespace Command

/-- Whether a source is an address to fetch from. -/
def isRemote (source : String) : Bool :=
  let name := Text.asciiLower source.toList
  "http://".toList.isPrefixOf name || "https://".toList.isPrefixOf name

/-- Whether a source has the ending of a YAML file.  What follows the first `?`
or `#` is not part of the name. -/
def isYaml (source : String) : Bool :=
  let name :=
    Text.asciiLower (source.toList.takeWhile fun c => c != '?' && c != '#')
  ".yaml".toList.isSuffixOf name || ".yml".toList.isSuffixOf name

def formatOf (source : String) : Document.Format :=
  if isYaml source then .yaml else .json

end Command
end ApiClientGen
