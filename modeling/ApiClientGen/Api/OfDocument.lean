import ApiClientGen.Api.Models
import ApiClientGen.Api.Operations
import ApiClientGen.Naming.ClientName

/-!
# From a document to the model of its API

This never fails: what cannot be generated is left out or left untyped, with a
warning.
-/

namespace ApiClientGen
namespace Api

open Document (ApiDocument)

/-- The general information of a document with the names taken from it. -/
def infoOf (info : Document.Info) : ApiInfo :=
  { title := info.title
    description := info.description
    clientClassName := Naming.clientClassName info.title info.version
    outputDirName := Naming.outputDirName info.title }

/-- The model of the API that a document describes. -/
def ofDocument (document : ApiDocument) : ApiModel :=
  let schemas := readableSchemas document.schemas
  let models := modelNames schemas
  let operations := operationsOfPaths models [] document.paths.toList
  { info := infoOf document.info
    models := schemas.filterMap (modelOf? models)
    operations := operations.result
    warnings :=
      unreadableSchemaWarnings document.schemas ++
        schemas.flatMap (modelWarnings models) ++ operations.warnings }

end Api
end ApiClientGen
