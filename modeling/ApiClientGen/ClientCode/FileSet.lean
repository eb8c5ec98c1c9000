import ApiClientGen.ClientCode.BaseClientFile
import ApiClientGen.ClientCode.ClientFile
import ApiClientGen.ClientCode.ModelFile

/-!
# The generated files

The client comes first, then the base class, then the models in order.  A file
whose path is taken by an earlier one is left out, so that a model never
replaces the client or the base class.
-/

namespace ApiClientGen
namespace ClientCode

def baseClientFile : SourceFile :=
  ⟨baseClientFileName, baseClientText⟩

/-- The files whose path is neither among `taken` nor that of an earlier
file. -/
def keepFirst (taken : List String) : List SourceFile → List SourceFile
  | [] => []
  | file :: rest =>
    if taken.contains file.path then keepFirst taken rest
    else file :: keepFirst (file.path :: taken) rest

/-- All files of an API, before those with a repeated path are left out. -/
def candidateFiles (api : Api.ApiModel) (withBaseClient : Bool) :
    List SourceFile :=
  clientFile api ::
    ((if withBaseClient then [baseClientFile] else []) ++
      api.models.map modelFile)

def sourceFiles (api : Api.ApiModel) (withBaseClient : Bool) :
    List SourceFile :=
  keepFirst [] (candidateFiles api withBaseClient)

end ClientCode
end ApiClientGen
