import ApiClientGen.ClientCode.RequestPath
import ApiClientGen.Document.RequestBody

/-!
# The file of the client class

The client class has one asynchronous method per operation, in order.
-/

namespace ApiClientGen
namespace ClientCode

open Api (Operation Parameter)

def parameterText (parameter : Parameter) : String :=
  typeName parameter.type ++ " " ++ identifier parameter.name

/-- The parameters of a method, the body last. -/
def signatureText (operation : Operation) : String :=
  let body :=
    match operation.body with
    | some body => [typeName body.type ++ " " ++ Api.bodyParameterName]
    | none => []
  String.intercalate ", " (operation.parameters.map parameterText ++ body)

/-- The lines that give a request its content, if the operation has a body. -/
def contentLines (operation : Operation) : List String :=
  match operation.body with
  | some body =>
    let essence :=
      String.ofList (Document.mediaTypeEssence body.contentType.toList)
    ["        " ++ Api.requestVariableName ++
      ".Content = new StringContent(JsonSerializer.Serialize(requestBody, SerializerOptions), " ++
      "Encoding.UTF8, \"" ++ literalText essence ++ "\");"]
  | none => []

/-- The line that declares the method of an operation. -/
def methodLine (operation : Operation) : String :=
  "    public async Task<Result<" ++ typeName operation.returnType ++ ">> " ++
    operation.name ++ "Async(" ++ signatureText operation ++ ")"

/-- The line that makes the request of an operation. -/
def requestLine (operation : Operation) : String :=
  "        var " ++ Api.requestVariableName ++
    " = new HttpRequestMessage(HttpMethod." ++
    operation.method.title ++ ", $\"" ++
    interpolatedPath operation.path operation.parameters ++ "\");"

/-- The line that sends the request of an operation. -/
def returnLine (operation : Operation) : String :=
  "        return await SendRequestAsync<" ++ typeName operation.returnType ++
    ">(" ++ Api.requestVariableName ++ ");"

def methodLines (operation : Operation) : List String :=
  [""] ++ summaryLines "    " operation.summary ++
    (if operation.deprecated then ["    [System.Obsolete]"] else []) ++
    [methodLine operation, "    \x7b", requestLine operation] ++
    contentLines operation ++ [returnLine operation, "    \x7d"]

def clientLines (info : Api.ApiInfo) (operations : List Operation) :
    List String :=
  [generatedMark, "using System.Collections.Generic;", "using System.Net.Http;",
    "using System.Text;", "using System.Text.Json;",
    "using System.Threading.Tasks;", "using FluentResults;", ""] ++
    summaryLines "" info.description ++
    ["public class " ++ info.clientClassName ++ " : BaseApiClient", "\x7b",
      "    public " ++ info.clientClassName ++ "(HttpClient httpClient)",
      "        : base(httpClient)", "    \x7b", "    \x7d"] ++
    operations.flatMap methodLines ++ ["\x7d"]

def clientText (info : Api.ApiInfo) (operations : List Operation) : String :=
  sourceText (clientLines info operations)

def clientFile (api : Api.ApiModel) : SourceFile :=
  ⟨fileName api.info.clientClassName, clientText api.info api.operations⟩

end ClientCode
end ApiClientGen
