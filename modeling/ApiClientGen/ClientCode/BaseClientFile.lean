import ApiClientGen.ClientCode.SourceText

/-!
# The shared base class

The source text of the class that every generated client extends.  It sends a
request and turns the outcome into a result; nothing in it depends on the
document.
-/

namespace ApiClientGen
namespace ClientCode

def baseClientFileName : String := "BaseApiClient.cs"

def baseClientLines : List String :=
  ["// <auto-generated />",
    "using System;",
    "using System.Collections.Generic;",
    "using System.Linq;",
    "using System.Net.Http;",
    "using System.Text.Json;",
    "using System.Threading.Tasks;",
    "using FluentResults;",
    "",
    "/// <summary>",
    "/// Shared transport for generated clients: sends a request and folds the",
    "/// outcome into a <see cref=\"Result\x7bT\x7d\"/>.",
    "/// </summary>",
    "public abstract class BaseApiClient",
    "\x7b",
    "    protected static readonly JsonSerializerOptions SerializerOptions = new JsonSerializerOptions",
    "    \x7b",
    "        PropertyNameCaseInsensitive = true,",
    "    \x7d;",
    "",
    "    private readonly HttpClient _httpClient;",
    "",
    "    protected BaseApiClient(HttpClient httpClient)",
    "    \x7b",
    "        _httpClient = httpClient ?? throw new ArgumentNullException(nameof(httpClient));",
    "    \x7d",
    "",
    "    protected async Task<Result<T>> SendRequestAsync<T>(HttpRequestMessage request)",
    "    \x7b",
    "        HttpResponseMessage response;",
    "        string content;",
    "        try",
    "        \x7b",
    "            response = await _httpClient.SendAsync(request);",
    "            content = await response.Content.ReadAsStringAsync();",
    "        \x7d",
    "        catch (Exception)",
    "        \x7b",
    "            return Result.Fail<T>(\"An error occurred while making the API request.\");",
    "        \x7d",
    "",
    "        if (response.IsSuccessStatusCode)",
    "        \x7b",
    "            var value = JsonSerializer.Deserialize<T>(content, SerializerOptions);",
    "            return Result.Ok(value!);",
    "        \x7d",
    "",
    "        try",
    "        \x7b",
    "            if (string.IsNullOrWhiteSpace(content))",
    "            \x7b",
    "                return Result.Fail<T>(\"No response.\");",
    "            \x7d",
    "",
    "            var problems = JsonSerializer.Deserialize<ErrorModel[]>(content, SerializerOptions)",
    "                ?? Array.Empty<ErrorModel>();",
    "            if (problems.Length == 0)",
    "            \x7b",
    "                return Result.Fail<T>(\"No response.\");",
    "            \x7d",
    "",
    "            List<IError> errors = problems",
    "                .Select(problem => (IError)new Error(string.Concat(problem.Code, problem.Message)))",
    "                .ToList();",
    "            return Result.Fail<T>(errors);",
    "        \x7d",
    "        catch (Exception)",
    "        \x7b",
    "            return Result.Fail<T>(\"An error occurred while making the API request.\");",
    "        \x7d",
    "    \x7d",
    "",
    "    /// <summary>",
    "    /// One entry of the error array returned by the API.",
    "    /// </summary>",
    "    public class ErrorModel",
    "    \x7b",
    "        public string? Code \x7b get; set; \x7d",
    "",
    "        public string? Message \x7b get; set; \x7d",
    "    \x7d",
    "\x7d"]

def baseClientText : String :=
  sourceText baseClientLines

end ClientCode
end ApiClientGen
