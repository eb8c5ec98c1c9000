/-!
# Texts of the command
-/

namespace ApiClientGen
namespace Command

def commandName : String := "swagger-cs"

def version : String := "0.3.0"

/-- What is shown when no source is given. -/
def usageHint : String :=
  "usage: swagger-cs <SOURCE> [-o <DIR>]\n\n" ++
    "SOURCE is the URL or path of a Swagger/OpenAPI JSON document, e.g.\n" ++
    "  swagger-cs http://localhost:5000/swagger/v1/swagger.json\n\n" ++
    "Run `swagger-cs --help` for all options."

def helpText : String :=
  String.intercalate "\n"
    ["Generate a C# HTTP client and models from a Swagger/OpenAPI document", "",
      "Usage: swagger-cs [OPTIONS] [SOURCE]", "", "Arguments:",
      "  [SOURCE]  URL or path of the document (JSON, or YAML by `.yaml`/`.yml` extension)",
      "", "Options:",
      "  -o, --output <OUTPUT>      Directory the `\x7bTitle\x7dHttpClient` folder is created in " ++
        "[default: .]",
      "      --timeout <TIMEOUT>    Timeout in seconds for fetching a remote document [default: 30]",
      "      --no-base-client       Do not emit BaseApiClient.cs",
      "      --dry-run              List the files and diagnostics without writing anything",
      "      --completions <SHELL>  Generate shell completions and exit [possible values: bash, " ++
        "elvish, fish, powershell, zsh]",
      "  -h, --help                 Print help",
      "  -V, --version              Print version", ""]

/-- The name of the file that tells readers not to edit the generated files. -/
def readmeFileName : String := "README.md"

/-- The text of that file, for files generated from the given source. -/
def readmeText (source : String) : String :=
  "# Generated Code - Do Not Edit\n\n" ++
    "This directory is **auto-generated** by swagger-cs from `" ++ source ++
    "`.\n" ++
    "Any manual changes will be overwritten the next time it is run.\n\n" ++
    "To regenerate, run:\n```\nswagger-cs " ++ source ++ "\n```\n"

end Command
end ApiClientGen
