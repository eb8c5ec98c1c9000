import ApiClientGen.ClientCode.SourceText

/-!
# Files of models

An enumeration is written as an `enum` and a record as a class with one property
per field.
-/

namespace ApiClientGen
namespace ClientCode

open Api (Enumeration Field Model RecordModel)

def enumerationLines (model : Enumeration) : List String :=
  [generatedMark, ""] ++ summaryLines "" model.description ++
    ["public enum " ++ model.name, "\x7b"] ++
    model.members.map (fun member => "    " ++ member ++ ",") ++ ["\x7d"]

/-- The attribute that gives a field its name on the wire, if that differs from
the name of the property. -/
def wireNameLines (field : Field) : List String :=
  if field.name = field.originalName || field.originalName = "" then []
  else ["    [JsonPropertyName(\"" ++ literalText field.originalName ++ "\")]"]

def fieldLines (field : Field) : List String :=
  wireNameLines field ++
    ["    public " ++ typeName field.type ++ " " ++ field.name ++
      " \x7b get; set; \x7d"]

def recordLines (model : RecordModel) : List String :=
  [generatedMark, "using System.Collections.Generic;",
    "using System.Text.Json.Serialization;", ""] ++
    summaryLines "" model.description ++
    ["public class " ++ model.name, "\x7b"] ++
    model.fields.flatMap fieldLines ++ ["\x7d"]

def modelText : Model → String
  | .enumeration model => sourceText (enumerationLines model)
  | .record model => sourceText (recordLines model)

def modelFile (model : Model) : SourceFile :=
  ⟨fileName model.name, modelText model⟩

end ClientCode
end ApiClientGen
