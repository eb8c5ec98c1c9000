import ApiClientGen.Proofs.PathSegments
import ApiClientGen.Proofs.WireNames

/-!
# Line ends in string literals

A regular string literal has to stand on one line, and so does the text of an
interpolated one.  Three kinds of texts of a document get into literals: paths,
content types and keys of properties.  Both ways to write them escape quotes and
backslashes, and a path its braces, but neither escapes a line end.  So a
literal has exactly the line ends, in order, of the text that stands in it, and
it is broken if there is one.  What keeps line ends out are two other steps: a
content type is reduced to its media type, and a placeholder that names a
parameter gives way to an identifier.
-/

namespace ApiClientGen
namespace ClientCode

open Api (Field Operation Parameter RecordModel ofDocument)
open Document (ApiDocument mediaTypeEssence)
open Naming (Domestic)

/-! ## Line ends of a text -/

/-- The characters that a regular string literal cannot hold: the line feed, the
carriage return, the next-line character and the separators of lines and
paragraphs. -/
def literalBreakers : List Char :=
  ['\n', '\r', '\u0085', '\u2028', '\u2029']

def lineEnds (cs : List Char) : List Char :=
  cs.filter (literalBreakers.contains ·)

@[simp]
theorem lineEnds_append (cs ds : List Char) :
    lineEnds (cs ++ ds) = lineEnds cs ++ lineEnds ds :=
  List.filter_append ..

theorem lineEnds_flatMap {α : Type} (write : α → List Char) (items : List α) :
    lineEnds (items.flatMap write) =
      items.flatMap fun item => lineEnds (write item) :=
  List.filter_flatMap ..

/-- No line end gets into a name, whatever it was made from. -/
theorem lineEnds_of_domestic {cs : List Char} (hcs : Domestic cs) :
    lineEnds cs = [] := by
  have hforeign : (literalBreakers.all Naming.isForeign) = true := by
    decide +kernel
  rw [lineEnds, List.filter_eq_nil_iff]
  intro c hc hbreaker
  have hmem : c ∈ literalBreakers := List.contains_iff_mem.mp hbreaker
  have hboth := List.all_eq_true.mp hforeign c hmem
  rw [hcs c hc] at hboth
  cases hboth

theorem lineEnds_identifier {name : String} (hname : Domestic name.toList) :
    lineEnds (identifier name).toList = [] := by
  have hmark : lineEnds "@".toList = [] := by decide
  rcases identifier_eq_or name with hsame | hmarked
  · rw [hsame, lineEnds_of_domestic hname]
  · rw [hmarked, String.toList_append, lineEnds_append, hmark,
      lineEnds_of_domestic hname, List.append_nil]

/-! ## Escapes -/

/-- A way to write characters that leaves line ends as they are and makes no
others. -/
def KeepsLineEnds (write : Char → List Char) : Prop :=
  ∀ c, lineEnds (write c) = lineEnds [c]

namespace KeepsLineEnds

variable {write : Char → List Char}

theorem self : KeepsLineEnds fun c => [c] :=
  fun _ => rfl

/-- One more character gets an escape. -/
theorem escape {special : Char} {text : List Char}
    (htext : lineEnds text = lineEnds [special])
    (hwrite : KeepsLineEnds write) :
    KeepsLineEnds fun c => if c = special then text else write c := by
  intro c
  by_cases hc : c = special
  · subst c
    simpa only [if_true] using htext
  · simpa only [if_neg hc] using hwrite c

theorem flatMap (hwrite : KeepsLineEnds write) (cs : List Char) :
    lineEnds (cs.flatMap write) = lineEnds cs := by
  calc
    lineEnds (cs.flatMap write) = cs.flatMap fun c => lineEnds [c] := by
      rw [lineEnds_flatMap]
      exact List.flatMap_congr fun c _ => hwrite c
    _ = lineEnds cs := by rw [← lineEnds_flatMap, List.flatMap_singleton']

end KeepsLineEnds

theorem keepsLineEnds_literalChar : KeepsLineEnds literalChar :=
  .escape rfl (.escape rfl .self)

theorem keepsLineEnds_interpolatedChar : KeepsLineEnds interpolatedChar :=
  .escape rfl (.escape rfl (.escape rfl (.escape rfl .self)))

theorem lineEnds_literalText (text : String) :
    lineEnds (literalText text).toList = lineEnds text.toList := by
  rw [literalText, String.toList_ofList, keepsLineEnds_literalChar.flatMap]

/-! ## Paths -/

/-- The text of a path without the placeholders that name a parameter. -/
def Segmentation.unfilled (segments : Segmentation)
    (parameters : List Parameter) : List Char :=
  segments.lead ++ segments.parts.flatMap fun part =>
    (if (holeFor parameters (String.ofList part.1)).isSome then []
      else part.1) ++ part.2

section Parameters

variable {parameters : List Parameter}
  (hnames : ∀ parameter ∈ parameters, Domestic parameter.name.toList)

include hnames

theorem lineEnds_writtenPlaceholder (name : List Char) :
    lineEnds (Segmentation.writtenPlaceholder parameters name) =
      lineEnds (if (holeFor parameters (String.ofList name)).isSome then []
        else name) := by
  have hbraces : lineEnds ['{'] = [] ∧ lineEnds ['}'] = [] := ⟨rfl, rfl⟩
  obtain ⟨hopen, hclose⟩ := hbraces
  unfold Segmentation.writtenPlaceholder
  cases hhole : holeFor parameters (String.ofList name) with
  | none =>
      have hsplit :
          '{' :: '{' :: (name.flatMap interpolatedChar ++ ['}', '}']) =
            ['{'] ++ ['{'] ++ name.flatMap interpolatedChar ++ ['}'] ++
              ['}'] := by simp
      simp only [hsplit, lineEnds_append, hopen, hclose,
        keepsLineEnds_interpolatedChar.flatMap, List.nil_append,
        List.append_nil, Option.isSome_none, Bool.false_eq_true, if_false]
  | some hole =>
      obtain ⟨parameter, hfind, rfl⟩ := Option.map_eq_some_iff.mp hhole
      have hidentifier :=
        lineEnds_identifier (hnames parameter (List.mem_of_find?_eq_some hfind))
      have hsplit : '{' :: ((identifier parameter.name).toList ++ ['}']) =
          ['{'] ++ (identifier parameter.name).toList ++ ['}'] := by simp
      simp only [hsplit, lineEnds_append, hopen, hclose, hidentifier,
        List.append_nil, Option.isSome_some, if_true]
      rfl

theorem lineEnds_interpolatedPath (path : String) :
    ∃ segments : Segmentation, segments.path = path.toList ∧
      segments.names.map String.ofList = PathTemplate.placeholders path ∧
      lineEnds (interpolatedPath path parameters).toList =
        lineEnds (segments.unfilled parameters) := by
  obtain ⟨segments, hfits⟩ := Segmentation.exists_fits path.toList
  refine ⟨segments, hfits.path_eq,
    by rw [hfits.names_eq, PathTemplate.placeholders], ?_⟩
  rw [interpolatedPath, String.toList_ofList, hfits.written_eq,
    Segmentation.written, Segmentation.unfilled]
  simp only [lineEnds_append, lineEnds_flatMap,
    lineEnds_writtenPlaceholder hnames, keepsLineEnds_interpolatedChar.flatMap]

end Parameters

/-! ## Literals in a file -/

/-- The literal stands between quotes in the source text. -/
def QuotedIn (literal source : String) : Prop :=
  ∃ front back, source = front ++ "\"" ++ literal ++ "\"" ++ back

theorem QuotedIn.sourceText {literal line : String}
    (hquoted : QuotedIn literal line) {lines : List String}
    (hline : line ∈ lines) : QuotedIn literal (sourceText lines) := by
  obtain ⟨front, back, rfl⟩ := hquoted
  obtain ⟨before, behind, rfl⟩ := List.append_of_mem hline
  refine ⟨ClientCode.sourceText before ++ front,
    back ++ "\n" ++ ClientCode.sourceText behind, ?_⟩
  simp [ClientCode.sourceText, String.append_assoc]

/-- What is written in front of the literal ends in a quote, and what is written
behind it begins with one. -/
theorem quotedIn_of_eq {opening closing front back : String}
    (hopening : opening = front ++ "\"") (hclosing : closing = "\"" ++ back)
    (literal : String) :
    QuotedIn literal (opening ++ literal ++ closing) := by
  refine ⟨front, back, ?_⟩
  rw [hopening, hclosing]
  simp only [String.append_assoc]

theorem quotedIn_requestLine (operation : Operation) :
    QuotedIn (interpolatedPath operation.path operation.parameters)
      (requestLine operation) := by
  have hquote : ", $\"" = ", $" ++ "\"" := by decide
  have hclosing : "\");" = "\"" ++ ");" := by decide
  have hopening (before : String) :
      before ++ ", $\"" = before ++ ", $" ++ "\"" := by
    rw [hquote, String.append_assoc]
  exact quotedIn_of_eq (hopening _) hclosing _

def contentTypeLiteral (body : Api.Body) : String :=
  literalText (String.ofList (mediaTypeEssence body.contentType.toList))

theorem quotedIn_contentLine (body : Api.Body) :
    QuotedIn (contentTypeLiteral body) (contentLine body) := by
  have hopening : "        httpRequest.Content = " ++
      "new StringContent(JsonSerializer.Serialize(requestBody, SerializerOptions), Encoding.UTF8, \"" =
      "        httpRequest.Content = new StringContent(JsonSerializer.Serialize(requestBody, " ++
        "SerializerOptions), Encoding.UTF8, " ++ "\"" := by
    decide
  have hclosing : "\");" = "\"" ++ ");" := by decide
  exact quotedIn_of_eq hopening hclosing _

theorem quotedIn_attributeLine (wireName : String) :
    QuotedIn (literalText wireName) (attributeLine wireName) := by
  have hopening : attributeOpening = "    [JsonPropertyName(" ++ "\"" := by
    decide
  have hclosing : "\")]" = "\"" ++ ")]" := by decide
  exact quotedIn_of_eq hopening hclosing _

/-- The literal stands between quotes in the source text, and it has the line
ends of the given text, in order, and no others. -/
structure LiteralOf (text : List Char) (literal source : String) : Prop where
  quoted : QuotedIn literal source
  lineEnds_eq : lineEnds literal.toList = lineEnds text

section Client

variable {api : Api.ApiModel} {operation : Operation}
    (hmem : operation ∈ api.operations)

include hmem

theorem mem_clientLines {line : String} (hline : line ∈ methodLines operation) :
    line ∈ clientLines api.info api.operations :=
  List.mem_append_left _
    (List.mem_append_right _ (List.mem_flatMap.mpr ⟨operation, hmem, hline⟩))

theorem quotedIn_clientFile_path :
    QuotedIn (interpolatedPath operation.path operation.parameters)
      (clientFile api).content := by
  apply (quotedIn_requestLine operation).sourceText (mem_clientLines hmem _)
  simp [methodLines]

theorem quotedIn_clientFile_contentType {body : Api.Body}
    (hbody : body ∈ operation.body) :
    QuotedIn (contentTypeLiteral body) (clientFile api).content := by
  apply (quotedIn_contentLine body).sourceText (mem_clientLines hmem _)
  have hline : contentLine body ∈ contentLines operation := by
    rw [contentLines_eq]
    exact List.mem_map_of_mem (Option.mem_toList.mpr hbody)
  simp [methodLines, hline]

end Client

theorem quotedIn_modelFile {record : RecordModel} {field : Field}
    (hfield : field ∈ record.fields)
    (hname : field.name = Naming.capitalizeFirst field.originalName)
    (hne : field.name ≠ field.originalName) :
    QuotedIn (literalText field.originalName)
      (modelFile (.record record)).content := by
  have hkey : field.originalName ≠ "" := by
    intro hkey
    apply hne
    rw [hname, hkey]
    decide
  have hline : attributeLine field.originalName ∈ fieldLines field := by
    rw [fieldLines, wireNameLines]
    simp [hne, hkey, attributeLine, attributeOpening]
  apply (quotedIn_attributeLine field.originalName).sourceText
  exact List.mem_append_left _
    (List.mem_append_right _ (List.mem_flatMap.mpr ⟨field, hfield, hline⟩))

/-! ## Line ends in literals -/

/-- Every literal with a path has the line ends of the path outside the
placeholders that name a parameter, every literal with a content type has those
of its media type, and every literal with the key of a property has those of the
key. -/
theorem literals_have_line_ends_of_texts (document : ApiDocument) :
    let api := ofDocument document
    (∀ operation ∈ api.operations,
      (∃ segments : Segmentation, segments.path = operation.path.toList ∧
        segments.names.map String.ofList =
          PathTemplate.placeholders operation.path ∧
        LiteralOf (segments.unfilled operation.parameters)
          (interpolatedPath operation.path operation.parameters)
          (clientFile api).content) ∧
        ∀ body ∈ operation.body,
          LiteralOf (mediaTypeEssence body.contentType.toList)
            (contentTypeLiteral body) (clientFile api).content) ∧
    ∀ record, .record record ∈ api.models →
      ∀ field ∈ record.fields, field.name ≠ field.originalName →
        LiteralOf field.originalName.toList (literalText field.originalName)
          (modelFile (.record record)).content := by
  intro api
  refine ⟨fun operation hmem => ⟨?_, fun body hbody => ⟨?_, ?_⟩⟩,
    fun record hmem field hfield hne => ⟨?_, ?_⟩⟩
  · obtain ⟨declaration, -, name, hlowered⟩ :=
      Api.exists_lowered_of_mem_operations hmem
    have hnames : ∀ parameter ∈ operation.parameters,
        Domestic parameter.name.toList := by
      intro parameter hparameter
      rw [← hlowered] at hparameter
      obtain ⟨object, -, hrenamed⟩ :=
        Api.Declaration.exists_renamed_of_mem hparameter
      exact domestic_of_renamed hrenamed
    obtain ⟨segments, hpath, hplaceholders, hends⟩ :=
      lineEnds_interpolatedPath hnames operation.path
    exact ⟨segments, hpath, hplaceholders, quotedIn_clientFile_path hmem, hends⟩
  · exact quotedIn_clientFile_contentType hmem hbody
  · rw [contentTypeLiteral, lineEnds_literalText, String.toList_ofList]
  · exact quotedIn_modelFile hfield (Api.name_of_mem_fields hmem hfield) hne
  · exact lineEnds_literalText field.originalName

/-- A document with a line end in a path, in the name of a parameter of the
path, in a content type and in the key of a property. -/
def brokenTextsDocument : ApiDocument where
  openapi := none
  swagger := none
  info := ⟨"T", "1", none⟩
  components := some ⟨some (OrderedMap.ofList
    [("Pet", .object [("properties", .object [("na\rme", .object [])])])])⟩
  paths := OrderedMap.ofList [("/pe\nts/\x7bpet\u2028id\x7d",
    ⟨OrderedMap.ofList [("post", .object
      [("parameters", .array [.object [("name", .string "pet\u2028id"),
        ("in", .string "path")]]), ("requestBody", .object [("content",
          .object [("application/x\u0085y+json;\n", .object [])])])])]⟩)]

def brokenTextsOperation : Operation where
  name := "PetsPetidPost"
  method := .post
  path := "/pe\nts/\x7bpet\u2028id\x7d"
  summary := none
  parameters := [⟨"petId", "pet\u2028id", some .path, .any⟩]
  body := some ⟨.any, "application/x\u0085y+json;\n"⟩
  returnType := .any
  deprecated := false

def brokenTextsRecord : RecordModel :=
  ⟨"Pet", none, [⟨"Na\rme", "na\rme", .any⟩]⟩

theorem brokenTextsOperation_mem :
    brokenTextsOperation ∈ (ofDocument brokenTextsDocument).operations := by
  decide +kernel

/-- The literals of the document have the line ends of the path, of the media
type and of the key. -/
theorem literals_have_line_ends_of_texts_broken :
    let api := ofDocument brokenTextsDocument
    brokenTextsOperation ∈ api.operations ∧
      .record brokenTextsRecord ∈ api.models ∧
      (∃ segments : Segmentation,
        segments.path = brokenTextsOperation.path.toList ∧
          segments.names.map String.ofList = ["pet\u2028id"] ∧
          LiteralOf (segments.unfilled brokenTextsOperation.parameters)
            "/pe\nts/\x7bpetId\x7d"
            (clientFile api).content) ∧
      LiteralOf "application/x\u0085y+json".toList "application/x\u0085y+json"
        (clientFile api).content ∧
      LiteralOf "na\rme".toList "na\rme"
        (modelFile (.record brokenTextsRecord)).content := by
  intro api
  have hrecord : .record brokenTextsRecord ∈ api.models := by decide +kernel
  obtain ⟨hoperations, hrecords⟩ :=
    literals_have_line_ends_of_texts brokenTextsDocument
  obtain ⟨⟨segments, hpath, hnames, hliteral⟩, hbody⟩ :=
    hoperations _ brokenTextsOperation_mem
  have hfield := hrecords brokenTextsRecord hrecord ⟨"Na\rme", "na\rme", .any⟩
    List.mem_cons_self (by decide)
  have hcontent := hbody ⟨.any, "application/x\u0085y+json;\n"⟩ rfl
  refine ⟨brokenTextsOperation_mem, hrecord, ⟨segments, hpath, ?_, ?_⟩, ?_, ?_⟩
  · rw [hnames]
    decide +kernel
  · have hwritten : interpolatedPath brokenTextsOperation.path
        brokenTextsOperation.parameters = "/pe\nts/\x7bpetId\x7d" := by
      decide +kernel
    rwa [hwritten] at hliteral
  · have hessence : mediaTypeEssence "application/x\u0085y+json;\n".toList =
        "application/x\u0085y+json".toList := by
      decide
    have hwritten : contentTypeLiteral ⟨.any, "application/x\u0085y+json;\n"⟩ =
        "application/x\u0085y+json" := by
      decide
    rwa [hessence, hwritten] at hcontent
  · have hwritten : literalText "na\rme" = "na\rme" := by decide
    rwa [hwritten] at hfield

/-- A line feed in a path stands in the literal of the path, between its
quotes. -/
theorem line_feed_gets_into_literal :
    let api := ofDocument brokenTextsDocument
    ∃ operation ∈ api.operations,
      let literal := interpolatedPath operation.path operation.parameters
      '\n' ∈ literal.toList ∧ QuotedIn literal (clientFile api).content :=
  ⟨brokenTextsOperation, brokenTextsOperation_mem, by decide +kernel,
    quotedIn_clientFile_path brokenTextsOperation_mem⟩

end ClientCode
end ApiClientGen
