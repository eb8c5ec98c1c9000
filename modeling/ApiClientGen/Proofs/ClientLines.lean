import ApiClientGen.Proofs.OneLineTexts

/-!
# The lines of a client class

The text of a client class is read back line by line.  Four openings tell the
lines that begin a step of a method from all others, and the lines with one of
them are, operation by operation, the declaration of the method, the request,
the content if there is a body, and the return.  Nothing is asked of
descriptions and summaries.  What must have no line end are the texts that are
written as they are: paths, references and content types.
-/

namespace ApiClientGen

namespace Text

/-! ## Openings of lines -/

def beginsWith (opening line : String) : Bool :=
  opening.toList.isPrefixOf line.toList

theorem beginsWith_iff {opening line : String} :
    beginsWith opening line = true ↔ opening.toList <+: line.toList :=
  List.isPrefixOf_iff_prefix

/-- What is known of a line settles whether it has an opening, unless the
opening is longer and begins in the same way. -/
theorem beginsWith_append {opening front : String}
    (hfront :
      beginsWith opening front = true ∨ beginsWith front opening = false)
    (rest : String) :
    beginsWith opening (front ++ rest) = beginsWith opening front := by
  rw [Bool.eq_iff_iff, beginsWith_iff, beginsWith_iff, String.toList_append]
  constructor
  · intro hline
    rcases List.prefix_or_prefix_of_prefix hline (List.prefix_append _ _) with
      hshort | hlong
    · exact hshort
    · rcases hfront with hopens | hclash
      · exact beginsWith_iff.mp hopens
      · rw [beginsWith_iff.mpr hlong] at hclash
        cases hclash
  · intro hopens
    exact hopens.trans (List.prefix_append _ _)

theorem beginsWith_append_append (front opening line : String) :
    beginsWith (front ++ opening) (front ++ line) =
      beginsWith opening line := by
  rw [Bool.eq_iff_iff, beginsWith_iff, beginsWith_iff, String.toList_append,
    String.toList_append]
  exact List.prefix_append_right_inj _

/-- A line that begins with a word does not begin with a text that has, within
the length of the word, a character that the word does not have. -/
theorem beginsWith_append_eq_false {opening word : String} {c : Char}
    (hopening : c ∈ opening.toList.take word.toList.length)
    (hword : c ∉ word.toList) (rest : String) :
    beginsWith opening (word ++ rest) = false := by
  rw [Bool.eq_false_iff, Ne, beginsWith_iff, String.toList_append]
  rintro ⟨more, hline⟩
  have htaken : c ∈ (opening.toList ++ more).take word.toList.length := by
    rw [List.take_append]
    exact List.mem_append_left _ hopening
  rw [hline, List.take_left] at htaken
  exact hword htaken

end Text

namespace Api

open Document (ApiDocument)

/-! ## Texts that are written as they are -/

/-- The texts of a declaration that stand as they are in its method: its path,
the references of the parameters in force, and the type and the reference of its
JSON content. -/
def Declaration.verbatimTexts (declaration : Declaration) : List String :=
  declaration.path ::
    ((declaration.parameterObjects.flatMap fun object =>
      referenceTexts object.schema) ++
      declaration.jsonContent?.toList.flatMap fun content =>
        content.1 :: referenceTexts content.2.schema)

/-- An operation of which nothing that is written as it is has a line end. -/
structure Operation.OnOneLine (operation : Operation) : Prop where
  name : Text.OnOneLine operation.name
  path : Text.OnOneLine operation.path
  parameters : ∀ parameter ∈ operation.parameters,
    Text.OnOneLine parameter.name ∧ parameter.type.OnOneLine
  body : ∀ body ∈ operation.body,
    body.type.OnOneLine ∧ Text.OnOneLine body.contentType
  returnType : operation.returnType.OnOneLine

theorem Declaration.onOneLine_lowered {declaration : Declaration}
    {name : String} (hname : Text.OnOneLine name)
    (htexts : ∀ text ∈ declaration.verbatimTexts, Text.OnOneLine text)
    (models : List String) :
    (declaration.lowered models name).OnOneLine := by
  rw [verbatimTexts, List.forall_mem_cons, List.forall_mem_append,
    List.forall_mem_flatMap, List.forall_mem_flatMap] at htexts
  obtain ⟨hpath, hobjects, hcontents⟩ := htexts
  refine ⟨hname, hpath, fun parameter hparameter => ?_,
    fun body hbody => ?_, ?_⟩
  · obtain ⟨object, hobject, hrenamed⟩ := exists_renamed_of_mem hparameter
    refine ⟨Text.onOneLine_of_domestic
      (ClientCode.domestic_of_renamed hrenamed), ?_⟩
    rw [hrenamed.rest]
    exact onOneLine_referencedType (hobjects object hobject) models
  · rw [lowered_body] at hbody
    obtain ⟨content, hcontent, rfl⟩ := Option.map_eq_some_iff.mp hbody
    have htexts := hcontents content (Option.mem_toList.mpr hcontent)
    rw [List.forall_mem_cons] at htexts
    exact ⟨onOneLine_referencedType htexts.2 models, htexts.1⟩
  · have hany : ApiType.any.OnOneLine := by decide
    exact hany

theorem onOneLine_of_mem_operations {document : ApiDocument}
    (htexts : ∀ declaration ∈ declarations document,
      ∀ text ∈ declaration.verbatimTexts, Text.OnOneLine text)
    {operation : Operation}
    (hmem : operation ∈ (ofDocument document).operations) :
    operation.OnOneLine := by
  rw [operations_ofDocument] at hmem
  obtain ⟨declaration, hdeclared, taken, rfl⟩ :=
    exists_related_of_mem
      (forall₂_lowered_freshName _ [] (declarations document)) hmem
  exact Declaration.onOneLine_lowered
    (onOneLine_freshName_baseName hdeclared taken)
    (htexts declaration hdeclared) _

theorem returnType_of_mem_operations {document : ApiDocument}
    {operation : Operation}
    (hmem : operation ∈ (ofDocument document).operations) :
    operation.returnType = .any := by
  obtain ⟨declaration, -, name, rfl⟩ := exists_lowered_of_mem_operations hmem
  rfl

end Api

namespace ClientCode

open Api (ApiInfo Declaration Operation declarations ofDocument)
open Document (ApiDocument)
open Text (OnOneLine beginsWith onOneLine_of_all)

/-! ## The lines are not broken -/

theorem onOneLine_summaryLines {indent : String} (hindent : OnOneLine indent)
    (description : Option String) :
    ∀ line ∈ summaryLines indent description, OnOneLine line := by
  unfold summaryLines
  split
  · exact List.forall_mem_nil _
  · split
    · exact List.forall_mem_nil _
    · rename_i text _
      have hopen : OnOneLine (indent ++ "/// <summary>") :=
        hindent.append (onOneLine_of_all rfl)
      have hmark : OnOneLine (indent ++ "/// ") :=
        hindent.append (onOneLine_of_all rfl)
      have hclose : OnOneLine (indent ++ "/// </summary>") :=
        hindent.append (onOneLine_of_all rfl)
      rw [List.forall_mem_cons, List.forall_mem_cons, List.forall_mem_singleton]
      exact ⟨hopen, hmark.append (onOneLine_commentText text), hclose⟩

section Method

variable {operation : Operation} (hoperation : operation.OnOneLine)

include hoperation

theorem onOneLine_signatureText : OnOneLine (signatureText operation) := by
  have hblank : OnOneLine " " := onOneLine_of_all rfl
  rw [signatureText_eq_intercalate]
  apply Text.onOneLine_intercalate (onOneLine_of_all rfl)
  rw [List.forall_mem_map, signature, List.forall_mem_append,
    List.forall_mem_map, List.forall_mem_map]
  constructor
  · intro parameter hparameter
    obtain ⟨hname, htype⟩ := hoperation.parameters parameter hparameter
    exact (htype.append hblank).append (onOneLine_identifier hname)
  · intro body hbody
    have htype := (hoperation.body body (Option.mem_toList.mp hbody)).1
    have hname : OnOneLine Api.bodyParameterName := onOneLine_of_all rfl
    exact (htype.append hblank).append hname

theorem onOneLine_methodLine : OnOneLine (methodLine operation) := by
  have hsignature := onOneLine_signatureText hoperation
  refine .append
    (.append (.append (.append (.append (.append ?_ hoperation.returnType) ?_)
      hoperation.name) ?_) hsignature) ?_
  all_goals exact onOneLine_of_all rfl

theorem onOneLine_requestLine : OnOneLine (requestLine operation) := by
  have hmethod :=
    Text.onOneLine_of_domestic (Api.domestic_title operation.method)
  have hpath := onOneLine_interpolatedPath (fun parameter hparameter =>
    (hoperation.parameters parameter hparameter).1) hoperation.path
  refine .append (.append
    (.append (.append (.append (.append ?_ ?_) ?_) hmethod) ?_) hpath) ?_
  all_goals exact onOneLine_of_all rfl

theorem onOneLine_contentLines :
    ∀ line ∈ contentLines operation, OnOneLine line := by
  unfold contentLines
  split
  · rename_i body hbody
    have hcontent := (hoperation.body body hbody).2
    have hessence : OnOneLine (String.ofList
        (Document.mediaTypeEssence body.contentType.toList)) := by
      rw [Text.onOneLine_ofList]
      exact fun c hc => hcontent c (mediaTypeEssence_subset _ hc)
    rw [List.forall_mem_singleton]
    refine .append (.append (.append (.append (.append ?_ ?_) ?_) ?_)
      (onOneLine_literalText hessence)) ?_
    all_goals exact onOneLine_of_all rfl
  · exact List.forall_mem_nil _

theorem onOneLine_returnLine : OnOneLine (returnLine operation) := by
  refine .append (.append (.append (.append ?_ hoperation.returnType) ?_) ?_) ?_
  all_goals exact onOneLine_of_all rfl

theorem onOneLine_methodLines :
    ∀ line ∈ methodLines operation, OnOneLine line := by
  have hempty : OnOneLine "" := onOneLine_of_all rfl
  have hopen : OnOneLine "    \x7b" := onOneLine_of_all rfl
  have hclose : OnOneLine "    \x7d" := onOneLine_of_all rfl
  have hindent : OnOneLine "    " := onOneLine_of_all rfl
  have hsummary := onOneLine_summaryLines hindent operation.summary
  have hobsolete :
      ∀ line ∈ if operation.deprecated then ["    [System.Obsolete]"] else [],
        OnOneLine line := by
    split <;> decide
  simp only [methodLines, List.forall_mem_append, List.forall_mem_cons,
    List.mem_nil_iff, false_implies, implies_true, and_true]
  exact ⟨⟨⟨⟨⟨hempty, hsummary⟩, hobsolete⟩, onOneLine_methodLine hoperation,
    hopen, onOneLine_requestLine hoperation⟩,
    onOneLine_contentLines hoperation⟩, onOneLine_returnLine hoperation, hclose⟩

end Method

theorem onOneLine_clientLines {info : ApiInfo} {operations : List Operation}
    (hclass : OnOneLine info.clientClassName)
    (hoperations : ∀ operation ∈ operations, operation.OnOneLine) :
    ∀ line ∈ clientLines info operations, OnOneLine line := by
  have hindent : OnOneLine "" := onOneLine_of_all rfl
  have hsummary := onOneLine_summaryLines hindent info.description
  have hmethods : ∀ line ∈ operations.flatMap methodLines, OnOneLine line :=
    List.forall_mem_flatMap.mpr fun operation hmem =>
      onOneLine_methodLines (hoperations operation hmem)
  have hdeclaration : OnOneLine
      ("public class " ++ info.clientClassName ++ " : BaseApiClient") :=
    .append (.append (onOneLine_of_all rfl) hclass) (onOneLine_of_all rfl)
  have hconstructor : OnOneLine
      ("    public " ++ info.clientClassName ++ "(HttpClient httpClient)") :=
    .append (.append (onOneLine_of_all rfl) hclass) (onOneLine_of_all rfl)
  unfold clientLines
  rw [List.forall_mem_append, List.forall_mem_append, List.forall_mem_append,
    List.forall_mem_append]
  refine ⟨⟨⟨⟨by decide, hsummary⟩, ?_⟩, hmethods⟩, by decide⟩
  simp only [List.forall_mem_cons, List.mem_nil_iff, false_implies,
    implies_true, and_true]
  exact ⟨hdeclaration, by decide, hconstructor, by decide⟩

/-- The lines of the text of a client class are the lines that it is made of. -/
theorem lines_clientText {info : ApiInfo} {operations : List Operation}
    (hclass : OnOneLine info.clientClassName)
    (hoperations : ∀ operation ∈ operations, operation.OnOneLine) :
    Text.lines (clientText info operations) =
      clientLines info operations ++ [""] :=
  Text.lines_join (onOneLine_clientLines hclass hoperations)

/-! ## Steps of a method -/

/-- How the lines begin that a method is made of: its declaration, its
variables, the content of the request and the return. -/
def openings : List String :=
  ["    public async Task<", "        var ", "        httpRequest.Content",
    "        return "]

/-- Whether a line begins a step of a method. -/
def opensStep (line : String) : Bool :=
  openings.any (beginsWith · line)

def declarationLine (operation : Operation) : String :=
  "    public async Task<Result<object>> " ++ operation.name ++ "Async(" ++
    String.intercalate ", " ((signature operation).map fun entry =>
      typeName entry.1 ++ " " ++ entry.2) ++ ")"

def contentLine (body : Api.Body) : String :=
  "        httpRequest.Content = " ++
    "new StringContent(JsonSerializer.Serialize(requestBody, SerializerOptions), Encoding.UTF8, \"" ++
    literalText (String.ofList
      (Document.mediaTypeEssence body.contentType.toList)) ++ "\");"

/-- The lines that begin a step of the method of an operation: its declaration,
the request with its verb, the content if there is a body, and the return. -/
def stepLines (operation : Operation) : List String :=
  [declarationLine operation,
    "        var httpRequest = " ++ "new HttpRequestMessage(HttpMethod." ++
      operation.method.title ++
      ", $\"" ++ interpolatedPath operation.path operation.parameters ++
      "\");"] ++
    operation.body.toList.map contentLine ++
    ["        return await SendRequestAsync<object>(httpRequest);"]

/-- A beginning of a line that settles for every opening whether the line has
it. -/
def Settles (front : String) : Prop :=
  ∀ opening ∈ openings,
    beginsWith opening front = true ∨ beginsWith front opening = false

instance : DecidablePred Settles :=
  fun front => List.decidableBAll
    (fun opening => beginsWith opening front = true ∨
      beginsWith front opening = false) openings

theorem opensStep_append {front : String} (hfront : Settles front)
    (rest : String) :
    opensStep (front ++ rest) = opensStep front := by
  rw [opensStep, opensStep, Bool.eq_iff_iff, List.any_eq_true, List.any_eq_true]
  apply exists_congr
  intro opening
  apply and_congr_right
  intro hopening
  rw [Text.beginsWith_append (hfront opening hopening)]

theorem opensStep_methodLine (operation : Operation) :
    opensStep (methodLine operation) = true := by
  unfold methodLine
  simp only [String.append_assoc]
  rw [opensStep_append] <;> decide

theorem opensStep_requestLine (operation : Operation) :
    opensStep (requestLine operation) = true := by
  unfold requestLine
  simp only [String.append_assoc]
  rw [opensStep_append] <;> decide

theorem opensStep_returnLine (operation : Operation) :
    opensStep (returnLine operation) = true := by
  unfold returnLine
  simp only [String.append_assoc]
  rw [opensStep_append] <;> decide

theorem contentLines_eq (operation : Operation) :
    contentLines operation = operation.body.toList.map contentLine := by
  have hfront : "        " ++ Api.requestVariableName ++
      ".Content = new StringContent(JsonSerializer.Serialize(requestBody, SerializerOptions), " ++
      "Encoding.UTF8, \"" =
      "        httpRequest.Content = " ++
        "new StringContent(JsonSerializer.Serialize(requestBody, SerializerOptions), " ++
        "Encoding.UTF8, \"" := by
    decide
  unfold contentLines
  cases operation.body with
  | none => rfl
  | some body =>
      simp only [hfront]
      rfl

/-- Every operation returns an untyped value. -/
theorem stepLines_eq {operation : Operation}
    (hreturn : operation.returnType = .any) :
    stepLines operation =
      [methodLine operation, requestLine operation] ++ contentLines operation ++
        [returnLine operation] := by
  have hdeclaration :
      "    public async Task<Result<" ++ typeName .any ++ ">> " =
        "    public async Task<Result<object>> " := by
    decide
  have hrequest : "        var " ++ Api.requestVariableName ++
      " = new HttpRequestMessage(HttpMethod." =
      "        var httpRequest = " ++ "new HttpRequestMessage(HttpMethod." := by
    decide
  have hsend :
      "        return await SendRequestAsync<" ++ typeName .any ++ ">(" ++
        Api.requestVariableName ++ ");" =
        "        return await SendRequestAsync<object>(httpRequest);" := by
    decide
  unfold stepLines declarationLine methodLine requestLine returnLine
  rw [contentLines_eq, signatureText_eq_intercalate, hreturn, hdeclaration,
    hrequest, hsend]

theorem filter_opensStep_contentLines (operation : Operation) :
    (contentLines operation).filter opensStep = contentLines operation := by
  rw [List.filter_eq_self, contentLines_eq, List.forall_mem_map]
  intro body _
  unfold contentLine
  simp only [String.append_assoc]
  rw [opensStep_append] <;> decide

/-- The text of a description comes behind the mark of a comment. -/
theorem filter_opensStep_summaryLines {indent : String}
    (hsettles : Settles (indent ++ "/// "))
    (hmark : opensStep (indent ++ "/// ") = false)
    (description : Option String) :
    (summaryLines indent description).filter opensStep = [] := by
  rw [List.filter_eq_nil_iff]
  have hcomment (text : String) :
      ¬opensStep (indent ++ ("/// " ++ text)) = true := by
    rw [← String.append_assoc, opensStep_append hsettles, hmark]
    exact Bool.false_ne_true
  unfold summaryLines
  split
  · exact List.forall_mem_nil _
  · split
    · exact List.forall_mem_nil _
    · rw [List.forall_mem_cons, List.forall_mem_cons, List.forall_mem_singleton,
        String.append_assoc]
      exact ⟨hcomment "<summary>", hcomment _, hcomment "</summary>"⟩

theorem filter_opensStep_methodLines {operation : Operation}
    (hreturn : operation.returnType = .any) :
    (methodLines operation).filter opensStep = stepLines operation := by
  have hsummary :=
    filter_opensStep_summaryLines (by decide : Settles ("    " ++ "/// "))
      (by decide) operation.summary
  have hobsolete :
      (if operation.deprecated then ["    [System.Obsolete]"] else []).filter
        opensStep = [] := by
    split <;> decide
  have hempty : opensStep "" = false := by decide
  have hopen : opensStep "    \x7b" = false := by decide
  have hclose : opensStep "    \x7d" = false := by decide
  rw [stepLines_eq hreturn, methodLines]
  simp only [List.filter_append, hsummary, hobsolete,
    filter_opensStep_contentLines, List.filter_cons, List.filter_nil,
    opensStep_methodLine, opensStep_requestLine, opensStep_returnLine, hempty,
    hopen, hclose, if_true, if_false, Bool.false_eq_true, List.nil_append,
    List.append_assoc]

/-- The constructor begins like a method, but its name has no blank where the
declaration of a method has one. -/
theorem opensStep_constructorLine {name : String}
    (hname : ∀ c ∈ name.toList, Naming.isIdentifierChar c = true)
    (hlength : 6 ≤ name.toList.length) :
    opensStep ("    public " ++ name ++ "(HttpClient httpClient)") = false := by
  have hblank : ' ' ∉ name.toList := by
    intro hmem
    have hchar := hname ' ' hmem
    revert hchar
    decide
  have hfront : ' ' ∈ "async Task<".toList.take name.toList.length :=
    List.take_subset_take_left _ hlength (by decide)
  have hmethod : beginsWith ("    public " ++ "async Task<")
      ("    public " ++ (name ++ "(HttpClient httpClient)")) = false := by
    rw [Text.beginsWith_append_append]
    exact Text.beginsWith_append_eq_false hfront hblank _
  have hstatement :
      ∀ opening ∈ openings.tail, beginsWith opening "    public " = false ∧
        beginsWith "    public " opening = false := by
    decide
  rw [String.append_assoc, opensStep, List.any_eq_false]
  intro opening hopening
  rw [Bool.not_eq_true]
  rcases List.mem_cons.mp hopening with rfl | hrest
  · exact hmethod
  · obtain ⟨hshort, hlong⟩ := hstatement opening hrest
    rw [Text.beginsWith_append (Or.inr hlong), hshort]

/-- The declarations of methods are told from the other steps by how they
begin. -/
theorem filter_declaration_stepLines (operation : Operation) :
    (stepLines operation).filter (beginsWith "    public async Task<") =
      [declarationLine operation] := by
  have hdeclaration : beginsWith "    public async Task<"
      (declarationLine operation) = true := by
    unfold declarationLine
    simp only [String.append_assoc]
    rw [Text.beginsWith_append] <;> decide
  have hrequest (rest : String) : beginsWith "    public async Task<"
      ("        var httpRequest = " ++ rest) = false := by
    rw [Text.beginsWith_append] <;> decide
  have hcontent (body : Api.Body) :
      beginsWith "    public async Task<" (contentLine body) = false := by
    unfold contentLine
    simp only [String.append_assoc]
    rw [Text.beginsWith_append] <;> decide
  have hreturn : beginsWith "    public async Task<"
      "        return await SendRequestAsync<object>(httpRequest);" =
      false := by
    decide
  have hcontents : (operation.body.toList.map contentLine).filter
      (beginsWith "    public async Task<") = [] := by
    cases operation.body with
    | none => rfl
    | some body => simp [hcontent body]
  unfold stepLines
  simp only [List.filter_append, List.filter_cons, List.filter_nil,
    String.append_assoc, hdeclaration, hrequest, hcontents, hreturn, if_true,
    Bool.false_eq_true, if_false, List.append_nil]

section Client

variable {info : ApiInfo} {operations : List Operation}
  (hclass : ∀ c ∈ info.clientClassName.toList, Naming.isIdentifierChar c = true)
  (hlength : 6 ≤ info.clientClassName.toList.length)
  (hreturn : ∀ operation ∈ operations, operation.returnType = .any)

include hclass hlength hreturn

theorem filter_opensStep_clientLines :
    (clientLines info operations).filter opensStep =
      operations.flatMap stepLines := by
  have hsummary :=
    filter_opensStep_summaryLines (by decide : Settles ("" ++ "/// "))
      (by decide) info.description
  have hmethods : (operations.flatMap methodLines).filter opensStep =
      operations.flatMap stepLines := by
    rw [List.filter_flatMap]
    apply List.flatMap_congr
    intro operation hmem
    exact filter_opensStep_methodLines (hreturn operation hmem)
  have hconstructor := opensStep_constructorLine hclass hlength
  have hheading : opensStep ("public class " ++ info.clientClassName ++
      " : BaseApiClient") = false := by
    rw [String.append_assoc, opensStep_append] <;> decide
  have hopening : [generatedMark, "using System.Collections.Generic;",
      "using System.Net.Http;", "using System.Text;", "using System.Text.Json;",
      "using System.Threading.Tasks;", "using FluentResults;", ""].filter
      opensStep = [] := by
    decide
  have hbraces : ["\x7b", "        : base(httpClient)", "    \x7b", "    \x7d",
      "\x7d"].filter opensStep = [] := by
    decide
  simp only [List.filter_eq_nil_iff, List.forall_mem_cons, Bool.not_eq_true]
    at hbraces
  obtain ⟨hopen, hbase, hinner, hclose, hend, -⟩ := hbraces
  unfold clientLines
  simp only [List.filter_append, hopening, hsummary, hmethods, List.filter_cons,
    hheading, hconstructor, hopen, hbase, hinner, hclose, hend,
    Bool.false_eq_true, if_false, List.filter_nil, List.nil_append,
    List.append_nil]

theorem filter_opensStep_clientText
    (hoperations : ∀ operation ∈ operations, operation.OnOneLine) :
    (Text.lines (clientText info operations)).filter opensStep =
      operations.flatMap stepLines := by
  have hend : [""].filter opensStep = [] := by decide
  rw [lines_clientText (Text.onOneLine_of_isIdentifierChar hclass) hoperations,
    List.filter_append, filter_opensStep_clientLines hclass hlength hreturn,
    hend, List.append_nil]

end Client

theorem filter_declaration_of_filter_opensStep {lines : List String}
    {operations : List Operation}
    (hlines : lines.filter opensStep = operations.flatMap stepLines) :
    lines.filter (beginsWith "    public async Task<") =
      operations.map declarationLine := by
  have hopens (line : String)
      (hline : beginsWith "    public async Task<" line = true) :
      opensStep line = true :=
    List.any_eq_true.mpr ⟨_, List.mem_cons_self, hline⟩
  have hboth : lines.filter (beginsWith "    public async Task<") =
      (lines.filter opensStep).filter
        (beginsWith "    public async Task<") := by
    rw [List.filter_filter]
    apply List.filter_congr
    intro line _
    rw [Bool.eq_iff_iff, Bool.and_eq_true]
    exact ⟨fun hline => ⟨hline, hopens line hline⟩, fun hline => hline.1⟩
  rw [hboth, hlines, List.filter_flatMap, List.map_eq_flatMap]
  apply List.flatMap_congr
  intro operation _
  exact filter_declaration_stepLines operation

/-- The class has one method for each operation, in order.  Its declaration
lists the types and identifiers of the parameters and of the body, and behind it
come, before the next declaration, one line with the request and its verb, one
with the content if there is a body, and one with the return.  The description
of the API and the summaries of the operations have no part in this: whatever
they are, they add no such line and break none. -/
theorem client_has_one_method_per_operation (document : ApiDocument)
    (htexts : ∀ declaration ∈ declarations document,
      ∀ text ∈ declaration.verbatimTexts, OnOneLine text) :
    let api := ofDocument document
    let lines := Text.lines (clientFile api).content
    lines.filter (beginsWith "    public async Task<") =
      api.operations.map declarationLine ∧
      lines.filter opensStep = api.operations.flatMap stepLines ∧
      ∀ (description : Option String) (retell : Operation → Option String),
        let operations := api.operations.map fun operation =>
          { operation with summary := retell operation }
        (Text.lines (clientText { api.info with description }
          operations)).filter opensStep = lines.filter opensStep := by
  intro api lines
  have hclass : ∀ c ∈ api.info.clientClassName.toList,
      Naming.isIdentifierChar c = true :=
    fun _ hc => Naming.isIdentifierChar_of_mem_clientClassName hc
  have hlength : 6 ≤ api.info.clientClassName.toList.length := by
    simp [api, ofDocument, Api.infoOf, Naming.clientClassName]
    omega
  have hoperations : ∀ operation ∈ api.operations, operation.OnOneLine :=
    fun _ hmem => Api.onOneLine_of_mem_operations htexts hmem
  have hreturn : ∀ operation ∈ api.operations, operation.returnType = .any :=
    fun _ hmem => Api.returnType_of_mem_operations hmem
  have hlines : lines.filter opensStep = api.operations.flatMap stepLines :=
    filter_opensStep_clientText hclass hlength hreturn hoperations
  refine ⟨filter_declaration_of_filter_opensStep hlines, hlines, ?_⟩
  intro description retell operations
  have hretold : ∀ operation ∈ operations,
      operation.OnOneLine ∧ operation.returnType = .any := by
    intro operation hmem
    obtain ⟨told, htold, rfl⟩ := List.mem_map.mp hmem
    obtain ⟨hname, hpath, hparameters, hbody, htype⟩ := hoperations told htold
    exact ⟨⟨hname, hpath, hparameters, hbody, htype⟩, hreturn told htold⟩
  have hsame : operations.flatMap stepLines =
      api.operations.flatMap stepLines := List.flatMap_map _ _ _
  rw [hlines, ← hsame]
  exact filter_opensStep_clientText hclass hlength
    (fun operation hmem => (hretold operation hmem).2)
    fun operation hmem => (hretold operation hmem).1

/-- A document whose descriptions pretend to be methods. -/
def pretendingDocument : ApiDocument where
  openapi := none
  swagger := none
  info := ⟨"Pets", "1",
    some "A shop.\n    public async Task<Result<object>> GiveAwayAsync()"⟩
  components := some
    ⟨some (OrderedMap.ofList [("Pet", .object [("properties", .object [])])])⟩
  paths := OrderedMap.ofList [("/pets/\x7bpet_id\x7d",
    ⟨OrderedMap.ofList [("get",
      .object [("summary",
        .string "One pet.\r\n        return await GiveAwayAsync();\n    \x7d"),
        ("parameters", .array
          [.object [("name", .string "pet_id"), ("in", .string "path")]])])]⟩),
    ("/pets",
      ⟨OrderedMap.ofList [("post", .object
        [("deprecated", .bool true), ("requestBody", .object [("content",
          .object [("application/json; charset=utf-8", .object [("schema",
            .object [("$ref", .string "#/components/schemas/Pet")])])])])])]⟩)]

theorem client_has_one_method_per_operation_pretending :
    (∀ declaration ∈ declarations pretendingDocument,
      ∀ text ∈ declaration.verbatimTexts,
        OnOneLine text) ∧
    let lines := Text.lines (clientFile (ofDocument pretendingDocument)).content
    lines.filter (beginsWith "    public async Task<") =
      ["    public async Task<Result<object>> PetsPet_idGetAsync(object petId)",
        "    public async Task<Result<object>> PetsPostAsync(Pet requestBody)"] ∧
      (lines.filter opensStep).length = 7 := by
  have htexts : ∀ declaration ∈ declarations pretendingDocument,
      ∀ text ∈ declaration.verbatimTexts,
        OnOneLine text := by
    decide +kernel
  obtain ⟨hmethods, hsteps, -⟩ :=
    client_has_one_method_per_operation pretendingDocument htexts
  refine ⟨htexts, ?_, ?_⟩
  · rw [hmethods]
    decide +kernel
  · rw [hsteps]
    decide +kernel

end ClientCode
end ApiClientGen
