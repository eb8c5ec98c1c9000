import ApiClientGen.Proofs.GeneratedNames
import ApiClientGen.Proofs.MethodSignature
import ApiClientGen.Proofs.OperationNames

/-!
# Texts that stand on one line

A generated file is put together from descriptions, names, types, paths and
content types.  A description is folded into words, and no line end gets into a
name, so neither can break a line whatever it was made from.  Types, paths and
content types are written as they are, up to escapes: they stand on one line as
soon as the texts in the document do.
-/

namespace ApiClientGen

namespace Text

/-! ## Lines of a text -/

/-- Whether a character ends a line: a line feed or a carriage return. -/
def isLineEnd (c : Char) : Bool :=
  c == '\n' || c == '\r'

/-- The parts of a text between its line ends.  Behind the last line end there
is one more part. -/
def lines (text : String) : List String :=
  (pieces isLineEnd text.toList).map String.ofList

def OnOneLine (text : String) : Prop :=
  ∀ c ∈ text.toList, isLineEnd c = false

instance : DecidablePred OnOneLine :=
  fun text => List.decidableBAll (fun c => isLineEnd c = false) text.toList

theorem OnOneLine.append {text other : String} (htext : OnOneLine text)
    (hother : OnOneLine other) :
    OnOneLine (text ++ other) := by
  rw [OnOneLine, String.toList_append, List.forall_mem_append]
  exact ⟨htext, hother⟩

theorem onOneLine_ofList {cs : List Char} :
    OnOneLine (String.ofList cs) ↔ ∀ c ∈ cs, isLineEnd c = false := by
  simp only [OnOneLine, String.toList_ofList]

/-- A fixed text is tested character by character, without being decoded. -/
theorem onOneLine_of_all {cs : List Char}
    (hcs : (cs.all fun c => !isLineEnd c) = true) :
    OnOneLine (String.ofList cs) := by
  rw [onOneLine_ofList]
  simpa using hcs

theorem onOneLine_intercalate {separator : String}
    (hseparator : OnOneLine separator) {texts : List String}
    (htexts : ∀ text ∈ texts, OnOneLine text) :
    OnOneLine (String.intercalate separator texts) := by
  induction texts with
  | nil => simp [OnOneLine]
  | cons text rest ih =>
      have htext := htexts text List.mem_cons_self
      have hrest :=
        ih fun other hother => htexts other (List.mem_cons_of_mem text hother)
      by_cases hlast : rest = []
      · rwa [hlast, String.intercalate_singleton]
      · rw [String.intercalate_cons_of_ne_nil hlast]
        exact (htext.append hseparator).append hrest

/-- Lines that are ended one after the other are the lines of the text. -/
theorem lines_join {texts : List String}
    (htexts : ∀ text ∈ texts, OnOneLine text) :
    lines (String.join (texts.map (· ++ "\n"))) = texts ++ [""] :=
  map_pieces_join rfl htexts

/-! ## Characters that end no line -/

/-- What holds of neither line end tells a character from them. -/
theorem not_isLineEnd_of {p : Char → Bool} (hfeed : p '\n' = false)
    (hreturn : p '\r' = false) {c : Char} (hc : p c = true) :
    isLineEnd c = false := by
  by_contra hnot
  have hend : c = '\n' ∨ c = '\r' := by
    simpa [isLineEnd, or_iff_not_imp_left] using hnot
  rcases hend with rfl | rfl
  · simp [hfeed] at hc
  · simp [hreturn] at hc

theorem not_isLineEnd_of_not_isForeign {c : Char}
    (hc : Naming.isForeign c = false) :
    isLineEnd c = false :=
  not_isLineEnd_of (p := fun c => !Naming.isForeign c) (by decide) (by decide)
    (by simp [hc])

theorem not_isLineEnd_of_not_isBlank {c : Char} (hc : isBlank c = false) :
    isLineEnd c = false :=
  not_isLineEnd_of (p := fun c => !isBlank c) (by decide) (by decide)
    (by simp [hc])

theorem onOneLine_of_domestic {name : String}
    (hname : Naming.Domestic name.toList) :
    OnOneLine name :=
  fun c hc => not_isLineEnd_of_not_isForeign (hname c hc)

theorem onOneLine_of_isIdentifierChar {name : String}
    (hname : ∀ c ∈ name.toList, Naming.isIdentifierChar c = true) :
    OnOneLine name :=
  onOneLine_of_domestic fun c hc => Naming.isForeign_eq_false (hname c hc)

end Text

/-! ## Names of operations -/

namespace Naming

theorem domestic_pathWords (atStart : Bool) (path : List Char) :
    Domestic (pathWords atStart path) := by
  induction path generalizing atStart with
  | nil => simp [pathWords, Domestic]
  | cons c rest ih =>
      by_cases hbreak : isWordBreak c = true
      · rw [pathWords, if_pos hbreak]
        exact ih true
      · rw [pathWords, if_neg hbreak]
        by_cases hkept : isIdentifierChar c = true
        · have hdomestic := isForeign_eq_false hkept
          rw [if_pos hkept]
          apply Domestic.append _ (ih false)
          cases atStart with
          | true => exact domestic_upperChar hdomestic
          | false => exact domestic_lowerChar hdomestic
        · rw [if_neg hkept]
          exact ih atStart

/-- A character of a capitalized text is one of the text, or a case mapping has
made it. -/
theorem mem_or_not_isForeign_of_mem_capitalizeChars {cs : List Char} {c : Char}
    (hc : c ∈ capitalizeChars cs) : c ∈ cs ∨ isForeign c = false := by
  cases cs with
  | nil => cases hc
  | cons first rest =>
      rw [capitalizeChars, List.mem_append] at hc
      rcases hc with hupper | hrest
      · rcases eq_or_not_isForeign_of_mem_upperChar hupper with rfl | hdomestic
        · exact Or.inl List.mem_cons_self
        · exact Or.inr hdomestic
      · exact Or.inl (List.mem_cons_of_mem first hrest)

end Naming

namespace Api

open Document (ApiDocument SchemaObject referenceName)
open Naming (Domestic)
open Text (OnOneLine isLineEnd)

theorem domestic_title (method : HttpMethod) :
    Domestic method.title.toList := by
  cases method <;> decide

theorem domestic_operationName {key : String} {method : HttpMethod}
    (hmethod : HttpMethod.named? key = some method) (path : String) :
    Domestic (Naming.operationName path key).toList := by
  rw [Naming.operationName, titleWord_of_named? hmethod, String.toList_ofList]
  exact (Naming.domestic_pathWords true path.toList).append
    (domestic_title method)

theorem domestic_freshName {base : String} (hbase : Domestic base.toList)
    (taken : List String) :
    Domestic (freshName taken base).toList := by
  rcases (leastName_freshName taken base).eq_or_numbered with
    hsame | ⟨n, hnumbered⟩
  · rwa [hsame]
  · rw [hnumbered]
    exact ClientCode.domestic_numbered hbase n

/-- No line end gets into the name of an operation, whatever the path is. -/
theorem onOneLine_freshName_baseName {document : ApiDocument}
    {declaration : Declaration}
    (hdeclared : declaration ∈ declarations document) (taken : List String) :
    OnOneLine (freshName taken declaration.baseName) := by
  apply Text.onOneLine_of_domestic
  apply domestic_freshName
  exact domestic_operationName (Declaration.named?_key hdeclared)
    declaration.path

/-! ## Types -/

theorem onOneLine_capitalizeChars {cs : List Char}
    (hcs : ∀ c ∈ cs, isLineEnd c = false) :
    OnOneLine (String.ofList (Naming.capitalizeChars cs)) := by
  rw [Text.onOneLine_ofList]
  intro c hc
  rcases Naming.mem_or_not_isForeign_of_mem_capitalizeChars hc with
    hmem | hdomestic
  · exact hcs c hmem
  · exact Text.not_isLineEnd_of_not_isForeign hdomestic

theorem lastSegments_subset (token : List Char) :
    (lastSegments token).1 ⊆ token ∧ (lastSegments token).2 ⊆ token := by
  constructor
  · intro c hc
    have htaken := List.takeWhile_subset _ (List.mem_reverse.mp hc)
    have hdropped := List.dropWhile_subset _ (List.mem_of_mem_drop htaken)
    exact List.mem_reverse.mp hdropped
  · intro c hc
    have htaken := List.takeWhile_subset _ (List.mem_reverse.mp hc)
    exact List.mem_reverse.mp htaken

/-- The types whose name has no line end. -/
abbrev ApiType.OnOneLine (type : ApiType) : Prop :=
  Text.OnOneLine (ClientCode.typeName type)

theorem onOneLine_of_qualifiedType? {token : String} {type : ApiType}
    (htype : qualifiedType? token = some type) (htoken : OnOneLine token) :
    type.OnOneLine := by
  unfold qualifiedType? at htype
  split at htype
  · obtain ⟨hspace, hname⟩ := lastSegments_subset token.toList
    obtain rfl := Option.some.inj htype
    have hdot : OnOneLine "." := by decide
    have hfront := onOneLine_capitalizeChars fun c hc => htoken c (hspace hc)
    have hback := onOneLine_capitalizeChars fun c hc => htoken c (hname hc)
    exact (hfront.append hdot).append hback
  · cases htype

theorem onOneLine_primitiveType (token : String) :
    (primitiveType token).OnOneLine := by
  unfold primitiveType
  split <;> decide

theorem onOneLine_typeOfReference {token : String} (htoken : OnOneLine token)
    (models : List String) :
    (typeOfReference models token).OnOneLine := by
  unfold typeOfReference
  split
  · rename_i type hqualified
    exact onOneLine_of_qualifiedType? hqualified htoken
  · rename_i hqualified
    split
    · exact htoken
    · rw [typeOfToken, hqualified, Option.getD_none]
      exact onOneLine_primitiveType token

/-- The text of the reference of a schema, if there is one. -/
def referenceTexts (schema : Option SchemaObject) : List String :=
  (schema.bind (·.reference)).toList

theorem onOneLine_referencedType {schema : Option SchemaObject}
    (hschema : ∀ text ∈ referenceTexts schema, OnOneLine text)
    (models : List String) :
    (referencedType models schema).OnOneLine := by
  unfold referencedType
  split
  · rename_i token htoken
    obtain ⟨object, hobject, hname⟩ := Option.bind_eq_some_iff.mp htoken
    obtain ⟨reference, hreference, rfl⟩ := Option.map_eq_some_iff.mp hname
    have hline : OnOneLine reference :=
      hschema reference (by simp [referenceTexts, hobject, hreference])
    apply onOneLine_typeOfReference
    rw [referenceName, Text.onOneLine_ofList]
    intro c hc
    have htaken := List.takeWhile_subset _ (List.mem_reverse.mp hc)
    exact hline c (List.mem_reverse.mp htaken)
  · decide

end Api

namespace ClientCode

open Api (Parameter)
open Text (OnOneLine isLineEnd)

/-! ## Escapes -/

/-- A way to write characters that makes no line end out of another
character. -/
def MakesNoLineEnd (write : Char → List Char) : Prop :=
  ∀ c, ∀ d ∈ write c, d = c ∨ isLineEnd d = false

namespace MakesNoLineEnd

variable {write : Char → List Char}

theorem self : MakesNoLineEnd fun c => [c] := by
  intro c d hd
  exact Or.inl (List.mem_singleton.mp hd)

/-- One more character gets an escape. -/
theorem escape {special : Char} {text : List Char}
    (htext : (text.all fun d => !isLineEnd d) = true)
    (hwrite : MakesNoLineEnd write) :
    MakesNoLineEnd fun c => if c = special then text else write c := by
  intro c d hd
  by_cases hc : c = special
  · simp only [if_pos hc] at hd
    have hplain := List.all_eq_true.mp htext d hd
    exact Or.inr (by simpa using hplain)
  · simp only [if_neg hc] at hd
    exact hwrite c d hd

theorem apply (hwrite : MakesNoLineEnd write) {c : Char}
    (hc : isLineEnd c = false) :
    ∀ d ∈ write c, isLineEnd d = false := by
  intro d hd
  rcases hwrite c d hd with rfl | hplain
  · exact hc
  · exact hplain

theorem flatMap (hwrite : MakesNoLineEnd write) {cs : List Char}
    (hcs : ∀ c ∈ cs, isLineEnd c = false) :
    ∀ d ∈ cs.flatMap write, isLineEnd d = false := by
  intro d hd
  obtain ⟨c, hc, hd⟩ := List.mem_flatMap.mp hd
  exact hwrite.apply (hcs c hc) d hd

end MakesNoLineEnd

theorem makesNoLineEnd_commentChar : MakesNoLineEnd commentChar :=
  .escape rfl (.escape rfl (.escape rfl .self))

theorem makesNoLineEnd_literalChar : MakesNoLineEnd literalChar :=
  .escape rfl (.escape rfl .self)

theorem makesNoLineEnd_interpolatedChar : MakesNoLineEnd interpolatedChar :=
  .escape rfl (.escape rfl (.escape rfl (.escape rfl .self)))

/-! ## Comments, literals and paths -/

theorem mem_joinWith {separator : List Char} {pieces : List (List Char)}
    {c : Char} (hc : c ∈ Text.joinWith separator pieces) :
    c ∈ separator ∨ ∃ piece ∈ pieces, c ∈ piece := by
  induction pieces using Text.joinWith.induct with
  | case1 => cases hc
  | case2 piece => exact Or.inr ⟨piece, List.mem_cons_self, hc⟩
  | case3 piece next others ih =>
      rw [Text.joinWith, List.mem_append, List.mem_append] at hc
      rcases hc with (hpiece | hseparator) | hrest
      · exact Or.inr ⟨piece, List.mem_cons_self, hpiece⟩
      · exact Or.inl hseparator
      · rcases ih hrest with hseparator | ⟨other, hother, hmem⟩
        · exact Or.inl hseparator
        · exact Or.inr ⟨other, List.mem_cons_of_mem piece hother, hmem⟩

/-- A description is one line of a comment, whatever it holds: its line ends are
blanks between its words. -/
theorem onOneLine_commentText (text : String) :
    OnOneLine (commentText text) := by
  rw [commentText, Text.onOneLine_ofList]
  apply makesNoLineEnd_commentChar.flatMap
  intro c hc
  rcases mem_joinWith hc with hspace | ⟨word, hword, hmem⟩
  · rw [List.mem_singleton.mp hspace]
    decide
  · have hpiece := (List.mem_filter.mp hword).1
    exact Text.not_isLineEnd_of_not_isBlank
      (Text.not_cut_of_mem_pieces hpiece hmem)

theorem onOneLine_literalText {text : String} (htext : OnOneLine text) :
    OnOneLine (literalText text) := by
  rw [literalText, Text.onOneLine_ofList]
  exact makesNoLineEnd_literalChar.flatMap htext

theorem mediaTypeEssence_subset (contentType : List Char) :
    Document.mediaTypeEssence contentType ⊆ contentType := by
  intro c hc
  have hend := List.dropWhile_subset _ (List.mem_reverse.mp hc)
  have hfront := List.dropWhile_subset _ (List.mem_reverse.mp hend)
  exact List.takeWhile_subset _ hfront

theorem onOneLine_identifier {name : String} (hname : OnOneLine name) :
    OnOneLine (identifier name) := by
  rcases identifier_eq_or name with hsame | hmarked
  · rwa [hsame]
  · have hmark : OnOneLine "@" := by decide
    rw [hmarked]
    exact hmark.append hname

section Parameters

variable {parameters : List Parameter}
    (hnames : ∀ parameter ∈ parameters, OnOneLine parameter.name)

include hnames

theorem not_isLineEnd_of_mem_placeholderText {name : List Char}
    (hname : ∀ c ∈ name, isLineEnd c = false) :
    ∀ c ∈ placeholderText parameters name, isLineEnd c = false := by
  unfold placeholderText
  split
  · rename_i parameter hfind
    have hidentifier :=
      onOneLine_identifier (hnames parameter (List.mem_of_find?_eq_some hfind))
    rw [List.forall_mem_append, List.forall_mem_cons, List.forall_mem_singleton]
    exact ⟨⟨rfl, hidentifier⟩, rfl⟩
  · have hliteral := makesNoLineEnd_interpolatedChar.flatMap hname
    simp only [List.forall_mem_append, List.forall_mem_cons, List.mem_nil_iff,
      false_implies, implies_true, and_true]
    exact ⟨⟨⟨rfl, rfl⟩, hliteral⟩, rfl, rfl⟩

theorem not_isLineEnd_of_mem_interpolate {path : List Char}
    (hpath : ∀ c ∈ path, isLineEnd c = false) :
    ∀ c ∈ interpolate parameters path, isLineEnd c = false := by
  induction path using interpolate.induct with
  | case1 => simp [interpolate]
  | case2 rest after hclose ih =>
      have hsplit := PathTemplate.takeWhile_append_of_behind? hclose
      rw [← hsplit, List.forall_mem_cons, List.forall_mem_append,
        List.forall_mem_cons] at hpath
      obtain ⟨-, hname, -, hafter⟩ := hpath
      rw [interpolate_placeholder hclose, List.forall_mem_append]
      exact ⟨not_isLineEnd_of_mem_placeholderText hnames hname, ih hafter⟩
  | case3 rest hnone ih =>
      rw [List.forall_mem_cons] at hpath
      rw [interpolate_literal (Or.inr hnone), List.forall_mem_append]
      exact ⟨makesNoLineEnd_interpolatedChar.apply hpath.1, ih hpath.2⟩
  | case4 c rest hc ih =>
      rw [List.forall_mem_cons] at hpath
      rw [interpolate_literal (Or.inl hc), List.forall_mem_append]
      exact ⟨makesNoLineEnd_interpolatedChar.apply hpath.1, ih hpath.2⟩

theorem onOneLine_interpolatedPath {path : String} (hpath : OnOneLine path) :
    OnOneLine (interpolatedPath path parameters) := by
  rw [interpolatedPath, Text.onOneLine_ofList]
  exact not_isLineEnd_of_mem_interpolate hnames hpath

end Parameters

end ClientCode
end ApiClientGen
