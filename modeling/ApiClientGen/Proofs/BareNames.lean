import ApiClientGen.Proofs.InterpolatedString
import ApiClientGen.Proofs.SchemaWarnings

/-!
# Names that are written as they are

The names of models and the members of enumerations go into the source text
without a change.  What is tested is that their characters are those of an
identifier: a model with another name is skipped and a member with another name
is reported.  Here the warnings about members are counted exactly, and it is
shown what the test leaves open: of the names that nothing is said about,
precisely the reserved words cannot be written as they are.
-/

namespace ApiClientGen

namespace Api

open Document (ApiDocument)
open Json (Value)

/-! ## Warnings about members -/

/-- The member that a warning rejects, if it is about one. -/
def Cause.rejectedMember? : Cause → Option String
  | .memberNotIdentifier member => some member
  | _ => none

/-- Whether a warning says that a member of the given enumeration is no
identifier. -/
def Warning.rejects (enumeration member : String) (warning : Warning) : Bool :=
  warning.location == schemaLocation enumeration &&
    warning.cause.rejectedMember? == some member

theorem Cause.rejectedMember?_of_pathFault? {cause : Cause}
    (hfault : cause.pathFault?.isSome = true) :
    cause.rejectedMember? = none := by
  cases cause <;> first | rfl | cases hfault

theorem Cause.rejectedMember?_of_skipsSchema {cause : Cause}
    (hskips : cause.skipsSchema = true) :
    cause.rejectedMember? = none := by
  cases cause <;> first | rfl | cases hskips

/-- An entry that becomes an enumeration has one warning for each member that is
no identifier. -/
theorem entryWarnings_of_enumeration {models : List String}
    {entry : String × Value} {enumeration : Enumeration}
    (hmodel : entryModel? models entry = some (.enumeration enumeration)) :
    enumeration.name = entry.1 ∧
      entryWarnings models entry =
        (enumeration.members.filter (!Naming.isIdentifier ·)).map fun member =>
          ⟨schemaLocation entry.1, .memberNotIdentifier member⟩ := by
  obtain ⟨schema, hread, hmodel⟩ := exists_schema_of_entryModel? hmodel
  have hwarnings :
      entryWarnings models entry = modelWarnings models (entry.1, schema) := by
    rw [entryWarnings, hread]
  rw [hwarnings]
  cases henum : schema.enumeration with
  | some values =>
      obtain rfl : _ = enumeration := by simpa [modelOf?, henum] using hmodel
      simp [modelWarnings, henum]
  | none =>
      by_cases hpresent : schema.properties.isPresent = true
      · simp [modelOf?, henum, hpresent] at hmodel
      · simp [modelOf?, henum, hpresent] at hmodel

theorem AboutSchema.not_rejects {name enumeration : String}
    (hne : name ≠ enumeration) {warning : Warning}
    (habout : AboutSchema name warning) (member : String) :
    warning.rejects enumeration member = false := by
  cases habout with
  | skipped cause hcause =>
      simp [Warning.rejects, Cause.rejectedMember?_of_skipsSchema hcause]
  | member other => simp [Warning.rejects, schemaLocation_injective.eq_iff, hne]
  | property key hname => simp [Warning.rejects, Cause.rejectedMember?]

theorem countP_rejects_members (enumeration member : String)
    (members : List String) :
    ((members.filter (!Naming.isIdentifier ·)).map fun rejected =>
        (⟨schemaLocation enumeration, .memberNotIdentifier rejected⟩ :
          Warning)).countP
        (Warning.rejects enumeration member) =
      if Naming.isIdentifier member then 0 else members.count member := by
  have htest : ∀ rejected ∈ members,
      ((Warning.rejects enumeration member)
          ⟨schemaLocation enumeration, .memberNotIdentifier rejected⟩ &&
        !Naming.isIdentifier rejected) =
      (rejected == member && !Naming.isIdentifier member) := by
    intro rejected _
    by_cases hsame : rejected = member
    · simp [Warning.rejects, Cause.rejectedMember?, hsame]
    · have hne : (rejected == member) = false := by simpa using hsame
      simp [Warning.rejects, Cause.rejectedMember?, hne]
  rw [List.countP_map, List.countP_filter]
  by_cases hmember : Naming.isIdentifier member = true
  · rw [if_pos hmember, List.countP_eq_zero]
    intro rejected hrejected
    rw [Function.comp_apply, htest rejected hrejected, hmember]
    simp
  · rw [if_neg hmember, List.count]
    apply List.countP_congr
    intro rejected hrejected
    rw [Function.comp_apply, htest rejected hrejected,
      Bool.eq_false_iff.mpr hmember]
    simp

/-- Among all warnings of a document there is one for each time that a member
stands in its enumeration if the member is no identifier, and none if it is
one. -/
theorem countP_rejects_warnings {document : ApiDocument}
    {enumeration : Enumeration}
    (hmodel : .enumeration enumeration ∈ (ofDocument document).models)
    (member : String) :
    (ofDocument document).warnings.countP
      (Warning.rejects enumeration.name member) =
      if Naming.isIdentifier member then 0
      else enumeration.members.count member := by
  rw [models_ofDocument] at hmodel
  obtain ⟨entry, hentry, hmodel⟩ := List.mem_filterMap.mp hmodel
  obtain ⟨hname, hwarnings⟩ := entryWarnings_of_enumeration hmodel
  have hpaths : ∀ warning : Warning, warning.cause.pathFault?.isSome = true →
      warning.rejects entry.1 member = false := by
    intro warning hfault
    simp [Warning.rejects, Cause.rejectedMember?_of_pathFault? hfault]
  have hother : ∀ name, name ≠ entry.1 → ∀ warning, AboutSchema name warning →
      warning.rejects entry.1 member = false :=
    fun _ hne _ habout => habout.not_rejects hne member
  rw [hname, countP_warnings_of_mem_schemas hentry hpaths hother, hwarnings]
  exact countP_rejects_members _ _ _

theorem isIdentifier_of_mem_models {document : ApiDocument} {model : Model}
    (hmodel : model ∈ (ofDocument document).models) :
    Naming.isIdentifier model.name = true := by
  have hname : model.name ∈ modelNames (readableSchemas document.schemas) := by
    rw [← map_name_models]
    exact List.mem_map_of_mem hmodel
  obtain ⟨entry, hentry, heq⟩ := List.mem_map.mp hname
  rw [← heq]
  exact (exists_of_mem_readableSchemas (List.mem_filter.mp hentry).1).1

end Api

namespace ClientCode

open Api (Enumeration Model Warning ofDocument)

/-! ## Reserved words -/

/-- A name that can stand as it is where an identifier is expected. -/
def IsBare (name : String) : Prop :=
  Naming.isIdentifier name = true ∧ identifier name = name

instance (name : String) : Decidable (IsBare name) :=
  instDecidableAnd

/-- An identifier can be written as it is unless it is a reserved word. -/
theorem isBare_iff_not_mem_keywords {name : String}
    (hname : Naming.isIdentifier name = true) :
    IsBare name ↔ name ∉ keywords := by
  have hmark : "@" ++ name ≠ name := by
    intro heq
    have hlength := congrArg (·.toList.length) heq
    simp at hlength
  by_cases hkeyword : name ∈ keywords
  · simp [IsBare, identifier, hkeyword, hmark]
  · simp [IsBare, identifier, hkeyword, hname]

/-- Every model has an identifier as its name, and a member is reported exactly
as often as it stands in its enumeration without being an identifier.  So a name
that is not reported can be written as it is exactly if it is not a reserved
word. -/
theorem unreported_names_are_bare_unless_reserved
    (document : Document.ApiDocument) :
    (∀ model ∈ (ofDocument document).models,
      Naming.isIdentifier model.name = true ∧
        (IsBare model.name ↔ model.name ∉ keywords)) ∧
      ∀ enumeration, .enumeration enumeration ∈ (ofDocument document).models →
        ∀ member ∈ enumeration.members,
          (ofDocument document).warnings.countP
            (Warning.rejects enumeration.name member) =
            (if Naming.isIdentifier member then 0
              else enumeration.members.count member) ∧
            ((∀ warning ∈ (ofDocument document).warnings,
              warning.rejects enumeration.name member = false) →
              (IsBare member ↔ member ∉ keywords)) := by
  constructor
  · intro model hmodel
    have hname := Api.isIdentifier_of_mem_models hmodel
    exact ⟨hname, isBare_iff_not_mem_keywords hname⟩
  · intro enumeration hmodel member hmember
    have hcount := Api.countP_rejects_warnings hmodel member
    refine ⟨hcount, fun hunreported => isBare_iff_not_mem_keywords ?_⟩
    by_contra hname
    have hnone : (ofDocument document).warnings.countP
        (Warning.rejects enumeration.name member) = 0 := by
      rw [List.countP_eq_zero]
      intro warning hwarning
      simp [hunreported warning hwarning]
    rw [hnone, if_neg hname] at hcount
    have hpos := List.count_pos_iff.mpr hmember
    omega

/-- A document with a schema and a member that have reserved words as their
names, and with a member that is no identifier. -/
def reservedNamesDocument : Document.ApiDocument where
  openapi := none
  swagger := none
  info := ⟨"T", "1", none⟩
  components := some ⟨some (OrderedMap.ofList
    [("lock", .object [("properties", .object [])]), ("Kind", .object
      [("enum", .array (["Active", "in-progress", "class"].map .string))])])⟩
  paths := OrderedMap.ofList []

def kindEnumeration : Enumeration where
  name := "Kind"
  description := none
  members := ["Active", "in-progress", "class"]

/-- Of the three members one is reported, and of the other two one can be
written as it is. -/
theorem kind_names_are_bare_unless_reserved :
    (ofDocument reservedNamesDocument).warnings.countP
      (Warning.rejects "Kind" "in-progress") = 1 ∧
      IsBare "Active" ∧ ¬ IsBare "class" ∧ ¬ IsBare "lock" := by
  have hnames := unreported_names_are_bare_unless_reserved reservedNamesDocument
  have hmembers := hnames.2 kindEnumeration (by decide +kernel)
  have hlock := hnames.1 (.record ⟨"lock", none, []⟩) (by decide +kernel)
  refine ⟨(hmembers "in-progress" (by decide)).1, ?_, ?_, ?_⟩
  · exact ((hmembers "Active" (by decide)).2 (by decide +kernel)).mpr
      (by decide)
  · rw [(hmembers "class" (by decide)).2 (by decide +kernel)]
    decide
  · intro hbare
    exact hlock.2.mp hbare (by decide)

/-- A schema with the name `lock` becomes a model and a member `class` is not
reported, although neither name can be written as it is. -/
theorem reserved_names_are_unreported :
    (.record ⟨"lock", none, []⟩ ∈ (ofDocument reservedNamesDocument).models ∧
      ¬ IsBare "lock") ∧
      .enumeration kindEnumeration ∈ (ofDocument reservedNamesDocument).models ∧
      "class" ∈ kindEnumeration.members ∧
      (∀ warning ∈ (ofDocument reservedNamesDocument).warnings,
        warning.rejects "Kind" "class" = false) ∧
      ¬ IsBare "class" := by
  decide +kernel

end ClientCode
end ApiClientGen
