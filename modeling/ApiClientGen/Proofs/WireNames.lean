import ApiClientGen.Proofs.ClientLines
import ApiClientGen.Proofs.LiteralReading
import ApiClientGen.Proofs.SchemaWarnings

/-!
# Names of members on the wire

A member of a class goes over the wire under the argument of its attribute, or
under its own name if it has no attribute.  The members are read back from the
lines of a class, and each of them goes by the key of its property.  An
attribute is left out for two reasons, that the name is the key and that the key
is empty.  Since a name is its key with a capital in front, the second reason
never stands alone.
-/

namespace ApiClientGen

namespace Api

def NamedAfterKeys (record : RecordModel) : Prop :=
  ∀ field ∈ record.fields,
    field.name = Naming.capitalizeFirst field.originalName

end Api

namespace ClientCode

open Api (Field NamedAfterKeys RecordModel ofDocument)
open Document (ApiDocument)
open Text (beginsWith)

/-! ## Reading the members of a class -/

/-- The beginning of an attribute with a name on the wire, up to the quote
before its argument. -/
def attributeOpening : String := "    [JsonPropertyName(\""

def memberOpening : String := "    public "

/-- The argument of an attribute with a name on the wire. -/
def attributeArgument? (line : String) : Option String := do
  let inside ← attributeOpening.toList.isPrefixOf? line.toList
  let (argument, rest) ← readLiteral inside
  if rest = ")]".toList then some (String.ofList argument) else none

/-- A member of a class: the argument of its attribute, if there is one, and its
declaration. -/
structure Member where
  argument : Option String
  declaration : String
deriving Repr, DecidableEq

/-- Reads the members of a class from its lines, given the argument of an
attribute in the line before.  An attribute that cannot be read makes the class
unreadable. -/
def readMembers (argument : Option String) : List String → Option (List Member)
  | [] => some []
  | line :: rest =>
    if beginsWith attributeOpening line then
      (attributeArgument? line).bind fun argument =>
        readMembers (some argument) rest
    else if beginsWith memberOpening line then
      (readMembers none rest).map (⟨argument, line⟩ :: ·)
    else
      readMembers none rest

/-! ## Lines that hold no member -/

/-- Both openings begin with a blank. -/
theorem beginsWith_eq_false {line : String}
    (hline : line.toList.head? ≠ some ' ') :
    beginsWith attributeOpening line = false ∧
      beginsWith memberOpening line = false := by
  have hopening : ∀ opening : String,
      opening.toList.head? = some ' ' → beginsWith opening line = false := by
    intro opening hblank
    rw [Bool.eq_false_iff, Ne, Text.beginsWith_iff]
    rintro ⟨rest, hrest⟩
    apply hline
    rw [← hrest, List.head?_append, hblank, Option.some_or]
  exact ⟨hopening _ (by decide), hopening _ (by decide)⟩

theorem readMembers_append_of_head? {front : List String}
    (hfront : ∀ line ∈ front, line.toList.head? ≠ some ' ')
    (rest : List String) :
    readMembers none (front ++ rest) = readMembers none rest := by
  induction front with
  | nil => rfl
  | cons line front ih =>
      rw [List.forall_mem_cons] at hfront
      obtain ⟨hattribute, hmember⟩ := beginsWith_eq_false hfront.1
      rw [List.cons_append, readMembers, hattribute, hmember]
      exact ih hfront.2

/-! ## Members of a record -/

def memberLine (field : Field) : String :=
  memberOpening ++ typeName field.type ++ " " ++ field.name ++
    " \x7b get; set; \x7d"

def attributeLine (wireName : String) : String :=
  attributeOpening ++ literalText wireName ++ "\")]"

def writtenMember (field : Field) : Member where
  argument :=
    if field.name = field.originalName || field.originalName = "" then none
    else some field.originalName
  declaration := memberLine field

theorem attributeArgument?_attributeLine (wireName : String) :
    attributeArgument? (attributeLine wireName) = some wireName := by
  have hinside :
      attributeOpening.toList.isPrefixOf? (attributeLine wireName).toList =
        some (wireName.toList.flatMap literalChar ++ '"' :: ")]".toList) := by
    rw [List.isPrefixOf?_eq_some_iff_append_eq]
    simp [attributeLine, literalText]
  rw [attributeArgument?, hinside, Option.bind_eq_bind, Option.bind_some,
    readLiteral_flatMap_literalChar]
  simp

theorem readMembers_attributeLine (argument : Option String) (wireName : String)
    (rest : List String) :
    readMembers argument (attributeLine wireName :: rest) =
      readMembers (some wireName) rest := by
  have hattribute : beginsWith attributeOpening (attributeLine wireName) =
      true := by
    rw [attributeLine, String.append_assoc, Text.beginsWith_append] <;> decide
  rw [readMembers, if_pos hattribute, attributeArgument?_attributeLine,
    Option.bind_some]

theorem readMembers_memberLine (argument : Option String) (field : Field)
    (rest : List String) :
    readMembers argument (memberLine field :: rest) =
      (readMembers none rest).map (⟨argument, memberLine field⟩ :: ·) := by
  have hattribute : beginsWith attributeOpening (memberLine field) = false := by
    simp only [memberLine, String.append_assoc]
    rw [Text.beginsWith_append] <;> decide
  have hmember : beginsWith memberOpening (memberLine field) = true := by
    simp only [memberLine, String.append_assoc]
    rw [Text.beginsWith_append] <;> decide
  rw [readMembers, hattribute, if_neg Bool.false_ne_true, if_pos hmember]

/-- A field is read from its lines, with the attribute at its own member. -/
theorem readMembers_fieldLines (field : Field) (rest : List String) :
    readMembers none (fieldLines field ++ rest) =
      (readMembers none rest).map (writtenMember field :: ·) := by
  have hlines : fieldLines field = wireNameLines field ++ [memberLine field] :=
    rfl
  rw [hlines, wireNameLines, writtenMember]
  split
  · exact readMembers_memberLine none field rest
  · have hattribute := readMembers_attributeLine none field.originalName
      (memberLine field :: rest)
    rw [readMembers_memberLine] at hattribute
    exact hattribute

theorem head?_summaryLines (description : Option String) :
    ∀ line ∈ summaryLines "" description, line.toList.head? ≠ some ' ' := by
  unfold summaryLines
  split
  · exact List.forall_mem_nil _
  · split
    · exact List.forall_mem_nil _
    · simp

/-- The members of a class are those that are written for the fields of its
record, whatever its description, its types and its names hold. -/
theorem readMembers_recordLines (record : RecordModel) :
    readMembers none (recordLines record) =
      some (record.fields.map writtenMember) := by
  have hfields := read_flatMap readMembers_fieldLines record.fields ["\x7d"]
  have hclose : readMembers none ["\x7d"] = some [] := by decide
  rw [hclose, Option.map_some, List.foldr_cons_eq_append, List.append_nil]
    at hfields
  have hhead : ∀ line ∈ [generatedMark, "using System.Collections.Generic;",
      "using System.Text.Json.Serialization;", ""],
      line.toList.head? ≠ some ' ' := by
    decide
  have hclass : ∀ line ∈ ["public class " ++ record.name, "\x7b"],
      line.toList.head? ≠ some ' ' := by
    simp
  rw [recordLines, List.append_assoc, List.append_assoc, List.append_assoc,
    readMembers_append_of_head? hhead,
    readMembers_append_of_head? (head?_summaryLines _),
    readMembers_append_of_head? hclass, hfields]

/-! ## Names on the wire -/

/-- A key is left out of the attribute exactly if it is the name, since the name
of the empty key is empty as well. -/
theorem argument_writtenMember {field : Field}
    (hfield : field.name = Naming.capitalizeFirst field.originalName) :
    (writtenMember field).argument =
      if field.name = field.originalName then none
      else some field.originalName := by
  have hempty : field.originalName = "" → field.name = field.originalName := by
    intro hkey
    rw [hfield, hkey]
    decide
  by_cases hname : field.name = field.originalName
  · simp [writtenMember, hname]
  · have hkey : field.originalName ≠ "" := fun hkey => hname (hempty hkey)
    simp [writtenMember, hname, hkey]

/-- The member goes over the wire under the key of the field, and it has an
attribute exactly if it is not called by the key. -/
structure GoesByKey (field : Field) (member : Member) : Prop where
  declaration_eq : member.declaration = memberLine field
  isSome_argument_iff : member.argument.isSome = true ↔
    field.name ≠ field.originalName
  wireName_eq : member.argument.getD field.name = field.originalName

theorem goesByKey_writtenMember {field : Field}
    (hfield : field.name = Naming.capitalizeFirst field.originalName) :
    GoesByKey field (writtenMember field) := by
  have hargument := argument_writtenMember hfield
  by_cases hname : field.name = field.originalName
  · rw [if_pos hname] at hargument
    exact ⟨rfl, by simp [hargument, hname], by simp [hargument, hname]⟩
  · rw [if_neg hname] at hargument
    exact ⟨rfl, by simp [hargument, hname], by simp [hargument]⟩

/-- A text that is escaped for a literal has no quote behind an even number of
backslashes and does not end in an odd number of them.  With a quote behind it,
it is the one text that is read as the literal of the text.  So every member of
a record goes over the wire under the key of its property, whatever the key
is. -/
theorem wire_names_survive_rendering :
    (∀ text : String,
      literalText text =
        String.ofList (replaceChar '"' ['\\', '"']
          (replaceChar '\\' ['\\', '\\'] text.toList)) ∧
        (∀ front back, (literalText text).toList = front ++ '"' :: back →
          Odd (closingBackslashes front)) ∧
        Even (closingBackslashes (literalText text).toList) ∧
        ∀ input rest, readLiteral input = some (text.toList, rest) ↔
          input = (literalText text).toList ++ '"' :: rest) ∧
      (∀ record, NamedAfterKeys record →
        ∃ members, readMembers none (recordLines record) = some members ∧
          List.Forall₂ GoesByKey record.fields members) ∧
      ∀ document record, .record record ∈ (ofDocument document).models →
        NamedAfterKeys record := by
  refine ⟨fun text => ?_, fun record hrecord => ?_,
    fun document record hmem field hfield => ?_⟩
  · have hchars : (literalText text).toList = text.toList.flatMap literalChar :=
      String.toList_ofList
    rw [hchars]
    exact ⟨literalText_eq_replaceChar text,
      fun front back => odd_closingBackslashes,
      even_closingBackslashes text.toList,
      fun input rest => readLiteral_eq_some_iff⟩
  · refine ⟨record.fields.map writtenMember, readMembers_recordLines record, ?_⟩
    rw [List.forall₂_map_right_iff, List.forall₂_same]
    exact fun field hfield => goesByKey_writtenMember (hrecord field hfield)
  · exact Api.name_of_mem_fields hmem hfield

/-- A document with a record whose keys are empty, a quote behind a backslash, a
small and a capital name. -/
def quotedKeysDocument : ApiDocument where
  openapi := none
  swagger := none
  info := ⟨"T", "1", none⟩
  paths := OrderedMap.empty
  components := some ⟨some (OrderedMap.ofList
    [("Pet", .object [("properties", .object
      (["", "\\\"", "name", "Id"].map fun key => (key, .object [])))])])⟩

def quotedKeysRecord : RecordModel :=
  ⟨"Pet", none,
    [⟨"", "", .any⟩, ⟨"\\\"", "\\\"", .any⟩, ⟨"Name", "name", .any⟩,
      ⟨"Id", "Id", .any⟩]⟩

/-- All four members of the record go by their keys, of which one needs an
attribute. -/
theorem wire_names_survive_rendering_quotes :
    Odd (closingBackslashes "\\\\\\".toList) ∧
      ∃ members,
        readMembers none (recordLines quotedKeysRecord) = some members ∧
          List.Forall₂ GoesByKey quotedKeysRecord.fields members := by
  obtain ⟨htexts, hrecords, hlowered⟩ := wire_names_survive_rendering
  have hmem : .record quotedKeysRecord ∈
      (ofDocument quotedKeysDocument).models := by decide +kernel
  constructor
  · obtain ⟨-, hquotes, -⟩ := htexts "\\\""
    exact hquotes _ [] (by decide)
  · exact hrecords quotedKeysRecord
      (hlowered quotedKeysDocument quotedKeysRecord hmem)

end ClientCode
end ApiClientGen
