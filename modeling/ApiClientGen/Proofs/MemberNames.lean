import ApiClientGen.ClientCode.ModelFile
import ApiClientGen.Proofs.CaseImages
import ApiClientGen.Proofs.SchemaWarnings

/-!
# Names of record members

A member is named like its property, with a capital in front.  Properties have
distinct keys, but nothing keeps their names apart.  Two keys make one name if
they differ in the case of the first letter only, or if one of them spells out
the capital with which the name of the other begins.
-/

namespace ApiClientGen

namespace Naming

open Text (upperChar)

/-- The capitals of the first letters begin alike, and what the second capital
has left over is written out in the first text; behind that both texts are the
same.  So `name` and `Name` spell out each other, and `sS1` spells out `ß1`,
whose capital is `SS`. -/
inductive SpellsOut : List Char → List Char → Prop where
  | intro {c d : Char} {more : List Char} (rest : List Char)
      (hcapital : upperChar d = upperChar c ++ more) :
      SpellsOut (c :: (more ++ rest)) (d :: rest)

theorem SpellsOut.ne_nil {cs ds : List Char} (hspells : SpellsOut cs ds) :
    cs ≠ [] ∧ ds ≠ [] := by
  cases hspells with
  | intro rest hcapital => exact ⟨List.cons_ne_nil _ _, List.cons_ne_nil _ _⟩

theorem capitalizeChars_eq_nil_iff {cs : List Char} :
    capitalizeChars cs = [] ↔ cs = [] := by
  cases cs with
  | nil => exact iff_of_true rfl rfl
  | cons c rest =>
      obtain ⟨first, more, hupper, -⟩ := exists_upperChar_eq_cons c
      simp [capitalizeChars, hupper]

/-- Different texts are capitalized to one text exactly if one of them spells
out the other, since one of the two capitals then begins the other. -/
theorem capitalizeChars_eq_iff {cs ds : List Char} (hne : cs ≠ ds) :
    capitalizeChars cs = capitalizeChars ds ↔
      SpellsOut cs ds ∨ SpellsOut ds cs := by
  cases cs with
  | nil =>
      refine iff_of_false ?_
        (by rintro (hspells | hspells) <;> simpa using hspells.ne_nil)
      rw [capitalizeChars.eq_1, eq_comm, capitalizeChars_eq_nil_iff]
      exact hne.symm
  | cons c front =>
      cases ds with
      | nil =>
          refine iff_of_false ?_
            (by rintro (hspells | hspells) <;> simpa using hspells.ne_nil)
          rw [capitalizeChars.eq_1, capitalizeChars_eq_nil_iff]
          exact hne
      | cons d back =>
          rw [capitalizeChars, capitalizeChars, List.append_eq_append_iff]
          constructor
          · rintro (⟨more, hcapital, rfl⟩ | ⟨more, hcapital, rfl⟩)
            · exact Or.inl (.intro back hcapital)
            · exact Or.inr (.intro front hcapital)
          · rintro (⟨_, hcapital⟩ | ⟨_, hcapital⟩)
            · exact Or.inl ⟨_, hcapital, rfl⟩
            · exact Or.inr ⟨_, hcapital, rfl⟩

/-- One of two keys spells out the other. -/
def Clash (key other : String) : Prop :=
  SpellsOut key.toList other.toList ∨ SpellsOut other.toList key.toList

theorem capitalizeFirst_eq_iff {key other : String} (hne : key ≠ other) :
    capitalizeFirst key = capitalizeFirst other ↔ Clash key other := by
  have hchars : key.toList ≠ other.toList := fun heq =>
    hne (String.toList_inj.mp heq)
  rw [capitalizeFirst, capitalizeFirst, String.ofList_inj,
    capitalizeChars_eq_iff hchars, Clash]

theorem nodup_map_capitalizeFirst_iff {keys : List String}
    (hkeys : keys.Nodup) :
    (keys.map capitalizeFirst).Nodup ↔
      keys.Pairwise fun key other => ¬ Clash key other := by
  rw [List.Nodup, List.pairwise_map]
  constructor
  · intro hnames
    refine (hkeys.and hnames).imp ?_
    rintro key other ⟨hne, hname⟩ hclash
    exact hname ((capitalizeFirst_eq_iff hne).mpr hclash)
  · intro hkept
    refine (hkeys.and hkept).imp ?_
    rintro key other ⟨hne, hclash⟩ hname
    exact hclash ((capitalizeFirst_eq_iff hne).mp hname)

end Naming

namespace Api

open Document (ApiDocument propertyEntries)
open Naming (Clash capitalizeFirst capitalizeFirst_eq_iff
  nodup_map_capitalizeFirst_iff)

/-- The members of a record stand for the properties of its schema, which have
distinct keys.  Two members have one name exactly if the keys of their
properties clash, so the names are distinct exactly if no two keys do. -/
theorem members_clash_only_by_capitals (document : ApiDocument) :
    ∀ record, .record record ∈ (ofDocument document).models →
      (∃ fields, (record.name, .object fields) ∈ document.schemas ∧
        record.fields.map (·.originalName) =
          entryKeys (propertyEntries fields)) ∧
        (record.fields.map (·.originalName)).Nodup ∧
        (∀ field ∈ record.fields, ∀ other ∈ record.fields, field ≠ other →
          (field.name = other.name ↔
            Clash field.originalName other.originalName)) ∧
        ((record.fields.map (·.name)).Nodup ↔
          (record.fields.map (·.originalName)).Pairwise fun key other =>
            ¬ Clash key other) := by
  intro record hmem
  obtain ⟨fields, hentry, hfields, -⟩ := exists_properties_of_mem_models hmem
  have horiginal : record.fields.map (·.originalName) =
      entryKeys (propertyEntries fields) := by
    rw [hfields, List.map_map]
    rfl
  have hname : ∀ field ∈ record.fields,
      field.name = capitalizeFirst field.originalName :=
    fun field hfield => name_of_mem_fields hmem hfield
  have hkeys : (record.fields.map (·.originalName)).Nodup := by
    rw [horiginal]
    exact nodup_propertyEntries fields
  refine ⟨⟨fields, hentry, horiginal⟩, hkeys, ?_, ?_⟩
  · intro field hfield other hother hne
    have hdistinct : field.originalName ≠ other.originalName :=
      fun heq => hne (List.inj_on_of_nodup_map hkeys hfield hother heq)
    rw [hname field hfield, hname other hother,
      capitalizeFirst_eq_iff hdistinct]
  · rw [← nodup_map_capitalizeFirst_iff hkeys, List.map_map,
      List.map_congr_left hname]
    rfl

/-- A document with a record whose property keys differ in the case of the first
letter. -/
def twoNamesDocument : ApiDocument where
  openapi := none
  swagger := none
  info := ⟨"T", "1", none⟩
  paths := OrderedMap.empty
  components := some ⟨some (OrderedMap.ofList
    [("Pet", .object [("properties", .object
      [("name", .object [("type", .string "string")]),
        ("Name", .object [("type", .string "string")])])])])⟩

def twoNamesRecord : RecordModel :=
  ⟨"Pet", none, [⟨"Name", "name", .string⟩, ⟨"Name", "Name", .string⟩]⟩

/-- The keys `name` and `Name` clash. -/
theorem members_clash_only_by_capitals_pet : Clash "name" "Name" := by
  obtain ⟨-, -, hclash, -⟩ :=
    members_clash_only_by_capitals twoNamesDocument twoNamesRecord
      (by decide +kernel)
  exact (hclash ⟨"Name", "name", .string⟩ (.head _) ⟨"Name", "Name", .string⟩
    (.tail _ (.head _)) (by decide)).mp rfl

/-- The class of the record declares the same member twice, and no warning is
written. -/
theorem members_of_pet_clash :
    .record twoNamesRecord ∈ (ofDocument twoNamesDocument).models ∧
      ¬ (twoNamesRecord.fields.map (·.name)).Nodup ∧
      (ClientCode.recordLines twoNamesRecord).count
        "    public string Name \x7b get; set; \x7d" = 2 ∧
      (ofDocument twoNamesDocument).warnings.length = 0 := by
  decide +kernel

end Api
end ApiClientGen
