import ApiClientGen.Proofs.PathWarnings

/-!
# The content that a request is sent with

Content types name one media type in many ways: with parameters behind it and in
either case of letters.  The search for content of JSON looks through that, but
the preference for `application/json` does not: it is a look-up of this very
key.  So the preferred type is passed over where it is written in another way
and some other type of JSON comes before it.
-/

namespace ApiClientGen
namespace Document

/-! ## Content types -/

/-- The media type that a content type names, without parameters and in small
letters. -/
def mediaType (contentType : String) : List Char :=
  Text.asciiLower (mediaTypeEssence contentType.toList)

/-- A content type of JSON: its media type ends in `/json` or `+json`. -/
def IsJsonType (contentType : String) : Prop :=
  "/json".toList <:+ mediaType contentType ∨
    "+json".toList <:+ mediaType contentType

/-- A content type that names `application/json`. -/
def IsPlainJson (contentType : String) : Prop :=
  mediaType contentType = "application/json".toList

instance (contentType : String) : Decidable (IsPlainJson contentType) :=
  decEq (mediaType contentType) "application/json".toList

theorem isJsonContentType_eq_true_iff {contentType : String} :
    isJsonContentType contentType = true ↔ IsJsonType contentType := by
  simp only [isJsonContentType, Bool.or_eq_true, List.isSuffixOf_iff_suffix,
    IsJsonType, mediaType]

theorem IsPlainJson.isJsonType {contentType : String}
    (hplain : IsPlainJson contentType) :
    IsJsonType contentType := by
  left
  rw [hplain]
  exact ⟨"application".toList, by decide⟩

theorem isPlainJson_plainKey : IsPlainJson "application/json" := by
  decide +kernel

namespace RequestBody

variable {body : RequestBody} {chosen : String × MediaType}

/-! ## The search -/

/-- The first entry of a body whose content type is one of JSON. -/
def IsFirstJson (body : RequestBody) (chosen : String × MediaType) : Prop :=
  IsJsonType chosen.1 ∧
    ∃ front back, body.content.toList = front ++ chosen :: back ∧
      ∀ entry ∈ front, ¬ IsJsonType entry.1

theorem find?_eq_some_iff_isFirstJson :
    body.content.toList.find? (isJsonContentType ·.1) = some chosen ↔
      body.IsFirstJson chosen := by
  simp only [List.find?_eq_some_iff_append, isJsonContentType_eq_true_iff,
    IsFirstJson, Bool.not_eq_true', ← Bool.not_eq_true]

/-- The entry under the plain key is chosen, and without one the first entry of
JSON. -/
theorem jsonContent?_eq_some_iff :
    body.jsonContent? = some chosen ↔
      (chosen.1 = "application/json" ∧ chosen ∈ body.content.toList) ∨
        ("application/json" ∉ body.content.keys ∧ body.IsFirstJson chosen) := by
  unfold jsonContent?
  cases hget : body.content.get? "application/json" with
  | some media =>
      have hmem := (lookup_eq_some_iff_mem body.content.distinct).mp hget
      have hkey : "application/json" ∈ body.content.keys :=
        List.mem_map_of_mem (f := Prod.fst) hmem
      simp only [Option.some.injEq, hkey, not_true_eq_false,
        false_and, or_false]
      constructor
      · rintro rfl
        exact ⟨rfl, hmem⟩
      · obtain ⟨key, other⟩ := chosen
        rintro ⟨rfl, hother⟩
        have hsame := (lookup_eq_some_iff_mem body.content.distinct).mpr hother
        rw [Option.some.inj (hget.symm.trans hsame)]
  | none =>
      have hkey : "application/json" ∉ body.content.keys := by
        intro hmem
        obtain ⟨entry, hentry, hkey⟩ := List.mem_map.mp hmem
        have hne := List.lookup_eq_none_iff.mp hget entry hentry
        simp [hkey] at hne
      rw [find?_eq_some_iff_isFirstJson]
      constructor
      · exact fun hfirst => Or.inr ⟨hkey, hfirst⟩
      · rintro (⟨hplain, hchosen⟩ | ⟨-, hfirst⟩)
        · exact absurd
            (hplain ▸ List.mem_map_of_mem (f := Prod.fst) hchosen) hkey
        · exact hfirst

theorem IsFirstJson.mem (hfirst : body.IsFirstJson chosen) :
    chosen ∈ body.content.toList := by
  obtain ⟨-, front, back, hsplit, -⟩ := hfirst
  simp [hsplit]

theorem IsFirstJson.eq {other : String × MediaType}
    (hfirst : body.IsFirstJson chosen) (hother : body.IsFirstJson other) :
    other = chosen := by
  rw [← find?_eq_some_iff_isFirstJson] at hfirst hother
  exact Option.some.inj (hother.symm.trans hfirst)

theorem isSome_jsonContent?_iff :
    body.jsonContent?.isSome = true ↔
      ∃ entry ∈ body.content.toList, IsJsonType entry.1 := by
  rw [← Option.not_isNone, Api.isNone_jsonContent?, Bool.not_not,
    List.any_eq_true]
  simp only [isJsonContentType_eq_true_iff]

/-! ## The preference -/

/-- There is content exactly if some content type is one of JSON, and then it is
that of such a type.  It is of the type `application/json` exactly if this very
key is there or the first content of JSON is of that type, and if no content is
of that type, it is the first one of JSON. -/
theorem json_content_prefers_plain_key (body : RequestBody) :
    (body.jsonContent?.isSome = true ↔
      ∃ entry ∈ body.content.toList, IsJsonType entry.1) ∧
      ∀ chosen, body.jsonContent? = some chosen →
        (chosen ∈ body.content.toList ∧ IsJsonType chosen.1) ∧
          (IsPlainJson chosen.1 ↔
            "application/json" ∈ body.content.keys ∨
              ∃ first, body.IsFirstJson first ∧ IsPlainJson first.1) ∧
          ((∀ entry ∈ body.content.toList, ¬ IsPlainJson entry.1) →
            body.IsFirstJson chosen) := by
  refine ⟨isSome_jsonContent?_iff, fun chosen hchosen => ?_⟩
  rcases jsonContent?_eq_some_iff.mp hchosen with
    ⟨hkey, hmem⟩ | ⟨hnokey, hfirst⟩
  · have hplain : IsPlainJson chosen.1 := hkey ▸ isPlainJson_plainKey
    have hthere : "application/json" ∈ body.content.keys :=
      hkey ▸ List.mem_map_of_mem (f := Prod.fst) hmem
    exact ⟨⟨hmem, hplain.isJsonType⟩, iff_of_true hplain (Or.inl hthere),
      fun hnone => absurd hplain (hnone chosen hmem)⟩
  · refine ⟨⟨hfirst.mem, hfirst.1⟩, ?_, fun _ => hfirst⟩
    constructor
    · exact fun hplain => Or.inr ⟨chosen, hfirst, hplain⟩
    · rintro (hthere | ⟨first, hother, hplain⟩)
      · exact absurd hthere hnokey
      · rwa [hfirst.eq hother] at hplain

/-- A body with empty content under each of the given types. -/
def offering (contentTypes : List String) : RequestBody :=
  ⟨OrderedMap.ofList (contentTypes.map fun contentType =>
    (contentType, ⟨none⟩))⟩

/-- The key `application/json` is chosen before another type of JSON that comes
first. -/
theorem json_content_prefers_plain_key_patch :
    let body := offering ["text/plain", "application/merge-patch+json",
      "application/json"]
    ∃ chosen, body.jsonContent? = some chosen ∧ IsPlainJson chosen.1 := by
  intro body
  obtain ⟨hsome, hchoice⟩ := json_content_prefers_plain_key body
  have hthere : "application/json" ∈ body.content.keys := by decide +kernel
  obtain ⟨entry, hentry, hkey⟩ := List.mem_map.mp hthere
  have hjson : IsJsonType entry.1 := hkey ▸ isPlainJson_plainKey.isJsonType
  obtain ⟨chosen, hchosen⟩ :=
    Option.isSome_iff_exists.mp (hsome.mpr ⟨entry, hentry, hjson⟩)
  exact ⟨chosen, hchosen, (hchoice chosen hchosen).2.1.mpr (Or.inl hthere)⟩

/-- With a parameter behind it, `application/json` is not preferred to a type of
JSON that comes first. -/
theorem parameter_loses_preference :
    let body := offering ["application/merge-patch+json",
      "application/json; charset=utf-8"]
    "application/json; charset=utf-8" ∈ body.content.keys ∧
      IsPlainJson "application/json; charset=utf-8" ∧
      body.jsonContent?.map Prod.fst = some "application/merge-patch+json" ∧
      ¬ IsPlainJson "application/merge-patch+json" := by
  decide +kernel

end RequestBody
end Document
end ApiClientGen
