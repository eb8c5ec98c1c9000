import ApiClientGen.Proofs.AsciiLetters
import ApiClientGen.Proofs.NameCharacters
import ApiClientGen.Proofs.SanitizedNames

/-!
# The characters that an identifier keeps

On its way to an identifier, the name of a parameter is reduced to runs of
letters and numbers, cut into words at changes of case and written with other
capitals.  Up to case, none of these steps loses, adds or moves a letter or a
number.  All that is added is an underscore in front of a leading digit, and a
name that has nothing to keep.
-/

namespace ApiClientGen
namespace Naming

open Text (isAlphanumeric isAsciiDigit pieces)

/-! ## Cutting a name into words -/

theorem flatten_nameWords (name : List Char) :
    (nameWords name).flatten = name.filter isAlphanumeric := by
  have hpieces := Text.flatten_pieces (!isAlphanumeric ·) name
  simp only [Bool.not_not] at hpieces
  calc
    (nameWords name).flatten =
      ((pieces (!isAlphanumeric ·) name).filter (!·.isEmpty)).flatten := by
      rw [nameWords, ← List.flatMap_id, List.flatMap_assoc]
      simp [flatten_caseWords]
    _ = (pieces (!isAlphanumeric ·) name).flatten :=
      List.flatten_filter_not_isEmpty
    _ = name.filter isAlphanumeric := hpieces

/-- A word is ended in front of a character only if it has a capital already, so
no word is empty. -/
theorem ne_nil_of_mem_caseWords {word : List Char} {current : WordCase}
    {cs : List Char} (hcs : cs ≠ []) (hword : current = .upper → word ≠ []) :
    ∀ cut ∈ caseWords word current cs, cut ≠ [] := by
  induction word, current, cs using caseWords.induct with
  | case1 word current => exact absurd rfl hcs
  | case2 word current c => simp [caseWords]
  | case3 word current c next rest hafter ih =>
      rw [caseWords, if_pos hafter, List.forall_mem_cons]
      exact ⟨by simp, ih (by simp) (by simp)⟩
  | case4 word current c next rest hafter hbefore ih =>
      have hupper : current = .upper := by
        simp only [Bool.and_eq_true, decide_eq_true_eq] at hbefore
        exact hbefore.1.1
      rw [caseWords, if_neg hafter, if_pos hbefore, List.forall_mem_cons]
      exact ⟨by simpa using hword hupper, ih (by simp) (by simp)⟩
  | case5 word current c next rest hafter hbefore ih =>
      rw [caseWords, if_neg hafter, if_neg hbefore]
      exact ih (by simp) (by simp)

theorem ne_nil_of_mem_nameWords {name word : List Char}
    (hword : word ∈ nameWords name) : word ≠ [] := by
  obtain ⟨piece, hpiece, hword⟩ := List.mem_flatMap.mp hword
  have hne : piece ≠ [] := by simpa using (List.mem_filter.mp hpiece).2
  exact ne_nil_of_mem_caseWords hne (by simp) word hword

/-- The words of a name hold its letters and numbers, in order and without
anything else. -/
theorem flatten_nameWords_sanitize (name : List Char) :
    (nameWords (sanitize name)).flatten = name.filter isAlphanumeric := by
  rw [nameWords_sanitize, flatten_nameWords]

/-! ## Writing the words together -/

section Ascii

variable {word : List Char} (hword : ∀ c ∈ word, c.toNat < 128)

include hword

theorem lowerWord_of_lt : lowerWord word = word.map Char.toLower := by
  induction word using lowerWord.induct with
  | case1 => rfl
  | case2 => exact absurd (hword 'Σ' List.mem_cons_self) (by decide)
  | case3 c hc =>
      rw [lowerWord, if_neg hc,
        Text.lowerChar_of_lt (hword c List.mem_cons_self)]; rfl
  | case4 c next rest ih =>
      rw [lowerWord, Text.lowerChar_of_lt (hword c List.mem_cons_self),
        ih fun d hd => hword d (List.mem_cons_of_mem c hd)]
      rfl

theorem map_toLower_map_toLower :
    (word.map Char.toLower).map Char.toLower = word.map Char.toLower := by
  rw [List.map_map]
  exact List.map_congr_left fun c hc => Text.toLower_toLower_of_lt (hword c hc)

theorem map_toLower_capitalWord :
    (capitalWord word).map Char.toLower = word.map Char.toLower := by
  cases word with
  | nil => rfl
  | cons c rest =>
      rw [List.forall_mem_cons] at hword
      rw [capitalWord, Text.upperChar_of_lt hword.1, lowerWord_of_lt hword.2]
      rw [List.singleton_append, List.map_cons, map_toLower_map_toLower hword.2,
        Text.toLower_toUpper_of_lt hword.1, List.map_cons]

end Ascii

/-- Up to case, words that are written together are their characters. -/
theorem map_toLower_camelCase {words : List (List Char)}
    (hwords : ∀ c ∈ words.flatten, c.toNat < 128) :
    (camelCase words).map Char.toLower = words.flatten.map Char.toLower := by
  have hword : ∀ word ∈ words, ∀ c ∈ word, c.toNat < 128 :=
    fun word hmem c hc => hwords c (List.mem_flatten_of_mem hmem hc)
  cases words with
  | nil => rfl
  | cons first others =>
      rw [List.forall_mem_cons] at hword
      have hothers : (others.flatMap capitalWord).map Char.toLower =
          others.flatten.map Char.toLower := by
        rw [List.map_flatMap, List.map_flatten, ← List.flatMap_def]
        exact List.flatMap_congr fun word hmem =>
          map_toLower_capitalWord (hword.2 word hmem)
      rw [camelCase, List.map_append, lowerWord_of_lt hword.1,
        map_toLower_map_toLower hword.1, hothers, List.flatten_cons,
        List.map_append]

/-- The first character is written in lower case. -/
theorem exists_camelCase_eq_cons {words : List (List Char)}
    (hwords : ∀ c ∈ words.flatten, c.toNat < 128)
    (hne : ∀ word ∈ words, word ≠ []) {c : Char} {rest : List Char}
    (hflatten : words.flatten = c :: rest) :
    ∃ more, camelCase words = c.toLower :: more := by
  cases words with
  | nil => cases hflatten
  | cons first others =>
      obtain ⟨d, word, rfl⟩ :=
        List.exists_cons_of_ne_nil (hne first List.mem_cons_self)
      obtain ⟨rfl, -⟩ : d = c ∧ word ++ others.flatten = rest := by
        simpa using hflatten
      have hfirst : ∀ e ∈ d :: word, e.toNat < 128 :=
        fun e he => hwords e (List.mem_flatten_of_mem List.mem_cons_self he)
      exact ⟨_, by rw [camelCase, lowerWord_of_lt hfirst]; rfl⟩

/-! ## Identifiers -/

/-- Whatever script they are of, only letters and numbers keep a name from being
`unnamed`. -/
theorem parameterIdentifier_eq_unnamed {name : String}
    (hname : ∀ c ∈ name.toList, isAlphanumeric c = false) :
    parameterIdentifier name = "unnamed" := by
  have hflatten := flatten_nameWords_sanitize name.toList
  rw [List.filter_eq_nil_iff.mpr (by simpa using hname),
    List.flatten_eq_nil_iff] at hflatten
  have hwords : nameWords (sanitize name.toList) = [] := by
    rw [List.eq_nil_iff_forall_not_mem]
    exact fun word hword => ne_nil_of_mem_nameWords hword (hflatten word hword)
  simp [parameterIdentifier, hwords, camelCase]

theorem isAlphanum_of_map_toLower_eq {cs ds : List Char}
    (heq : cs.map Char.toLower = ds.map Char.toLower)
    (hds : ∀ d ∈ ds, d.isAlphanum = true) : ∀ c ∈ cs, c.isAlphanum = true := by
  intro c hc
  have hmem : c.toLower ∈ ds.map Char.toLower := heq ▸ List.mem_map_of_mem hc
  obtain ⟨d, hd, hlower⟩ := List.mem_map.mp hmem
  rw [← Text.isAlphanum_toLower, ← hlower, Text.isAlphanum_toLower]
  exact hds d hd

/-- Up to case, what is written for an ASCII name are its letters and digits,
and the first of them is in lower case. -/
theorem exists_camelCase_of_lt {name : List Char}
    (hascii : ∀ c ∈ name, c.toNat < 128)
    (hsome : ∃ c ∈ name, c.isAlphanum = true) :
    ∃ first rest, camelCase (nameWords (sanitize name)) = first :: rest ∧
      (first.isLower = true ∨ first.isDigit = true) ∧
      (first :: rest).map Char.toLower =
        (name.filter Char.isAlphanum).map Char.toLower := by
  have hflatten :
      (nameWords (sanitize name)).flatten = name.filter Char.isAlphanum := by
    rw [flatten_nameWords_sanitize]
    exact List.filter_congr fun c hc => Text.isAlphanumeric_of_lt (hascii c hc)
  have hwords : ∀ c ∈ (nameWords (sanitize name)).flatten, c.toNat < 128 := by
    rw [hflatten]
    exact fun c hc => hascii c (List.mem_of_mem_filter hc)
  obtain ⟨c, others, hkept⟩ :
      ∃ c others, name.filter Char.isAlphanum = c :: others := by
    obtain ⟨c, hc, halphanum⟩ := hsome
    exact List.exists_cons_of_ne_nil
      (List.ne_nil_of_mem (List.mem_filter.mpr ⟨hc, halphanum⟩))
  obtain ⟨rest, hcamel⟩ :=
    exists_camelCase_eq_cons hwords (fun _ => ne_nil_of_mem_nameWords)
      (hflatten.trans hkept)
  have hmem : c ∈ name.filter Char.isAlphanum := hkept ▸ List.mem_cons_self
  obtain ⟨hc, hfirst⟩ := List.mem_filter.mp hmem
  refine ⟨c.toLower, rest, hcamel, ?_, ?_⟩
  · exact Text.isLower_or_isDigit_toLower (hascii c hc) hfirst
  · rw [← hcamel, map_toLower_camelCase hwords, hflatten]

/-- An ASCII name with a letter or a digit becomes an identifier that begins
with a small letter, or with an underscore in front of a digit, and that
otherwise consists of the letters and digits of the name, in their order and up
to case.  A name without letters and digits becomes `unnamed`. -/
theorem parameterIdentifier_keeps_characters (name : String) :
    ((∀ c ∈ name.toList, c.toNat < 128) →
      ((∃ c ∈ name.toList, c.isAlphanum = true) →
        ∃ first rest,
          (first.isLower = true ∧
            (parameterIdentifier name).toList = first :: rest ∨
            first.isDigit = true ∧
              (parameterIdentifier name).toList = '_' :: first :: rest) ∧
            (∀ c ∈ first :: rest, c.isAlphanum = true) ∧
            (first :: rest).map Char.toLower =
              (name.toList.filter Char.isAlphanum).map Char.toLower) ∧
        ((∀ c ∈ name.toList, c.isAlphanum = false) →
          parameterIdentifier name = "unnamed")) ∧
      ((∀ c ∈ name.toList, isAlphanumeric c = false) →
        parameterIdentifier name = "unnamed") := by
  refine ⟨fun hascii => ⟨fun hsome => ?_, fun hnone => ?_⟩,
    parameterIdentifier_eq_unnamed⟩
  · obtain ⟨first, rest, hcamel, hfirst, hlower⟩ :=
      exists_camelCase_of_lt hascii hsome
    have hall : ∀ c ∈ first :: rest, c.isAlphanum = true :=
      isAlphanum_of_map_toLower_eq hlower fun c hc => (List.mem_filter.mp hc).2
    have hdigit : isAsciiDigit first = first.isDigit := rfl
    refine ⟨first, rest, ?_, hall, hlower⟩
    rw [parameterIdentifier, hcamel]
    cases hcase : first.isDigit with
    | true => exact Or.inr ⟨rfl, by simp [hdigit, hcase]⟩
    | false =>
        exact Or.inl ⟨by simpa [hcase] using hfirst, by simp [hdigit, hcase]⟩
  · apply parameterIdentifier_eq_unnamed
    intro c hc
    rw [Text.isAlphanumeric_of_lt (hascii c hc), hnone c hc]

/-- The name `$2FA-tokenID` begins with a digit and has boundaries of both
kinds, and `$-$` has nothing to keep. -/
theorem parameterIdentifier_keeps_characters_token :
    (∃ first rest,
      (first.isLower = true ∧
        (parameterIdentifier "$2FA-tokenID").toList = first :: rest ∨
        first.isDigit = true ∧
          (parameterIdentifier "$2FA-tokenID").toList = '_' :: first :: rest) ∧
        (∀ c ∈ first :: rest, c.isAlphanum = true) ∧
        (first :: rest).map Char.toLower = "2fatokenid".toList) ∧
      parameterIdentifier "$-$" = "unnamed" := by
  have hascii : ("$2FA-tokenID".toList.all fun c => c.toNat.blt 128) =
      true := by decide
  have hnothing : ("$-$".toList.all fun c => !isAlphanumeric c) = true := by
    decide
  constructor
  · apply ((parameterIdentifier_keeps_characters "$2FA-tokenID").1 ?_).1
    · exact ⟨'F', by decide⟩
    · exact fun c hc => Nat.blt_eq.mp (List.all_eq_true.mp hascii c hc)
  · apply (parameterIdentifier_keeps_characters "$-$").2
    simpa using hnothing

-- Digits do not end a word, and a capital that begins one is found again in
-- lower case.
example :
    parameterIdentifier "$2FA-tokenID" = "_2faTokenId" := by decide +kernel

end Naming
end ApiClientGen
