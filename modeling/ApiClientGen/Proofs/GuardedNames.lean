import ApiClientGen.Naming.ClientName
import ApiClientGen.Proofs.GeneratedNames
import ApiClientGen.Proofs.OperationNames
import ApiClientGen.Proofs.ParameterCharacters

/-!
# Names behind the guard against digits

The names of the client and of parameters keep every letter and number, and both
are guarded against a leading digit: an underscore is put in front of `0` to
`9`.  A name may not begin with any other number either, and those pass the
guard.  For parameters there is a second way to miss an identifier: their words
are written in lower case and with capitals, and the image of some letters holds
a combining mark.
-/

namespace ApiClientGen
namespace Naming

open Text (isAlphanumeric isAsciiDigit lowerChar)

/-! ## The guard -/

/-- A text with an underscore in front of a leading digit `0` to `9`. -/
def guarded : List Char → List Char
  | [] => []
  | first :: rest =>
    if isAsciiDigit first then '_' :: first :: rest else first :: rest

/-- Whether a text that begins with `c` begins like a name behind the guard. -/
def isGuardedStart (c : Char) : Bool :=
  isIdentifierStart c || isAsciiDigit c

/-- Behind the guard a text begins like a name exactly if its first character
passes. -/
theorem isIdentifierStart_guarded (first : Char) (rest behind : List Char) :
    (∃ c ∈ (guarded (first :: rest) ++ behind).head?,
      isIdentifierStart c = true) ↔
      isGuardedStart first = true := by
  have hmark : isIdentifierStart '_' = true := by decide +kernel
  by_cases hdigit : isAsciiDigit first = true
  · simp [guarded, hdigit, isGuardedStart, hmark]
  · simp [guarded, hdigit, isGuardedStart]

theorem all_guarded (cs : List Char) :
    (guarded cs).all isIdentifierChar = cs.all isIdentifierChar := by
  have hmark : isIdentifierChar '_' = true := by decide +kernel
  cases cs with
  | nil => rfl
  | cons first rest =>
      rw [guarded]
      split <;> simp [hmark]

/-! ## The name of the client -/

theorem titlePart_eq (title : List Char) :
    titlePart title = guarded (title.filter isIdentifierChar) := by
  unfold titlePart
  cases title.filter isIdentifierChar <;> rfl

/-- The first character that is kept of the title decides whether the client
gets an identifier. -/
theorem isIdentifier_clientClassName_iff (title version : String) :
    isIdentifier (clientClassName title version) = true ↔
      ∀ c ∈ title.toList.find? isIdentifierChar, isGuardedStart c = true := by
  have hall :
      (clientClassName title version).toList.all isIdentifierChar = true :=
    List.all_eq_true.mpr fun c => isIdentifierChar_of_mem_clientClassName
  rw [isIdentifier_iff, and_iff_left hall, clientClassName,
    String.toList_append, String.toList_ofList, titlePart_eq, List.append_assoc,
    ← List.head?_filter]
  cases title.toList.filter isIdentifierChar with
  | nil =>
      have hletter : isIdentifierStart 'V' = true := by decide +kernel
      simp [guarded, hletter]
  | cons first rest =>
      rw [isIdentifierStart_guarded]
      simp

/-! ## The identifier of a parameter -/

/-- Words that stay within names when they are written together: the lower-case
form of no letter of the first one is spoiled, and case mapping spoils none of
the others. -/
inductive SparedTogether : List (List Char) → Prop where
  | nil : SparedTogether []
  | cons {first : List Char} {others : List (List Char)}
      (hfirst : ∀ c ∈ first, c.toNat ∉ spoiledSmalls)
      (hothers : ∀ word ∈ others, Spared word) :
      SparedTogether (first :: others)

theorem all_lowerWord {word : List Char}
    (hword : ∀ c ∈ word, isIdentifierChar c = true) :
    (lowerWord word).all isIdentifierChar = true ↔
      ∀ c ∈ word, c.toNat ∉ spoiledSmalls := by
  induction word using lowerWord.induct with
  | case1 => simp [lowerWord]
  | case2 =>
      have hsigma : isIdentifierChar 'ς' = true := by decide +kernel
      simp [lowerWord, hsigma, spoiledSmalls]
  | case3 c hc =>
      rw [List.forall_mem_singleton] at hword
      rw [lowerWord, if_neg hc, all_lowerChar hword, List.forall_mem_singleton]
  | case4 c next rest ih =>
      rw [List.forall_mem_cons] at hword ⊢
      rw [lowerWord, List.all_append, Bool.and_eq_true, all_lowerChar hword.1,
        ih hword.2]

theorem all_capitalWord {word : List Char}
    (hword : ∀ c ∈ word, isIdentifierChar c = true) :
    (capitalWord word).all isIdentifierChar = true ↔ Spared word := by
  cases word with
  | nil => exact iff_of_true rfl ⟨by simp, by simp⟩
  | cons c rest =>
      rw [List.forall_mem_cons] at hword
      rw [capitalWord, List.all_append, Bool.and_eq_true, all_upperChar hword.1,
        all_lowerWord hword.2]
      exact ⟨fun h => ⟨by simpa using h.1, h.2⟩,
        fun hspared => ⟨hspared.capital c rfl, hspared.smalls⟩⟩

theorem all_camelCase {words : List (List Char)}
    (hwords : ∀ word ∈ words, ∀ c ∈ word, isIdentifierChar c = true) :
    (camelCase words).all isIdentifierChar = true ↔ SparedTogether words := by
  cases words with
  | nil => exact iff_of_true rfl .nil
  | cons first others =>
      rw [List.forall_mem_cons] at hwords
      have hothers : (others.flatMap capitalWord).all isIdentifierChar = true ↔
          ∀ word ∈ others, Spared word := by
        rw [List.all_flatMap, List.all_eq_true]
        exact forall₂_congr fun word hword =>
          all_capitalWord (hwords.2 word hword)
      rw [camelCase, List.all_append, Bool.and_eq_true,
        all_lowerWord hwords.1, hothers]
      constructor
      · rintro ⟨hfirst, hrest⟩
        exact .cons hfirst hrest
      · rintro (_ | ⟨hfirst, hrest⟩)
        exact ⟨hfirst, hrest⟩

theorem exists_lowerChar_eq_cons (c : Char) :
    ∃ first more, lowerChar c = first :: more ∧
      isGuardedStart first = isGuardedStart c := by
  rcases lowerChar_cases c with hsame | ⟨hstart, first, more, himage, hfirst⟩
  · exact ⟨c, [], hsame, rfl⟩
  · exact ⟨first, more, himage, by simp [isGuardedStart, hfirst, hstart]⟩

/-- In lower case the first character of a word passes the guard exactly if it
does as it stands. -/
theorem exists_lowerWord_eq_cons (c : Char) (rest : List Char) :
    ∃ first more, lowerWord (c :: rest) = first :: more ∧
      isGuardedStart first = isGuardedStart c := by
  obtain ⟨first, more, himage, hfirst⟩ := exists_lowerChar_eq_cons c
  cases rest with
  | nil =>
      by_cases hsigma : c = 'Σ'
      · subst hsigma
        exact ⟨'ς', [], rfl, by decide +kernel⟩
      · exact ⟨first, more, by rw [lowerWord, if_neg hsigma, himage], hfirst⟩
  | cons next rest =>
      exact ⟨first, more ++ lowerWord (next :: rest),
        by rw [lowerWord, himage, List.cons_append], hfirst⟩

theorem parameterIdentifier_of_camelCase {name : String} {first : Char}
    {rest : List Char}
    (hcamel : camelCase (nameWords (sanitize name.toList)) = first :: rest) :
    parameterIdentifier name = String.ofList (guarded (first :: rest)) := by
  rw [parameterIdentifier, hcamel]
  rfl

/-- The first letter or number of a name and its words decide whether a
parameter gets an identifier. -/
theorem isIdentifier_parameterIdentifier_iff (name : String) :
    isIdentifier (parameterIdentifier name) = true ↔
      (∀ c ∈ name.toList.find? isAlphanumeric, isGuardedStart c = true) ∧
        SparedTogether (nameWords (sanitize name.toList)) := by
  have hflatten := flatten_nameWords_sanitize name.toList
  have hwords : ∀ word ∈ nameWords (sanitize name.toList),
      ∀ c ∈ word, isIdentifierChar c = true := by
    intro word hword c hc
    simp [isIdentifierChar, isAlphanumeric_of_mem_nameWords hword hc]
  have hne : ∀ word ∈ nameWords (sanitize name.toList), word ≠ [] :=
    fun _ => ne_nil_of_mem_nameWords
  rw [← List.head?_filter, ← hflatten, ← all_camelCase hwords]
  cases hall : nameWords (sanitize name.toList) with
  | nil =>
      have hunnamed : isIdentifier "unnamed" = true := by decide +kernel
      simp [parameterIdentifier, hall, camelCase, hunnamed]
  | cons word others =>
      obtain ⟨c, rest, rfl⟩ :=
        List.exists_cons_of_ne_nil (hne word (hall ▸ List.mem_cons_self))
      obtain ⟨first, more, hlower, hfirst⟩ := exists_lowerWord_eq_cons c rest
      have hcamel : camelCase ((c :: rest) :: others) =
          first :: (more ++ others.flatMap capitalWord) := by
        rw [camelCase, hlower, List.cons_append]
      have hguarded :=
        isIdentifierStart_guarded first (more ++ others.flatMap capitalWord) []
      rw [List.append_nil, hfirst] at hguarded
      rw [parameterIdentifier_of_camelCase (hall ▸ hcamel), isIdentifier_iff,
        String.toList_ofList, hguarded, all_guarded, hcamel]
      simp

/-! ## Where the guard is not enough -/

/-- The client gets an identifier exactly if the first character that is kept of
the title is no number other than `0` to `9`, and a parameter exactly if the
same holds of its name and case mapping spoils none of its words. -/
theorem names_are_identifiers_iff_guarded (title version name : String) :
    (isIdentifier (clientClassName title version) = true ↔
      ∀ c ∈ title.toList.find? isIdentifierChar, isGuardedStart c = true) ∧
    (isIdentifier (parameterIdentifier name) = true ↔
      (∀ c ∈ name.toList.find? isAlphanumeric, isGuardedStart c = true) ∧
        SparedTogether (nameWords (sanitize name.toList))) :=
  ⟨isIdentifier_clientClassName_iff title version,
    isIdentifier_parameterIdentifier_iff name⟩

/-- A digit of another script passes the guard, and `İ` is written as an `i`
with a combining dot behind it. -/
theorem foreign_digit_passes_guard :
    clientClassName "٣D Shop" "v1" = "٣DShopV1HttpClient" ∧
      isIdentifier (clientClassName "٣D Shop" "v1") = false ∧
      isIdentifier (parameterIdentifier "٢fa") = false ∧
      isIdentifier (parameterIdentifier "İd") = false := by
  decide +kernel

-- As soon as the letter begins a word behind the first one, it keeps its form.
example : parameterIdentifier "id-İd" = "idİd" ∧
    isIdentifier (parameterIdentifier "id-İd") = true := by
  decide +kernel

end Naming
end ApiClientGen
