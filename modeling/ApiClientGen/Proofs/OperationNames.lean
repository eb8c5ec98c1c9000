import ApiClientGen.Proofs.AsciiLetters
import ApiClientGen.Proofs.CaseImages
import ApiClientGen.Proofs.DeclaredOperations
import ApiClientGen.Proofs.PathWalk

/-!
# Which paths give a method its name

The name of an operation is made from the words of its path and from its verb.
It is followed through both: the words are described apart from the pass that
writes them, and the characters of the name are traced back to characters of the
path.  So it is read off a path whether the name that is made from it is an
identifier: nothing that cannot stand in a name is taken over, but a number may
come first, and some letters have a capital with a mark that no name may hold.
-/

namespace ApiClientGen

namespace Text

/-! ## Lower case of verbs -/

theorem lowerAfter_eq_asciiLower (before : List Char) {cs : List Char}
    (hcs : ∀ c ∈ cs, c.toNat < 128) :
    lowerAfter before cs = asciiLower cs := by
  induction cs generalizing before with
  | nil => rfl
  | cons c rest ih =>
      have hc := hcs c List.mem_cons_self
      have hsigma : c ≠ 'Σ' := by
        rintro rfl
        exact absurd hc (by decide)
      rw [lowerAfter, if_neg hsigma, lowerChar_of_lt hc,
        ih _ fun d hd => hcs d (List.mem_cons_of_mem c hd)]
      rfl

theorem toNat_lt_of_toLower_lt {c : Char} (hc : c.toLower.toNat < 128) :
    c.toNat < 128 := by
  unfold Char.toLower at hc
  split at hc
  · rename_i hupper
    have hlast : c.toNat ≤ 'Z'.toNat := hupper.2
    exact lt_of_le_of_lt hlast (by decide)
  · exact hc

end Text

namespace Naming

open Text (lowerChar pieces upperChar)

/-! ## Words of a path -/

/-- What is kept of the words of a path. -/
def keptWords (path : List Char) : List (List Char) :=
  (pieces isWordBreak path).map (·.filter isIdentifierChar)

/-- A word with a capital first character and the others in lower case. -/
def capitalized : List Char → List Char
  | [] => []
  | first :: rest => upperChar first ++ rest.flatMap lowerChar

/-- Words written together, of which the first one may have been begun
already. -/
def writtenWords (atStart : Bool) : List (List Char) → List Char
  | [] => []
  | word :: others =>
    (if atStart then capitalized word else word.flatMap lowerChar) ++
      others.flatMap capitalized

/-- Whether a word has its first character yet is all that a pass over the path
has to remember. -/
theorem pathWords_eq_writtenWords (atStart : Bool) (path : List Char) :
    pathWords atStart path = writtenWords atStart (keptWords path) := by
  induction path generalizing atStart with
  | nil => cases atStart <;> rfl
  | cons c rest ih =>
      obtain ⟨word, others, hrest⟩ :=
        List.exists_cons_of_ne_nil (Text.pieces_ne_nil isWordBreak rest)
      by_cases hbreak : isWordBreak c = true
      · have hpieces :
            pieces isWordBreak (c :: rest) = [] :: pieces isWordBreak rest := by
          simp [pieces, hbreak]
        rw [pathWords, if_pos hbreak, ih, keptWords, keptWords, hpieces, hrest]
        cases atStart <;> simp [writtenWords, capitalized]
      · have hpieces :=
          Text.pieces_cons_of_not_cut (Bool.eq_false_iff.mpr hbreak) hrest
        rw [pathWords, if_neg hbreak, keptWords, hpieces]
        by_cases hkept : isIdentifierChar c = true
        · rw [if_pos hkept, ih, keptWords, hrest]
          cases atStart <;> simp [writtenWords, capitalized, hkept]
        · rw [if_neg hkept, ih, keptWords, hrest]
          simp [hkept]

theorem pathWords_eq (path : List Char) :
    pathWords true path = (keptWords path).flatMap capitalized := by
  rw [pathWords_eq_writtenWords]
  cases keptWords path <;> rfl

/-! ## Characters of a name -/

/-- Behind a name, characters of a name do not change whether it is an
identifier. -/
theorem isIdentifier_append {name suffix : String} (hname : name ≠ "")
    (hsuffix : suffix.toList.all isIdentifierChar = true) :
    isIdentifier (name ++ suffix) = isIdentifier name := by
  unfold isIdentifier
  rw [String.toList_append]
  cases hchars : name.toList with
  | nil => exact absurd (String.toList_eq_nil_iff.mp hchars) hname
  | cons first rest => simp [hsuffix]

theorem isIdentifier_iff {name : String} :
    isIdentifier name = true ↔
      (∃ first ∈ name.toList.head?, isIdentifierStart first = true) ∧
        name.toList.all isIdentifierChar = true := by
  unfold isIdentifier
  cases name.toList with
  | nil => simp
  | cons first rest =>
      have hstart : isIdentifierStart first = true →
          isIdentifierChar first = true :=
        isIdentifierChar_of_isIdentifierStart
      simpa [isIdentifierStart] using fun hfirst _ => hstart hfirst

/-- A word whose letters keep within names: it does not begin with a letter that
has a spoiled capital, and behind its first character there is none with a
spoiled lower-case form. -/
structure Spared (word : List Char) : Prop where
  capital : ∀ c ∈ word.head?, c.toNat ∉ spoiledCapitals
  smalls : ∀ c ∈ word.tail, c.toNat ∉ spoiledSmalls

instance (word : List Char) : Decidable (Spared word) :=
  decidable_of_iff
    ((word.head?.all fun c => !spoiledCapitals.contains c.toNat) = true ∧
      (word.tail.all fun c => !spoiledSmalls.contains c.toNat) = true) <| by
    simp only [Option.all_eq_true, List.all_eq_true, Bool.not_eq_true',
      List.contains_eq_mem, decide_eq_false_iff_not]
    exact ⟨fun hchars => ⟨hchars.1, hchars.2⟩,
      fun hspared => ⟨hspared.capital, hspared.smalls⟩⟩

theorem all_capitalized {word : List Char}
    (hword : ∀ c ∈ word, isIdentifierChar c = true) :
    (capitalized word).all isIdentifierChar = true ↔ Spared word := by
  cases word with
  | nil =>
      have hspared : Spared [] := ⟨by simp, by simp⟩
      simp [capitalized, hspared]
  | cons first rest =>
      have hlower : (rest.flatMap lowerChar).all isIdentifierChar = true ↔
          ∀ c ∈ rest, c.toNat ∉ spoiledSmalls := by
        rw [List.all_flatMap, List.all_eq_true]
        apply forall₂_congr
        intro c hc
        exact all_lowerChar (hword c (List.mem_cons_of_mem first hc))
      rw [capitalized, List.all_append, Bool.and_eq_true, hlower,
        all_upperChar (hword first List.mem_cons_self)]
      constructor
      · rintro ⟨hfirst, hrest⟩
        exact ⟨by simpa using hfirst, hrest⟩
      · intro hspared
        exact ⟨hspared.capital first rfl, hspared.smalls⟩

theorem isIdentifierChar_of_mem_keptWords {path word : List Char}
    (hword : word ∈ keptWords path) {c : Char} (hc : c ∈ word) :
    isIdentifierChar c = true := by
  obtain ⟨piece, -, rfl⟩ := List.mem_map.mp hword
  exact (List.mem_filter.mp hc).2

theorem isIdentifierChar_of_isWordBreak {c : Char} (hc : isWordBreak c = true) :
    isIdentifierChar c = false := by
  rw [isWordBreak, Bool.or_eq_true, beq_iff_eq, beq_iff_eq] at hc
  rcases hc with rfl | rfl <;> decide +kernel

/-- The words of a path begin with the capital of the first character that is
kept. -/
theorem pathWords_cases (path : List Char) :
    (path.find? isIdentifierChar = none ∧ pathWords true path = []) ∨
      ∃ c rest, path.find? isIdentifierChar = some c ∧
        pathWords true path = upperChar c ++ rest := by
  induction path with
  | nil => exact Or.inl ⟨rfl, rfl⟩
  | cons c rest ih =>
      by_cases hbreak : isWordBreak c = true
      · have hdropped : isIdentifierChar c = false :=
          isIdentifierChar_of_isWordBreak hbreak
        rwa [pathWords, if_pos hbreak,
          List.find?_cons_of_neg (by simp [hdropped])]
      · rw [pathWords, if_neg hbreak]
        by_cases hkept : isIdentifierChar c = true
        · right
          rw [if_pos hkept, List.find?_cons_of_pos hkept]
          exact ⟨c, pathWords false rest, rfl, rfl⟩
        · rwa [if_neg hkept, List.find?_cons_of_neg hkept]

/-! ## Paths that make identifiers -/

/-- The paths from which an identifier is made: the first character that is kept
may begin a name, and case mapping spoils none of the words. -/
structure MakesIdentifier (path : List Char) : Prop where
  start : ∀ c ∈ path.find? isIdentifierChar, isIdentifierStart c = true
  words : ∀ word ∈ keptWords path, Spared word

instance (path : List Char) : Decidable (MakesIdentifier path) :=
  decidable_of_iff
    ((path.find? isIdentifierChar).all isIdentifierStart = true ∧
      (keptWords path).all (fun word => decide (Spared word)) = true) <| by
    simp only [Option.all_eq_true, List.all_eq_true, decide_eq_true_eq]
    exact ⟨fun hpath => ⟨hpath.1, hpath.2⟩,
      fun hmakes => ⟨hmakes.start, hmakes.words⟩⟩

theorem all_pathWords (path : List Char) :
    (pathWords true path).all isIdentifierChar = true ↔
      ∀ word ∈ keptWords path, Spared word := by
  rw [pathWords_eq, List.all_flatMap, List.all_eq_true]
  apply forall₂_congr
  intro word hword
  exact all_capitalized fun c hc => isIdentifierChar_of_mem_keptWords hword hc

/-- Before a word that is an identifier, the words of a path make one exactly if
the path says so. -/
theorem isIdentifier_pathWords_append {path title : List Char}
    (htitle : isIdentifier (String.ofList title) = true) :
    isIdentifier (String.ofList (pathWords true path ++ title)) = true ↔
      MakesIdentifier path := by
  have hall : title.all isIdentifierChar = true := by
    simpa using (isIdentifier_iff.mp htitle).2
  rcases pathWords_cases path with ⟨hnone, hwords⟩ | ⟨c, rest, hfind, hwords⟩
  · have hmakes : MakesIdentifier path :=
      ⟨by simp [hnone], (all_pathWords path).mp (by simp [hwords])⟩
    simp [hwords, htitle, hmakes]
  · obtain ⟨first, more, hupper, hstart⟩ := exists_upperChar_eq_cons c
    have hchars : pathWords true path = first :: (more ++ rest) := by
      rw [hwords, hupper, List.cons_append]
    have hne : String.ofList (pathWords true path) ≠ "" := by
      simp [hchars]
    rw [String.ofList_append, isIdentifier_append hne (by simpa using hall),
      isIdentifier_iff, String.toList_ofList, all_pathWords]
    constructor
    · rintro ⟨hbegins, hspared⟩
      exact ⟨by simpa [hfind, hchars, hstart] using hbegins, hspared⟩
    · rintro ⟨hbegins, hspared⟩
      exact ⟨by simpa [hfind, hchars, hstart] using hbegins, hspared⟩

end Naming

namespace Api

open Document (ApiDocument)
open Naming (MakesIdentifier isIdentifier titleWord operationName)

/-! ## Names of operations -/

theorem titleWord_of_named? {key : String} {method : HttpMethod}
    (hmethod : HttpMethod.named? key = some method) :
    titleWord key.toList = method.title.toList := by
  have hlower :
      Text.asciiLower method.verb.toList = Text.asciiLower key.toList := by
    simpa using List.find?_some hmethod
  have hverb : (Text.asciiLower method.verb.toList).all
      (fun d => d.toNat.blt 128) = true := by
    cases method <;> decide +kernel
  have hascii : ∀ c ∈ key.toList, c.toNat < 128 := by
    intro c hc
    have hmem : c.toLower ∈ Text.asciiLower method.verb.toList := by
      rw [hlower]
      exact List.mem_map_of_mem hc
    exact Text.toNat_lt_of_toLower_lt
      (Nat.blt_eq.mp (List.all_eq_true.mp hverb _ hmem))
  rw [titleWord, Text.lower, Text.lowerAfter_eq_asciiLower [] hascii, ← hlower]
  cases method <;> decide +kernel

theorem isIdentifier_title (method : HttpMethod) :
    isIdentifier method.title = true := by
  cases method <;> decide +kernel

theorem isIdentifier_operationName {key : String} {method : HttpMethod}
    (hmethod : HttpMethod.named? key = some method) (path : String) :
    isIdentifier (operationName path key) = true ↔
      MakesIdentifier path.toList := by
  rw [operationName, titleWord_of_named? hmethod]
  apply Naming.isIdentifier_pathWords_append
  rw [String.ofList_toList]
  exact isIdentifier_title method

-- The capital of this letter is a `J` with a combining caron.
example : isIdentifier (operationName "/ǰ" "get") = false := by decide +kernel

theorem operationName_ne_empty {key : String} {method : HttpMethod}
    (hmethod : HttpMethod.named? key = some method) (path : String) :
    operationName path key ≠ "" := by
  rw [operationName, titleWord_of_named? hmethod]
  cases method <;> simp [HttpMethod.title]

/-- A number behind a name does not change whether it is an identifier. -/
theorem isIdentifier_numbered {base : String} (hbase : base ≠ "") (n : ℕ) :
    isIdentifier (numbered base n) = isIdentifier base := by
  apply Naming.isIdentifier_append hbase
  rw [List.all_eq_true]
  intro c hc
  simp [Naming.isIdentifierChar, Text.isAlphanumeric_of_mem_toString hc]

theorem isIdentifier_freshName {base : String} (hbase : base ≠ "")
    (taken : List String) :
    isIdentifier (freshName taken base) = isIdentifier base := by
  rcases (leastName_freshName taken base).eq_or_numbered with hsame | ⟨n, hn⟩
  · rw [hsame]
  · rw [hn, isIdentifier_numbered hbase]

theorem freshName_ne_empty {base : String} (hbase : base ≠ "")
    (taken : List String) :
    freshName taken base ≠ "" := by
  rcases (leastName_freshName taken base).eq_or_numbered with hsame | ⟨n, hn⟩
  · rwa [hsame]
  · rw [hn, numbered]
    simp [hbase]

theorem Declaration.named?_key {document : ApiDocument}
    {declaration : Declaration} (hmem : declaration ∈ declarations document) :
    HttpMethod.named? declaration.key = some declaration.method := by
  obtain ⟨⟨path, item⟩, -, hentry⟩ := List.mem_flatMap.mp hmem
  obtain ⟨entry, -, hdeclaration⟩ := List.mem_filterMap.mp hentry
  unfold Declaration.ofEntry? at hdeclaration
  split at hdeclaration
  · rename_i method object hmethod hobject
    obtain rfl : _ = declaration := Option.some.inj hdeclaration
    exact hmethod
  · cases hdeclaration

/-- Every operation keeps the path of its declaration, and its name is the one
that is made from the path and the key, free among some names. -/
theorem forall₂_freshName_lowerFrom (models taken : List String)
    (declared : List Declaration) :
    List.Forall₂ (fun declaration operation =>
        operation.path = declaration.path ∧
          ∃ taken, operation.name = freshName taken declaration.baseName)
      declared (lowerFrom models taken declared) := by
  apply (forall₂_lowered_freshName models taken declared).imp
  rintro declaration _ ⟨before, rfl⟩
  exact ⟨rfl, before, rfl⟩

/-- The name of an operation is an identifier exactly if its path makes one, and
so is the name of the method that is written for it. -/
theorem isIdentifier_name_iff_makesIdentifier {document : ApiDocument}
    {operation : Operation}
    (hmem : operation ∈ (ofDocument document).operations) :
    (isIdentifier operation.name = true ↔
      MakesIdentifier operation.path.toList) ∧
      (isIdentifier (operation.name ++ "Async") = true ↔
        MakesIdentifier operation.path.toList) := by
  rw [operations_ofDocument] at hmem
  obtain ⟨declaration, hdeclared, hpath, taken, hname⟩ :=
    exists_related_of_mem
      (forall₂_freshName_lowerFrom _ [] (declarations document)) hmem
  have hmethod := Declaration.named?_key hdeclared
  have hbase : declaration.baseName ≠ "" :=
    operationName_ne_empty hmethod declaration.path
  have hfresh : isIdentifier operation.name = true ↔
      MakesIdentifier operation.path.toList := by
    rw [hname, isIdentifier_freshName hbase, hpath]
    exact isIdentifier_operationName hmethod declaration.path
  have hne : operation.name ≠ "" := by
    rw [hname]
    exact freshName_ne_empty hbase taken
  refine ⟨hfresh, ?_⟩
  rwa [Naming.isIdentifier_append hne (by decide +kernel)]

/-- A document in which one path begins with a letter and another one with a
digit. -/
def digitPathDocument : ApiDocument where
  openapi := none
  swagger := none
  info := ⟨"T", "1", none⟩
  components := none
  paths := OrderedMap.ofList (["/pets/{id}", "/2fa"].map fun path =>
    (path, ⟨OrderedMap.ofList [("get", .object [])]⟩))

/-- The operation under the given name and path that a verb without any content
becomes. -/
def bareOperation (name path : String) : Operation where
  name := name
  method := .get
  path := path
  summary := none
  parameters := []
  body := none
  returnType := .any
  deprecated := false

/-- Of the names of the two operations one is an identifier. -/
theorem isIdentifier_name_of_digitPath :
    isIdentifier ("PetsIdGet" ++ "Async") = true ∧
      isIdentifier ("2faGet" ++ "Async") = false := by
  have hletter : bareOperation "PetsIdGet" "/pets/{id}" ∈
      (ofDocument digitPathDocument).operations := by
    decide +kernel
  have hdigit : bareOperation "2faGet" "/2fa" ∈
      (ofDocument digitPathDocument).operations := by
    decide +kernel
  constructor
  · exact (isIdentifier_name_iff_makesIdentifier hletter).2.mpr
      (by decide +kernel)
  · rw [← Bool.not_eq_true]
    intro hname
    have hmakes := (isIdentifier_name_iff_makesIdentifier hdigit).2.mp hname
    exact absurd hmakes (by decide +kernel)

/-- The path `/2fa` gives an operation a name that begins with a digit. -/
theorem digit_path_gives_no_identifier :
    bareOperation "2faGet" "/2fa" ∈ (ofDocument digitPathDocument).operations ∧
      isIdentifier "2faGet" = false ∧
      isIdentifier ("2faGet" ++ "Async") = false := by
  decide +kernel

end Api
end ApiClientGen
