import ApiClientGen.Proofs.OperationNames

/-!
# Operation names segment by segment

The name of an operation is made in one pass over its path, which remembers
whether a word has its first character yet.  The same name is described here
without a pass: the path is split into segments, each segment is filtered and
written with a capital, and the verb follows.  Characters that the filter drops
therefore leave no trace, wherever they stand.
-/

namespace ApiClientGen
namespace Naming

open Text (upperChar)

/-- Whether `c` neither begins a new word of a path nor can stand in an
identifier. -/
def isDropped (c : Char) : Bool :=
  !isWordBreak c && !isIdentifierChar c

theorem keptWords_eq_splitOnP (path : List Char) :
    keptWords path =
      (path.splitOnP isWordBreak).map (·.filter isIdentifierChar) := by
  rw [keptWords, Text.pieces_eq_splitOnP]

/-! ## Dropped characters -/

theorem pathWords_cons_of_isDropped (atStart : Bool) {c : Char}
    (hc : isDropped c = true) (rest : List Char) :
    pathWords atStart (c :: rest) = pathWords atStart rest := by
  rw [isDropped, Bool.and_eq_true, Bool.not_eq_true', Bool.not_eq_true'] at hc
  simp [pathWords, hc.1, hc.2]

theorem pathWords_append_of_isDropped (atStart : Bool) {dropped : List Char}
    (hdropped : ∀ c ∈ dropped, isDropped c = true) (rest : List Char) :
    pathWords atStart (dropped ++ rest) = pathWords atStart rest := by
  induction dropped with
  | nil => rfl
  | cons c dropped ih =>
      rw [List.forall_mem_cons] at hdropped
      rw [List.cons_append, pathWords_cons_of_isDropped atStart hdropped.1,
        ih hdropped.2]

/-! ## The state of the pass -/

/-- Whether a word is without its first character behind a text.  A break begins
a word, a character that is kept is its first one, and a dropped character
leaves it as it is. -/
def atStartBehind (atStart : Bool) : List Char → Bool
  | [] => atStart
  | c :: rest =>
    if isWordBreak c then atStartBehind true rest
    else if isIdentifierChar c then atStartBehind false rest
    else atStartBehind atStart rest

/-- What follows a text is written from the state that the text leaves
behind. -/
theorem pathWords_append (atStart : Bool) (front back : List Char) :
    pathWords atStart (front ++ back) =
      pathWords atStart front ++
        pathWords (atStartBehind atStart front) back := by
  induction front generalizing atStart with
  | nil => rfl
  | cons c front ih =>
      rw [List.cons_append, pathWords, pathWords, atStartBehind]
      split
      · exact ih true
      · split
        · rw [ih false, List.append_assoc]
        · exact ih atStart

/-- A word begins behind a break, whatever state the break was met in. -/
theorem pathWords_append_break (atStart : Bool) (front : List Char) {c : Char}
    (hc : isWordBreak c = true) (back : List Char) :
    pathWords atStart (front ++ c :: back) =
      pathWords atStart front ++ pathWords true back := by
  rw [pathWords_append, pathWords, if_pos hc]

/-! ## Names -/

theorem toList_operationName (path verb : String) :
    (operationName path verb).toList =
      pathWords true path.toList ++ titleWord verb.toList :=
  String.toList_ofList

/-- The name of an operation consists of the segments of its path between
slashes and hyphens, each without what cannot stand in an identifier and with a
capital first character, and of the verb in the same case.  A dropped character
changes nothing, so it ends no word, and behind a break the next character that
is kept has its capital, whatever is dropped before it. -/
theorem operationName_is_segmentwise (path verb : String) :
    operationName path verb =
      String.ofList
        ((path.toList.splitOnP fun c => c == '/' || c == '-').flatMap
          (fun segment => capitalized
            (segment.filter fun c => Text.isAlphanumeric c || c == '_')) ++
          capitalizeChars (Text.lower verb.toList)) ∧
      (∀ front dropped back, (∀ c ∈ dropped, isDropped c = true) →
        path.toList = front ++ (dropped ++ back) →
        operationName path verb =
          operationName (String.ofList (front ++ back)) verb) ∧
      ∀ front separator dropped c back, isWordBreak separator = true →
        (∀ d ∈ dropped, isDropped d = true) → isIdentifierChar c = true →
        path.toList = front ++ separator :: (dropped ++ c :: back) →
        (operationName (String.ofList front) "").toList ++ upperChar c <+:
          (operationName path verb).toList := by
  refine ⟨?_, ?_, ?_⟩
  · rw [operationName, pathWords_eq, keptWords_eq_splitOnP, List.flatMap_map]
    rfl
  · intro front dropped back hdropped hpath
    have hbehind := pathWords_append true front
    rw [operationName, operationName, hpath, String.toList_ofList, hbehind,
      hbehind, pathWords_append_of_isDropped _ hdropped]
  · intro front separator dropped c back hseparator hdropped hkept hpath
    have hbreak : isWordBreak c = false := by
      rw [Bool.eq_false_iff]
      intro hc
      rw [isIdentifierChar_of_isWordBreak hc] at hkept
      cases hkept
    have hcapital :
        pathWords true (c :: back) = upperChar c ++ pathWords false back := by
      simp [pathWords, hbreak, hkept]
    rw [toList_operationName, toList_operationName, hpath, String.toList_ofList,
      pathWords_append_break true front hseparator,
      pathWords_append_of_isDropped true hdropped, hcapital]
    simp [titleWord, Text.lower, Text.lowerAfter, capitalizeChars]

/-- In `/{petId}-.{v1}` a dot and a brace stand between the hyphen and the next
word. -/
theorem operationName_is_segmentwise_braces :
    operationName "/\x7bpetId\x7d-.\x7bv1\x7d" "GET" =
      operationName
        (String.ofList ("/\x7bpetId\x7d-".toList ++ "v1\x7d".toList)) "GET" ∧
      (operationName (String.ofList "/\x7bpetId\x7d".toList) "").toList ++
        upperChar 'v' <+:
        (operationName "/\x7bpetId\x7d-.\x7bv1\x7d" "GET").toList := by
  obtain ⟨-, hdrop, hcapital⟩ :=
    operationName_is_segmentwise "/\x7bpetId\x7d-.\x7bv1\x7d" "GET"
  have hall : (".\x7b".toList.all isDropped) = true := by decide
  have hdropped := List.all_eq_true.mp hall
  constructor
  · exact hdrop _ _ _ hdropped (by decide)
  · exact hcapital _ '-' _ 'v' "1\x7d".toList (by decide) hdropped (by decide)
      (by decide)

example : operationName "/\x7bpetId\x7d-.\x7bv1\x7d" "GET" = "PetidV1Get" := by
  decide +kernel

end Naming
end ApiClientGen
