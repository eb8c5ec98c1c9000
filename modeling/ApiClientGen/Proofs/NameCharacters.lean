import ApiClientGen.Naming.ParameterName
import ApiClientGen.Proofs.TextPieces

/-!
# The characters of a parameter's identifier

A name from a document may hold any character, and case mapping replaces
characters by others.  Some characters can nevertheless never turn up in an
identifier: those that are no letters, numbers or underscores and that are not
the image of another character.  Whether a character is one of these is computed
from the tables of Unicode.
-/

namespace ApiClientGen

/-! ## Images of case mappings -/

namespace Text

/-- Whether a case mapping gives `c` for some character that it changes.  In a
run the only code point that may be mapped to `c` is found by subtracting the
offset. -/
def isCaseImage (expansions : List (Nat × List Nat)) (runs : List CaseRun)
    (c : Char) : Bool :=
  expansions.any
    (fun expansion => expansion.2.any fun n => Char.ofNat n == c) ||
    runs.any fun run => run.image? (Int.toNat (c.toNat - run.offset)) ==
      some c.toNat

theorem mem_of_lookup_eq_some {expansions : List (ℕ × List ℕ)} {n : ℕ}
    {image : List ℕ} (hlookup : expansions.lookup n = some image) :
    (n, image) ∈ expansions := by
  obtain ⟨front, back, hsplit, -⟩ := List.lookup_eq_some_iff.mp hlookup
  simp [hsplit]

theorem toNat_ofNat_of_ne_zero {n : ℕ} (hne : (Char.ofNat n).toNat ≠ 0) :
    (Char.ofNat n).toNat = n := by
  by_cases hvalid : n.isValidChar
  · have hchar : Char.ofNat n = Char.ofNatAux n hvalid := dif_pos hvalid
    rw [hchar]
    rfl
  · have hchar : Char.ofNat n = ⟨0, Or.inl (by decide)⟩ := dif_neg hvalid
    rw [hchar] at hne
    exact absurd rfl hne

/-- A code point above zero has at most one preimage in a run. -/
theorem CaseRun.image?_preimage {run : CaseRun} {n image : ℕ}
    (himage : run.image? n = some image) (hpos : 0 < image) :
    run.image? (Int.toNat (image - run.offset)) = some image := by
  have hvalue : Int.toNat (n + run.offset) = image := by
    unfold CaseRun.image? at himage
    split at himage
    · exact Option.some.inj himage
    · cases himage
  have hpreimage : Int.toNat (image - run.offset) = n := by omega
  rw [hpreimage, himage]

/-- A mapped character is the character itself or an image of the mapping. -/
theorem eq_or_isCaseImage_of_mem_mapCase {expansions : List (Nat × List Nat)}
    {runs : List CaseRun} {c d : Char} (hd : d.toNat ≠ 0)
    (hmem : d ∈ mapCase expansions runs c) :
    d = c ∨ isCaseImage expansions runs d = true := by
  unfold mapCase at hmem
  split at hmem
  · rename_i image hlookup
    obtain ⟨n, hn, hnd⟩ := List.mem_map.mp hmem
    right
    rw [isCaseImage, Bool.or_eq_true, List.any_eq_true]
    left
    refine ⟨(c.toNat, image), mem_of_lookup_eq_some hlookup, ?_⟩
    rw [List.any_eq_true]
    exact ⟨n, hn, beq_iff_eq.mpr hnd⟩
  · rw [List.mem_singleton] at hmem
    cases hfind : runs.findSome? (·.image? c.toNat) with
    | none => exact Or.inl (by simpa [hfind] using hmem)
    | some n =>
        have hdn : d = Char.ofNat n := by simpa [hfind] using hmem
        have hn : d.toNat = n := by
          rw [hdn] at hd ⊢
          exact toNat_ofNat_of_ne_zero hd
        obtain ⟨run, hrun, himage⟩ := List.exists_of_findSome?_eq_some hfind
        right
        rw [isCaseImage, Bool.or_eq_true, List.any_eq_true, List.any_eq_true]
        right
        refine ⟨run, hrun, beq_iff_eq.mpr ?_⟩
        rw [hn]
        exact run.image?_preimage himage (by omega)

/-! ## Digits -/

theorem isAlphanumeric_of_isDigit {c : Char} (hc : c.isDigit = true) :
    isAlphanumeric c = true := by
  have hrange : 0x30 ≤ c.toNat ∧ c.toNat ≤ 0x39 := by
    simpa [Char.isDigit, UInt32.le_iff_toNat_le] using hc
  have hnumeric : isNumeric c = true := by
    unfold isNumeric numericRanges inRanges
    rw [if_neg (by omega), if_pos hrange.2]
  simp [isAlphanumeric, hnumeric]

theorem isAlphanumeric_of_mem_toString {n : ℕ} {c : Char}
    (hc : c ∈ (toString n).toList) :
    isAlphanumeric c = true := by
  have hdigit : c ∈ Nat.toDigits 10 n := by
    simpa [Nat.toString_eq_ofList_toDigits] using hc
  exact isAlphanumeric_of_isDigit
    (Nat.isDigit_of_mem_toDigits (by decide) (by decide) hdigit)

end Text

namespace Naming

open Text (isAlphanumeric isCaseImage lowerChar upperChar lowercaseExpansions
  lowercaseRuns uppercaseExpansions uppercaseRuns)

/-! ## Characters that no name can get -/

/-- Whether a character cannot stand in an identifier and is not the image of
another character. -/
def isForeign (c : Char) : Bool :=
  c.toNat != 0 && !isIdentifierChar c &&
    !isCaseImage lowercaseExpansions lowercaseRuns c &&
    !isCaseImage uppercaseExpansions uppercaseRuns c

/-- A text without foreign characters. -/
def Domestic (cs : List Char) : Prop :=
  ∀ c ∈ cs, isForeign c = false

instance (cs : List Char) : Decidable (Domestic cs) :=
  List.decidableBAll (fun c => isForeign c = false) cs

theorem Domestic.append {cs ds : List Char} (hcs : Domestic cs)
    (hds : Domestic ds) :
    Domestic (cs ++ ds) := by
  intro c hc
  rcases List.mem_append.mp hc with hc | hc
  · exact hcs c hc
  · exact hds c hc

theorem isForeign_eq_false {c : Char} (hc : isIdentifierChar c = true) :
    isForeign c = false := by
  simp [isForeign, hc]

theorem domestic_of_isAlphanumeric {cs : List Char}
    (hcs : ∀ c ∈ cs, isAlphanumeric c = true) :
    Domestic cs :=
  fun c hc => isForeign_eq_false (by simp [isIdentifierChar, hcs c hc])

/-- A case mapping makes no foreign character if none is among its images. -/
theorem eq_or_not_isForeign_of_mem_mapCase {expansions : List (ℕ × List ℕ)}
    {runs : List Text.CaseRun}
    (himages : ∀ d, isForeign d = true → isCaseImage expansions runs d = false)
    {c d : Char} (hd : d ∈ Text.mapCase expansions runs c) :
    d = c ∨ isForeign d = false := by
  by_contra hnot
  obtain ⟨hchanged, hforeign⟩ : d ≠ c ∧ isForeign d = true := by
    simpa using hnot
  have hzero : d.toNat ≠ 0 := by
    simp only [isForeign, Bool.and_eq_true, bne_iff_ne] at hforeign
    exact hforeign.1.1.1
  rcases Text.eq_or_isCaseImage_of_mem_mapCase hzero hd with hsame | himage
  · exact hchanged hsame
  · simp [himages d hforeign] at himage

theorem eq_or_not_isForeign_of_mem_lowerChar {c d : Char}
    (hd : d ∈ lowerChar c) :
    d = c ∨ isForeign d = false := by
  apply eq_or_not_isForeign_of_mem_mapCase _ hd
  intro d hforeign
  simp only [isForeign, Bool.and_eq_true, Bool.not_eq_true'] at hforeign
  exact hforeign.1.2

theorem eq_or_not_isForeign_of_mem_upperChar {c d : Char}
    (hd : d ∈ upperChar c) :
    d = c ∨ isForeign d = false := by
  apply eq_or_not_isForeign_of_mem_mapCase _ hd
  intro d hforeign
  simp only [isForeign, Bool.and_eq_true, Bool.not_eq_true'] at hforeign
  exact hforeign.2

theorem domestic_lowerChar {c : Char} (hc : isForeign c = false) :
    Domestic (lowerChar c) := by
  intro d hd
  rcases eq_or_not_isForeign_of_mem_lowerChar hd with rfl | hdomestic
  · exact hc
  · exact hdomestic

theorem domestic_upperChar {c : Char} (hc : isForeign c = false) :
    Domestic (upperChar c) := by
  intro d hd
  rcases eq_or_not_isForeign_of_mem_upperChar hd with rfl | hdomestic
  · exact hc
  · exact hdomestic

/-! ## Words of a name -/

/-- Cutting a run at changes of case keeps every character in its place. -/
theorem flatten_caseWords (word : List Char) (current : WordCase)
    (cs : List Char) :
    (caseWords word current cs).flatten = word.reverse ++ cs := by
  induction word, current, cs using caseWords.induct with
  | case1 word current => simp [caseWords]
  | case2 word current c => simp [caseWords]
  | case3 word current c next rest hafter ih =>
      rw [caseWords, if_pos hafter, List.flatten_cons, ih]
      simp
  | case4 word current c next rest hafter hbefore ih =>
      rw [caseWords, if_neg hafter, if_pos hbefore, List.flatten_cons, ih]
      simp
  | case5 word current c next rest hafter hbefore ih =>
      rw [caseWords, if_neg hafter, if_neg hbefore, ih]
      simp

theorem isAlphanumeric_of_mem_nameWords {name word : List Char}
    (hword : word ∈ nameWords name) {c : Char} (hc : c ∈ word) :
    isAlphanumeric c = true := by
  obtain ⟨piece, hpiece, hword⟩ := List.mem_flatMap.mp hword
  have hmem : c ∈ piece := by
    have hflat := List.mem_flatten_of_mem hword hc
    rwa [flatten_caseWords, List.reverse_nil, List.nil_append] at hflat
  have hcut := Text.not_cut_of_mem_pieces (List.mem_of_mem_filter hpiece) hmem
  simpa using hcut

theorem domestic_lowerWord {word : List Char} (hword : Domestic word) :
    Domestic (lowerWord word) := by
  induction word using lowerWord.induct with
  | case1 => simp [lowerWord, Domestic]
  | case2 =>
      have hfinal : Domestic ['ς'] := by decide
      simpa [lowerWord] using hfinal
  | case3 c hc =>
      simpa [lowerWord, hc]
        using domestic_lowerChar (hword c (List.mem_singleton_self c))
  | case4 c next rest ih =>
      rw [lowerWord]
      apply Domestic.append
      · exact domestic_lowerChar (hword c (List.mem_cons_self ..))
      · exact ih fun d hd => hword d (List.mem_cons_of_mem c hd)

theorem domestic_capitalWord {word : List Char} (hword : Domestic word) :
    Domestic (capitalWord word) := by
  cases word with
  | nil => simp [capitalWord, Domestic]
  | cons c rest =>
      apply Domestic.append
      · exact domestic_upperChar (hword c (List.mem_cons_self ..))
      · exact domestic_lowerWord fun d hd => hword d (List.mem_cons_of_mem c hd)

theorem domestic_camelCase {words : List (List Char)}
    (hwords : ∀ word ∈ words, Domestic word) :
    Domestic (camelCase words) := by
  cases words with
  | nil => simp [camelCase, Domestic]
  | cons first others =>
      apply Domestic.append
      · exact domestic_lowerWord (hwords first (List.mem_cons_self ..))
      · intro c hc
        obtain ⟨word, hword, hc⟩ := List.mem_flatMap.mp hc
        exact domestic_capitalWord
          (hwords word (List.mem_cons_of_mem first hword)) c hc

/-! ## The identifier of a parameter -/

theorem parameterIdentifier_ne_empty (name : String) :
    parameterIdentifier name ≠ "" := by
  unfold parameterIdentifier
  split
  · decide
  · split <;> simp

/-- No foreign character gets into the identifier of a parameter, whatever its
name holds. -/
theorem domestic_parameterIdentifier (name : String) :
    Domestic (parameterIdentifier name).toList := by
  have hcamel : Domestic (camelCase (nameWords (sanitize name.toList))) :=
    domestic_camelCase fun _ hword =>
      domestic_of_isAlphanumeric fun _ hc =>
        isAlphanumeric_of_mem_nameWords hword hc
  unfold parameterIdentifier
  split
  · decide
  · rename_i first rest hwords
    rw [hwords] at hcamel
    rw [String.toList_ofList]
    split
    · have hmark : Domestic ['_'] := by decide
      exact hmark.append hcamel
    · exact hcamel

end Naming
end ApiClientGen
