import ApiClientGen.Proofs.NameCharacters
import Mathlib.Data.List.Chain

/-!
# Case mapping inside names

A letter or a number need not stay one under a case mapping: the capital of `ǰ`
is a `J` with a combining caron, and a combining mark may stand in no name.
Here the tables are searched for the letters with such an image.  All of them
are among the letters whose image has several characters: an image of one
character has a case, so it is a letter again.
-/

namespace ApiClientGen

namespace Text

/-! ## Ascending ranges -/

theorem exists_of_inRanges {ranges : List (ℕ × ℕ)} {n : ℕ}
    (hn : inRanges ranges n = true) :
    ∃ range ∈ ranges, range.1 ≤ n ∧ n ≤ range.2 := by
  induction ranges with
  | nil => cases hn
  | cons range rest ih =>
      obtain ⟨first, last⟩ := range
      unfold inRanges at hn
      by_cases hlow : n < first
      · simp [hlow] at hn
      · by_cases hhigh : n ≤ last
        · exact ⟨(first, last), List.mem_cons_self,
            Nat.le_of_not_lt hlow, hhigh⟩
        · rw [if_neg hlow, if_neg hhigh] at hn
          obtain ⟨range, hrange, hbounds⟩ := ih hn
          exact ⟨range, List.mem_cons_of_mem _ hrange, hbounds⟩

/-- The search stops at a range that starts above `n`, and then no range behind
it can hold `n`. -/
theorem inRanges_of_mem {ranges : List (ℕ × ℕ)}
    (hascend : (ranges.map Prod.fst).Pairwise (· < ·)) {range : ℕ × ℕ}
    (hrange : range ∈ ranges) {n : ℕ} (hlow : range.1 ≤ n)
    (hhigh : n ≤ range.2) :
    inRanges ranges n = true := by
  induction ranges with
  | nil => cases hrange
  | cons head rest ih =>
      obtain ⟨first, last⟩ := head
      rw [List.map_cons, List.pairwise_cons] at hascend
      unfold inRanges
      rcases List.mem_cons.mp hrange with rfl | hrest
      · rw [if_neg (Nat.not_lt.mpr hlow), if_pos hhigh]
      · have hfirst : first < range.1 :=
          hascend.1 range.1 (List.mem_map_of_mem hrest)
        rw [if_neg (by omega), ih hascend.2 hrest]
        split <;> rfl

/-- Whether every range of the first list lies inside a range of the second one.
Both lists ascend, so ranges of the second list that end below a range of the
first one are not needed any more. -/
def within : List (ℕ × ℕ) → List (ℕ × ℕ) → Bool
  | [], _ => true
  | range :: rest, wide =>
    match wide.dropWhile fun other => other.2.blt range.1 with
    | [] => false
    | other :: later =>
      other.1.ble range.1 && range.2.ble other.2 && within rest (other :: later)

theorem exists_wide_of_within {narrow wide : List (ℕ × ℕ)}
    (hwithin : within narrow wide = true) {range : ℕ × ℕ}
    (hrange : range ∈ narrow) :
    ∃ other ∈ wide, other.1 ≤ range.1 ∧ range.2 ≤ other.2 := by
  induction narrow generalizing wide with
  | nil => cases hrange
  | cons head rest ih =>
      unfold within at hwithin
      split at hwithin
      · cases hwithin
      · rename_i other later hdrop
        have hsub : other :: later ⊆ wide := hdrop ▸ List.dropWhile_subset _
        rw [Bool.and_eq_true, Bool.and_eq_true, Nat.ble_eq,
          Nat.ble_eq] at hwithin
        rcases List.mem_cons.mp hrange with rfl | hrest
        · exact ⟨other, hsub List.mem_cons_self, hwithin.1⟩
        · obtain ⟨found, hfound, hbounds⟩ := ih hwithin.2 hrest
          exact ⟨found, hsub hfound, hbounds⟩

/-! ## Letters that have a case -/

/-- What a search of the tables finds.  The ranges of letters ascend, and so do
those of letters that have a case.  The latter lie inside ranges of letters, and
none of them reaches into the surrogates or beyond the last code point. -/
theorem casedRanges_searched :
    (alphabeticRanges.map Prod.fst).IsChain (· < ·) ∧
      (casedRanges.map Prod.fst).IsChain (· < ·) ∧
      within casedRanges alphabeticRanges = true ∧
      (casedRanges.all fun range =>
        (range.2.blt 0xD800 || (0xE000).ble range.1) &&
          range.2.blt 0x110000) = true := by
  decide +kernel

theorem ascending_casedRanges : (casedRanges.map Prod.fst).Pairwise (· < ·) :=
  List.isChain_iff_pairwise.mp casedRanges_searched.2.1

theorem isAlphabetic_of_isCased {c : Char} (hc : isCased c = true) :
    isAlphabetic c = true := by
  obtain ⟨hascend, -, hwithin, -⟩ := casedRanges_searched
  obtain ⟨range, hrange, hlow, hhigh⟩ := exists_of_inRanges hc
  obtain ⟨letters, hletters, hfirst, hlast⟩ :=
    exists_wide_of_within hwithin hrange
  exact inRanges_of_mem (List.isChain_iff_pairwise.mp hascend) hletters
    (by omega) (by omega)

theorem isValidChar_of_inRanges_casedRanges {n : ℕ}
    (hn : inRanges casedRanges n = true) :
    n.isValidChar := by
  obtain ⟨-, -, -, hvalid⟩ := casedRanges_searched
  obtain ⟨range, hrange, hlow, hhigh⟩ := exists_of_inRanges hn
  have hbounds := List.all_eq_true.mp hvalid range hrange
  rw [Bool.and_eq_true, Bool.or_eq_true, Nat.ble_eq, Nat.blt_eq,
    Nat.blt_eq] at hbounds
  unfold Nat.isValidChar
  omega

theorem isCased_ofNat {n : ℕ} (hn : inRanges casedRanges n = true) :
    isCased (Char.ofNat n) = true := by
  have hchar : Char.ofNat n =
      Char.ofNatAux n (isValidChar_of_inRanges_casedRanges hn) := dif_pos _
  rw [hchar]
  exact hn

/-! ## Runs of letters -/

namespace CaseRun

/-- Whether the images of a run lie in the given ranges.  Mostly one range holds
all of them; if none does, they are looked up one by one. -/
def landsIn (ranges : List (ℕ × ℕ)) (run : CaseRun) : Bool :=
  (ranges.any fun range =>
      range.1.ble (Int.toNat (run.first + run.offset)) &&
        (Int.toNat (run.last + run.offset)).ble range.2) ||
    (List.range (run.last + 1 - run.first)).all fun i =>
      (run.image? (run.first + i)).all (inRanges ranges)

/-- The run with its own letters in the place of their images. -/
def still (run : CaseRun) : CaseRun :=
  { run with offset := 0 }

theorem image?_still {run : CaseRun} {n image : ℕ}
    (himage : run.image? n = some image) :
    run.still.image? n = some n := by
  unfold image? at himage ⊢
  split at himage
  · rename_i hholds
    rw [still, Int.add_zero, Int.toNat_natCast]
    exact if_pos hholds
  · cases himage

theorem image?_eq_some {run : CaseRun} {n image : ℕ}
    (himage : run.image? n = some image) :
    run.first ≤ n ∧ n ≤ run.last ∧ image = Int.toNat (n + run.offset) := by
  unfold image? at himage
  split at himage
  · rename_i hholds
    simp only [Bool.and_eq_true, decide_eq_true_eq] at hholds
    exact ⟨hholds.1.1, hholds.1.2, (Option.some.inj himage).symm⟩
  · cases himage

theorem inRanges_of_landsIn {ranges : List (ℕ × ℕ)}
    (hascend : (ranges.map Prod.fst).Pairwise (· < ·)) {run : CaseRun}
    (hlands : run.landsIn ranges = true) {n image : ℕ}
    (himage : run.image? n = some image) :
    inRanges ranges image = true := by
  obtain ⟨hfirst, hlast, hvalue⟩ := image?_eq_some himage
  rcases Bool.or_eq_true_iff.mp hlands with hone | heach
  · obtain ⟨range, hrange, hbounds⟩ := List.any_eq_true.mp hone
    rw [Bool.and_eq_true, Nat.ble_eq, Nat.ble_eq] at hbounds
    exact inRanges_of_mem hascend hrange (by omega) (by omega)
  · have hi : n - run.first ∈ List.range (run.last + 1 - run.first) := by
      rw [List.mem_range]
      omega
    have hall := List.all_eq_true.mp heach _ hi
    rw [Nat.add_sub_cancel' hfirst, himage] at hall
    exact hall

end CaseRun

/-- In both mappings the letters of a run have a case, and so do their
images. -/
theorem runs_landIn_casedRanges :
    ∀ run ∈ lowercaseRuns ++ uppercaseRuns,
      run.still.landsIn casedRanges = true ∧
        run.landsIn casedRanges = true := by
  decide +kernel

/-- A character without a longer image stays as it is, or it has a case and so
does its image. -/
theorem mapCase_of_lookup_eq_none {expansions : List (ℕ × List ℕ)}
    {runs : List CaseRun} (hruns : runs ⊆ lowercaseRuns ++ uppercaseRuns)
    {c : Char} (hlookup : expansions.lookup c.toNat = none) :
    mapCase expansions runs c = [c] ∨
      ∃ d, mapCase expansions runs c = [d] ∧ isCased d = true ∧
        isCased c = true := by
  unfold mapCase
  rw [hlookup]
  cases hfind : runs.findSome? (·.image? c.toNat) with
  | none => exact Or.inl rfl
  | some image =>
      obtain ⟨run, hrun, himage⟩ := List.exists_of_findSome?_eq_some hfind
      obtain ⟨hletters, himages⟩ := runs_landIn_casedRanges run (hruns hrun)
      refine Or.inr ⟨Char.ofNat image, rfl, ?_, ?_⟩
      · exact isCased_ofNat
          (CaseRun.inRanges_of_landsIn ascending_casedRanges himages himage)
      · exact CaseRun.inRanges_of_landsIn ascending_casedRanges hletters
          (CaseRun.image?_still himage)

end Text

namespace Naming

open Text (CaseRun isAlphabetic isCased lowerChar lowercaseExpansions
  lowercaseRuns mapCase upperChar uppercaseExpansions uppercaseRuns)

/-! ## Images inside a name -/

/-- Whether a name may begin with `c`. -/
def isIdentifierStart (c : Char) : Bool :=
  isAlphabetic c || c == '_'

theorem isIdentifierStart_of_isCased {c : Char} (hc : isCased c = true) :
    isIdentifierStart c = true := by
  simp [isIdentifierStart, Text.isAlphabetic_of_isCased hc]

theorem isIdentifierChar_of_isIdentifierStart {c : Char}
    (hc : isIdentifierStart c = true) :
    isIdentifierChar c = true := by
  rw [isIdentifierStart, Bool.or_eq_true] at hc
  rcases hc with hletter | hmark
  · simp [isIdentifierChar, Text.isAlphanumeric, hletter]
  · simp [isIdentifierChar, hmark]

/-- The code points of the letters whose capital has a combining mark behind
it. -/
def spoiledCapitals : List ℕ :=
  [0x1F0, 0x390, 0x3B0, 0x1E96, 0x1E97, 0x1E98, 0x1E99, 0x1F50, 0x1F52, 0x1F54,
    0x1F56, 0x1FB6, 0x1FB7, 0x1FC6, 0x1FC7, 0x1FD2, 0x1FD3, 0x1FD6, 0x1FD7,
    0x1FE2, 0x1FE3, 0x1FE4, 0x1FE6, 0x1FE7, 0x1FF6, 0x1FF7]

/-- The code point of `İ`, the one letter whose lower-case form has a combining
mark behind it. -/
def spoiledSmalls : List ℕ :=
  [0x130]

/-- The given letters are those for which a table has an image with a character
that may stand in no name. -/
structure Spoils (expansions : List (ℕ × List ℕ)) (letters : List ℕ) :
    Prop where
  expanded : letters ⊆ expansions.map Prod.fst
  image : ∀ expansion ∈ expansions,
    (expansion.2.map Char.ofNat).all isIdentifierChar =
      !letters.contains expansion.1

theorem spoils_spoiledCapitals : Spoils uppercaseExpansions spoiledCapitals :=
  ⟨by decide +kernel, by decide +kernel⟩

theorem spoils_spoiledSmalls : Spoils lowercaseExpansions spoiledSmalls :=
  ⟨by decide, by decide⟩

/-- A character of a name stays within names under a mapping unless it is one of
the spoiled letters. -/
theorem Spoils.all_mapCase {expansions : List (ℕ × List ℕ)} {letters : List ℕ}
    (hspoils : Spoils expansions letters) {runs : List CaseRun}
    (hruns : runs ⊆ lowercaseRuns ++ uppercaseRuns) {c : Char}
    (hc : isIdentifierChar c = true) :
    (mapCase expansions runs c).all isIdentifierChar = true ↔
      c.toNat ∉ letters := by
  cases hlookup : expansions.lookup c.toNat with
  | none =>
      have hspared : c.toNat ∉ letters := by
        intro hmem
        obtain ⟨expansion, hexpansion, hkey⟩ :=
          List.mem_map.mp (hspoils.expanded hmem)
        have hne := List.lookup_eq_none_iff.mp hlookup expansion hexpansion
        simp [hkey] at hne
      rw [iff_true_right hspared]
      rcases Text.mapCase_of_lookup_eq_none hruns hlookup with
        hsame | ⟨d, hd, hcased, -⟩
      · simp [hsame, hc]
      · have hletter := isIdentifierChar_of_isIdentifierStart
          (isIdentifierStart_of_isCased hcased)
        simp [hd, hletter]
  | some image =>
      have hmapped : mapCase expansions runs c = image.map Char.ofNat := by
        rw [mapCase, hlookup]
      rw [hmapped, hspoils.image _ (Text.mem_of_lookup_eq_some hlookup)]
      simp

theorem all_upperChar {c : Char} (hc : isIdentifierChar c = true) :
    (upperChar c).all isIdentifierChar = true ↔ c.toNat ∉ spoiledCapitals :=
  spoils_spoiledCapitals.all_mapCase (List.subset_append_right _ _) hc

theorem all_lowerChar {c : Char} (hc : isIdentifierChar c = true) :
    (lowerChar c).all isIdentifierChar = true ↔ c.toNat ∉ spoiledSmalls :=
  spoils_spoiledSmalls.all_mapCase (List.subset_append_left _ _) hc

/-- Only letters have an image of several characters, and each of these images
begins with a letter. -/
theorem isAlphabetic_of_mem_expansions {expansion : ℕ × List ℕ}
    (hexpansion : expansion ∈ lowercaseExpansions ++ uppercaseExpansions) :
    isAlphabetic (Char.ofNat expansion.1) = true ∧
      ∃ n rest,
        expansion.2 = n :: rest ∧ isAlphabetic (Char.ofNat n) = true := by
  have hapostrophe : isAlphabetic 'ʼ' = true := by decide +kernel
  have hcased : ∀ expansion ∈ lowercaseExpansions ++ uppercaseExpansions,
      isCased (Char.ofNat expansion.1) = true ∧ expansion.2 ≠ [] ∧
        ∀ n ∈ expansion.2.head?,
          Char.ofNat n = 'ʼ' ∨ isCased (Char.ofNat n) = true := by
    decide +kernel
  obtain ⟨hkey, hne, hfirst⟩ := hcased expansion hexpansion
  obtain ⟨n, rest, himage⟩ := List.exists_cons_of_ne_nil hne
  refine ⟨Text.isAlphabetic_of_isCased hkey, n, rest, himage, ?_⟩
  rcases hfirst n (by simp [himage]) with hn | hn
  · rw [hn, hapostrophe]
  · exact Text.isAlphabetic_of_isCased hn

/-- A character stays as it is under a mapping, or it may begin a name and its
image begins with a character that may as well. -/
theorem mapCase_cases {expansions : List (ℕ × List ℕ)} {runs : List CaseRun}
    (hexpansions : expansions ⊆ lowercaseExpansions ++ uppercaseExpansions)
    (hruns : runs ⊆ lowercaseRuns ++ uppercaseRuns) (c : Char) :
    mapCase expansions runs c = [c] ∨
      isIdentifierStart c = true ∧
        ∃ first rest, mapCase expansions runs c = first :: rest ∧
          isIdentifierStart first = true := by
  cases hlookup : expansions.lookup c.toNat with
  | none =>
      rcases Text.mapCase_of_lookup_eq_none hruns hlookup with
        hsame | ⟨d, hd, himage, hletter⟩
      · exact Or.inl hsame
      · exact Or.inr ⟨isIdentifierStart_of_isCased hletter, d, [], hd,
          isIdentifierStart_of_isCased himage⟩
  | some image =>
      right
      obtain ⟨hletter, n, rest, himage, hfirst⟩ :=
        isAlphabetic_of_mem_expansions
          (hexpansions (Text.mem_of_lookup_eq_some hlookup))
      rw [Char.ofNat_toNat] at hletter
      refine ⟨by simp [isIdentifierStart, hletter], Char.ofNat n,
        rest.map Char.ofNat, ?_, by simp [isIdentifierStart, hfirst]⟩
      rw [mapCase, hlookup]
      exact congrArg (List.map Char.ofNat) himage

theorem lowerChar_cases (c : Char) :
    lowerChar c = [c] ∨
      isIdentifierStart c = true ∧
        ∃ first rest,
          lowerChar c = first :: rest ∧ isIdentifierStart first = true :=
  mapCase_cases (List.subset_append_left _ _) (List.subset_append_left _ _) c

/-- The capital of a character begins with a character that may begin a name
exactly if the character itself may begin one. -/
theorem exists_upperChar_eq_cons (c : Char) :
    ∃ first rest, upperChar c = first :: rest ∧
      isIdentifierStart first = isIdentifierStart c := by
  rcases mapCase_cases (List.subset_append_right _ _)
      (List.subset_append_right _ _) c with
    hsame | ⟨hstart, first, rest, himage, hfirst⟩
  · exact ⟨c, [], hsame, rfl⟩
  · exact ⟨first, rest, himage, hfirst.trans hstart.symm⟩

end Naming
end ApiClientGen
