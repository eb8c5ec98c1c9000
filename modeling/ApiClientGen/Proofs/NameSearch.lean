import ApiClientGen.Api.Operations
import ApiClientGen.Proofs.FreshNames
import Mathlib.Data.Finset.Card
import Mathlib.Order.Bounds.Basic

/-!
# The search for a free name

A name is given by trying: the name itself is inserted among the taken names,
and if this fails, the name with the number two, with the number three, and so
on, until an insertion succeeds.  Nothing in the search bounds the number of its
turns.  It is followed here turn by turn, with the names that each turn leaves
for the next one, and it is shown to end, at the least free number, for every
collection of taken names.
-/

namespace ApiClientGen
namespace Api

/-! ## Turns of the search -/

/-- Puts a name behind the taken ones and tells whether it is new.  A name that
is taken already changes nothing. -/
def insertName (taken : List String) (name : String) : Bool × List String :=
  if name ∈ taken then (false, taken) else (true, taken ++ [name])

theorem insertName_eq_true_iff {taken after : List String} {name : String} :
    insertName taken name = (true, after) ↔
      name ∉ taken ∧ after = taken ++ [name] := by
  by_cases hname : name ∈ taken <;> simp [insertName, hname, eq_comm]

theorem insertName_eq_false_iff {taken after : List String} {name : String} :
    insertName taken name = (false, after) ↔ name ∈ taken ∧ after = taken := by
  by_cases hname : name ∈ taken <;> simp [insertName, hname, eq_comm]

/-- The search beside `taken` from a number on ends with a name and leaves the
names `after`.  A turn that cannot insert its name hands the names that it
leaves to the next one, and there is no other bound on the turns. -/
inductive SearchEnds (base : String) :
    ℕ → List String → String → List String → Prop where
  | found {n : ℕ} {taken after : List String}
      (hnew : insertName taken (numbered base n) = (true, after)) :
      SearchEnds base n taken (numbered base n) after
  | turn {n : ℕ} {taken kept after : List String} {name : String}
      (hold : insertName taken (numbered base n) = (false, kept))
      (hrest : SearchEnds base (n + 1) kept name after) :
      SearchEnds base n taken name after

/-- The numbers from `start` on that make a free name. -/
def freeNumbers (taken : List String) (base : String) (start : ℕ) : Set ℕ :=
  {n | start ≤ n ∧ numbered base n ∉ taken}

section Turns

variable {taken after : List String} {base name : String} {start n : ℕ}

theorem isLeast_freeNumbers_self (hfree : numbered base start ∉ taken) :
    IsLeast (freeNumbers taken base start) start :=
  ⟨⟨le_rfl, hfree⟩, fun _ hm => hm.1⟩

/-- A number that is not free can be left out of the search. -/
theorem freeNumbers_succ (htaken : numbered base start ∈ taken) :
    freeNumbers taken base (start + 1) = freeNumbers taken base start := by
  ext m
  constructor
  · rintro ⟨hle, hfree⟩
    exact ⟨by omega, hfree⟩
  · rintro ⟨hle, hfree⟩
    have hne : start ≠ m := by
      rintro rfl
      exact hfree htaken
    exact ⟨by omega, hfree⟩

/-- Failed insertions leave the taken names as they are, so all turns look for a
free number beside the same names. -/
theorem SearchEnds.exists_isLeast
    (hsearch : SearchEnds base start taken name after) :
    ∃ n, IsLeast (freeNumbers taken base start) n ∧ name = numbered base n ∧
      after = taken ++ [name] := by
  induction hsearch with
  | @found n taken after hnew =>
      obtain ⟨hfree, rfl⟩ := insertName_eq_true_iff.mp hnew
      exact ⟨n, isLeast_freeNumbers_self hfree, rfl, rfl⟩
  | turn hold hrest ih =>
      obtain ⟨htaken, rfl⟩ := insertName_eq_false_iff.mp hold
      rwa [freeNumbers_succ htaken] at ih

/-- The search ends if there is a free number: every failed turn brings it
closer. -/
theorem searchEnds_of_isLeast (hn : IsLeast (freeNumbers taken base start) n) :
    SearchEnds base start taken (numbered base n)
      (taken ++ [numbered base n]) := by
  obtain ⟨distance, hdistance⟩ := Nat.exists_eq_add_of_le hn.1.1
  induction distance generalizing start with
  | zero =>
      obtain rfl : n = start := hdistance
      exact .found (insertName_eq_true_iff.mpr ⟨hn.1.2, rfl⟩)
  | succ distance ih =>
      have htaken : numbered base start ∈ taken := by
        by_contra hfree
        have hle := hn.2 ⟨le_rfl, hfree⟩
        omega
      refine .turn (insertName_eq_false_iff.mpr ⟨htaken, rfl⟩)
        (ih ?_ (by omega))
      rwa [freeNumbers_succ htaken]

theorem searchEnds_iff (hn : IsLeast (freeNumbers taken base start) n) :
    SearchEnds base start taken name after ↔
      name = numbered base n ∧ after = taken ++ [name] := by
  constructor
  · intro hsearch
    obtain ⟨m, hm, rfl, rfl⟩ := hsearch.exists_isLeast
    rw [hm.unique hn]
    exact ⟨rfl, rfl⟩
  · rintro ⟨rfl, rfl⟩
    exact searchEnds_of_isLeast hn

end Turns

/-! ## Names that are given -/

/-- Beside a taken name, the least free number is at most one more than the
number of different names. -/
theorem exists_isLeast_freeNumbers {taken : List String} {base : String}
    (hbase : base ∈ taken) :
    ∃ n, IsLeast (freeNumbers taken base 2) n ∧
      freshName taken base = numbered base n ∧
      n ≤ taken.toFinset.card + 1 := by
  obtain ⟨n, hn, hname, hfree, hbelow⟩ := exists_freshName_eq_numbered hbase
  have hleast : IsLeast (freeNumbers taken base 2) n := by
    refine ⟨⟨hn, hfree⟩, fun m hm => ?_⟩
    by_contra hlt
    exact hm.2 (hbelow m hm.1 (by omega))
  obtain ⟨i, hi, hi_free⟩ := exists_free_number (List.mem_dedup.mpr hbase)
  rw [List.mem_dedup] at hi_free
  have hle : n ≤ i + 2 := hleast.2 ⟨by omega, hi_free⟩
  rw [← List.card_toFinset] at hi
  exact ⟨n, hleast, hname, by omega⟩

/-- A name is given beside `taken`, which leaves the names `after` and some
warnings: it is kept if it can be inserted, and else the search from two on
ends, which is reported. -/
inductive NameGiven (location base : String) (taken : List String) :
    String → List String → List Warning → Prop where
  | kept {after : List String} (hnew : insertName taken base = (true, after)) :
      NameGiven location base taken base after []
  | searched {kept after : List String} {name : String}
      (hold : insertName taken base = (false, kept))
      (hsearch : SearchEnds base 2 kept name after) :
      NameGiven location base taken name after [⟨location, .renamed base name⟩]

/-- Trying gives the name that is computed, and gives nothing else. -/
theorem nameGiven_iff {location base name : String} {taken after : List String}
    {warnings : List Warning} :
    NameGiven location base taken name after warnings ↔
      name = freshName taken base ∧ after = taken ++ [name] ∧
        warnings = renameWarnings location base name := by
  by_cases hbase : base ∈ taken
  · obtain ⟨n, hleast, hname, -⟩ := exists_isLeast_freeNumbers hbase
    have hwarnings : renameWarnings location base (numbered base n) =
        [⟨location, .renamed base (numbered base n)⟩] :=
      if_neg (numbered_ne_base base n)
    constructor
    · rintro (hnew | ⟨hold, hsearch⟩)
      · exact absurd hbase (insertName_eq_true_iff.mp hnew).1
      · obtain ⟨-, rfl⟩ := insertName_eq_false_iff.mp hold
        obtain ⟨rfl, rfl⟩ := (searchEnds_iff hleast).mp hsearch
        exact ⟨hname.symm, rfl, hwarnings.symm⟩
    · rintro ⟨rfl, rfl, rfl⟩
      rw [hname, hwarnings]
      exact .searched (insertName_eq_false_iff.mpr ⟨hbase, rfl⟩)
        (searchEnds_of_isLeast hleast)
  · have hname : freshName taken base = base := freshName_of_not_mem hbase
    have hwarnings : renameWarnings location base base = [] := if_pos rfl
    constructor
    · rintro (hnew | ⟨hold, -⟩)
      · obtain ⟨-, rfl⟩ := insertName_eq_true_iff.mp hnew
        exact ⟨hname.symm, rfl, hwarnings.symm⟩
      · exact absurd (insertName_eq_false_iff.mp hold).1 hbase
    · rintro ⟨rfl, rfl, rfl⟩
      rw [hname, hwarnings]
      exact .kept (insertName_eq_true_iff.mpr ⟨hbase, rfl⟩)

/-- Whatever names are taken, giving a name comes to an end, in one way only.
The name is new and is all that is added to the taken ones.  It is kept if it is
free, without a warning; else it gets the least free number from two on, which
is at most one more than the number of different names, with one warning. -/
theorem naming_ends_at_least_free_number (taken : List String)
    (location base : String) :
    ∃ name warnings,
      (∀ found after reports,
        NameGiven location base taken found after reports ↔
          found = name ∧ after = taken ++ [name] ∧ reports = warnings) ∧
        name = freshName taken base ∧
        warnings = renameWarnings location base name ∧
        name ∉ taken ∧ (name = base ↔ base ∉ taken) ∧
        (base ∈ taken →
          ∃ n, IsLeast {n | 2 ≤ n ∧ base ++ toString n ∉ taken} n ∧
            name = base ++ toString n ∧ n ≤ taken.toFinset.card + 1) ∧
        (name = base → warnings = []) ∧
        (name ≠ base → warnings = [⟨location, .renamed base name⟩]) := by
  have hleast := leastName_freshName taken base
  refine ⟨freshName taken base,
    renameWarnings location base (freshName taken base), ?_, rfl, rfl,
    hleast.not_mem, hleast.kept, exists_isLeast_freeNumbers,
    fun hsame => if_pos hsame, fun hdiffer => if_neg hdiffer⟩
  intro found after reports
  rw [nameGiven_iff]
  constructor <;> rintro ⟨rfl, rfl, rfl⟩ <;> exact ⟨rfl, rfl, rfl⟩

/-- A name is taken together with one of its numbered forms and with one that
leaves a gap. -/
theorem naming_ends_at_least_free_number_gap :
    (∃ n, IsLeast {n | 2 ≤ n ∧ "A" ++ toString n ∉ ["A", "A2", "B", "A4"]} n ∧
      "A3" = "A" ++ toString n ∧ n ≤ 5) ∧
    NameGiven "x" "A" ["A", "A2", "B", "A4"] "A3" ["A", "A2", "B", "A4", "A3"]
      [⟨"x", .renamed "A" "A3"⟩] := by
  obtain ⟨name, warnings, hgiven, hname, hwarnings, -, -, hnumber, -⟩ :=
    naming_ends_at_least_free_number ["A", "A2", "B", "A4"] "x" "A"
  obtain rfl : name = "A3" := hname.trans (by decide)
  obtain rfl : warnings = [⟨"x", .renamed "A" "A3"⟩] :=
    hwarnings.trans (if_neg (by decide))
  exact ⟨hnumber (by decide), (hgiven _ _ _).mpr ⟨rfl, rfl, rfl⟩⟩

/-! ## One name after the other -/

/-- Parameters get their names one after the other, each beside the names that
are left by the one before it. -/
inductive ParametersNamed (location : String) :
    List String → List Parameter → List Parameter → List String → List Warning →
      Prop where
  | nil {taken : List String} : ParametersNamed location taken [] [] taken []
  | cons {taken between after : List String} {parameter : Parameter}
      {rest named : List Parameter} {name : String}
      {warnings others : List Warning}
      (hname : NameGiven (location ++ ".parameters." ++ parameter.originalName)
        parameter.name taken name between warnings)
      (hrest : ParametersNamed location between rest named after others) :
      ParametersNamed location taken (parameter :: rest)
        ({ parameter with name := name } :: named) after (warnings ++ others)

/-- The names of the parameters of an operation are those that are found by
trying. -/
theorem parametersNamed_iff {location : String} {taken after : List String}
    {parameters named : List Parameter} {warnings : List Warning} :
    ParametersNamed location taken parameters named after warnings ↔
      named = (renameParameters location taken parameters).result ∧
        warnings = (renameParameters location taken parameters).warnings ∧
        after = taken ++ named.map (·.name) := by
  constructor
  · intro hnamed
    induction hnamed with
    | nil => simp [renameParameters]
    | cons hname hrest ih =>
        obtain ⟨rfl, rfl, rfl⟩ := nameGiven_iff.mp hname
        obtain ⟨rfl, rfl, rfl⟩ := ih
        simp [renameParameters]
  · rintro ⟨rfl, rfl, rfl⟩
    induction parameters generalizing taken with
    | nil => simpa [renameParameters] using ParametersNamed.nil
    | cons parameter rest ih =>
        have hrest := @ih (taken ++ [freshName taken parameter.name])
        rw [List.append_assoc] at hrest
        exact .cons (nameGiven_iff.mpr ⟨rfl, rfl, rfl⟩) hrest

end Api
end ApiClientGen
