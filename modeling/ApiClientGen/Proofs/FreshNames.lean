import ApiClientGen.Api.FreshName
import Mathlib.Data.List.Nodup
import Mathlib.Data.List.Perm.Subperm

/-!
# The least name that is not taken

The search for a free number stops within as many steps as there are taken
names.  This is a counting argument: the numbered names are distinct from each
other and from the name itself, so they cannot all be taken together with it.
-/

namespace ApiClientGen
namespace Api

/-! ## Numbered names -/

/-- The number can be read off behind the name. -/
theorem numbered_injective (base : String) :
    Function.Injective (numbered base) := by
  intro m n heq
  have happend :
      base.toList ++ Nat.toDigits 10 m = base.toList ++ Nat.toDigits 10 n := by
    simpa [numbered, Nat.toString_eq_ofList_toDigits]
      using congrArg String.toList heq
  have hdigits : Nat.toDigits 10 m = Nat.toDigits 10 n :=
    List.append_cancel_left happend
  calc
    m = Nat.ofDigitChars 10 (Nat.toDigits 10 m) 0 :=
      Nat.ofDigitChars_ten_toDigits.symm
    _ = Nat.ofDigitChars 10 (Nat.toDigits 10 n) 0 := by rw [hdigits]
    _ = n := Nat.ofDigitChars_ten_toDigits

theorem numbered_ne_base (base : String) (n : ℕ) : numbered base n ≠ base := by
  intro heq
  have happend : base.toList ++ Nat.toDigits 10 n = base.toList ++ [] := by
    simpa [numbered, Nat.toString_eq_ofList_toDigits]
      using congrArg String.toList heq
  exact Nat.toDigits_ne_nil (List.append_cancel_left happend)

/-- Next to a taken name, one of as many numbers as there are taken names is
free.  Otherwise the name and its numbered forms would be distinct taken names,
one more than there are. -/
theorem exists_free_number {taken : List String} {base : String}
    (hbase : base ∈ taken) :
    ∃ i < taken.length, numbered base (i + 2) ∉ taken := by
  by_contra hall
  push Not at hall
  let candidates := (List.range taken.length).map fun i => numbered base (i + 2)
  have hdistinct : (base :: candidates).Nodup := by
    rw [List.nodup_cons]
    constructor
    · intro hmem
      obtain ⟨i, -, hi⟩ := List.mem_map.mp hmem
      exact numbered_ne_base base (i + 2) hi
    · apply List.Nodup.map _ List.nodup_range
      intro i j hij
      have hnumber : i + 2 = j + 2 := numbered_injective base hij
      omega
  have htaken : base :: candidates ⊆ taken := by
    intro name hname
    rcases List.mem_cons.mp hname with rfl | hname
    · exact hbase
    · obtain ⟨i, hi, rfl⟩ := List.mem_map.mp hname
      exact hall i (List.mem_range.mp hi)
  have hlength := (hdistinct.subperm htaken).length_le
  have hcount : candidates.length = taken.length := by simp [candidates]
  rw [List.length_cons, hcount] at hlength
  omega

/-! ## The name that is given -/

/-- What a name becomes beside the names that are taken: it is kept exactly if
it is free, and gets the least free number from two on if it is not. -/
structure LeastName (taken : List String) (base name : String) : Prop where
  kept : name = base ↔ base ∉ taken
  least : base ∈ taken →
    ∃ n, 2 ≤ n ∧ name = numbered base n ∧ numbered base n ∉ taken ∧
      ∀ m, 2 ≤ m → m < n → numbered base m ∈ taken

theorem LeastName.not_mem {taken : List String} {base name : String}
    (hname : LeastName taken base name) : name ∉ taken := by
  by_cases hbase : base ∈ taken
  · obtain ⟨n, -, rfl, hfree, -⟩ := hname.least hbase
    exact hfree
  · rwa [hname.kept.mpr hbase]

theorem LeastName.eq_or_numbered {taken : List String} {base name : String}
    (hname : LeastName taken base name) :
    name = base ∨ ∃ n, name = numbered base n := by
  by_cases hbase : base ∈ taken
  · obtain ⟨n, -, hn, -⟩ := hname.least hbase
    exact Or.inr ⟨n, hn⟩
  · exact Or.inl (hname.kept.mpr hbase)

theorem freshName_of_not_mem {taken : List String} {base : String}
    (hbase : base ∉ taken) :
    freshName taken base = base := by
  simp [freshName, hbase]

/-- Beside a taken name, the search ends at the least free number. -/
theorem exists_freshName_eq_numbered {taken : List String} {base : String}
    (hbase : base ∈ taken) :
    ∃ n, 2 ≤ n ∧ freshName taken base = numbered base n ∧
      numbered base n ∉ taken ∧
        ∀ m, 2 ≤ m → m < n → numbered base m ∈ taken := by
  cases hfind : (List.range taken.length).find? fun i =>
    !taken.contains (numbered base (i + 2)) with
  | none =>
      obtain ⟨i, hi, hfree⟩ := exists_free_number hbase
      have htaken := List.find?_range_eq_none.mp hfind i hi
      simp [hfree] at htaken
  | some i =>
      obtain ⟨hfree, -, hbelow⟩ := List.find?_range_eq_some.mp hfind
      refine ⟨i + 2, by omega, ?_, by simpa using hfree, ?_⟩
      · rw [freshName, if_pos (List.contains_iff_mem.mpr hbase), hfind]
      · intro m hm hmi
        obtain ⟨j, rfl⟩ : ∃ j, m = j + 2 := ⟨m - 2, by omega⟩
        simpa using hbelow j (by omega)

theorem leastName_freshName (taken : List String) (base : String) :
    LeastName taken base (freshName taken base) := by
  by_cases hbase : base ∈ taken
  · have hleast := exists_freshName_eq_numbered hbase
    refine ⟨?_, fun _ => hleast⟩
    obtain ⟨n, -, hn, -⟩ := hleast
    simp [hn, numbered_ne_base, hbase]
  · exact ⟨by simp [freshName_of_not_mem, hbase], fun h => (hbase h).elim⟩

/-- Distinct names stay distinct with the name that is given beside them. -/
theorem nodup_append_freshName {taken : List String} (htaken : taken.Nodup)
    (base : String) :
    (taken ++ [freshName taken base]).Nodup := by
  rw [List.nodup_append]
  refine ⟨htaken, List.nodup_singleton _, ?_⟩
  rintro name hname _ hlast rfl
  exact (leastName_freshName taken base).not_mem
    (List.mem_singleton.mp hlast ▸ hname)

end Api
end ApiClientGen
