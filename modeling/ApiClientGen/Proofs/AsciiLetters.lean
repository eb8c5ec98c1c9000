import ApiClientGen.Text.Alphabetic
import ApiClientGen.Text.CaseMap
import Mathlib.Data.List.Basic

/-!
# Letters and digits below 128

Below 128 the tables of Unicode say what the classes of ASCII say: the letters
and numbers are `A` to `Z`, `a` to `z` and `0` to `9`, and a case mapping moves
a letter by 32.  The tables ascend, so only their first entries matter.
-/

namespace ApiClientGen
namespace Text

/-- What is checked for the code points below 128 holds of the characters. -/
theorem ascii_induction {p : Char → Prop} (hp : ∀ n < 128, p (Char.ofNat n))
    (c : Char) (hc : c.toNat < 128) : p c := by
  have hchar := hp c.toNat hc
  rwa [Char.ofNat_toNat] at hchar

section Casing

variable {c : Char}

theorem toLower_toLower_of_lt (hc : c.toNat < 128) :
    c.toLower.toLower = c.toLower :=
  ascii_induction (p := fun c => c.toLower.toLower = c.toLower)
    (by decide +kernel) c hc

theorem toLower_toUpper_of_lt (hc : c.toNat < 128) :
    c.toUpper.toLower = c.toLower :=
  ascii_induction (p := fun c => c.toUpper.toLower = c.toLower)
    (by decide +kernel) c hc

theorem toLower_of_le (hc : 128 ≤ c.toNat) : c.toLower = c := by
  refine dif_neg ?_
  rintro ⟨-, hupper⟩
  have hle : c.toNat ≤ 90 := UInt32.le_iff_toNat_le.mp hupper
  omega

/-- Only a letter of ASCII changes its case, and it stays a letter. -/
theorem isAlphanum_toLower (c : Char) :
    c.toLower.isAlphanum = c.isAlphanum := by
  by_cases hc : c.toNat < 128
  · exact ascii_induction (p := fun c => c.toLower.isAlphanum = c.isAlphanum)
      (by decide +kernel) c hc
  · rw [toLower_of_le (by omega)]

theorem isLower_or_isDigit_toLower (hc : c.toNat < 128)
    (halphanum : c.isAlphanum = true) :
    c.toLower.isLower = true ∨ c.toLower.isDigit = true :=
  ascii_induction
    (p := fun c => c.isAlphanum = true →
      c.toLower.isLower = true ∨ c.toLower.isDigit = true)
    (by decide +kernel) c hc halphanum

end Casing

theorem isAlphanumeric_of_lt {c : Char} (hc : c.toNat < 128) :
    isAlphanumeric c = c.isAlphanum :=
  ascii_induction (p := fun c => isAlphanumeric c = c.isAlphanum)
    (by decide +kernel) c hc

/-- If only the first run of a mapping holds characters below 128, that run is
the mapping there. -/
theorem mapCase_of_lt {expansions : List (ℕ × List ℕ)} {first : CaseRun}
    {others : List CaseRun} {letter : Char → Char}
    (hexpansions : ∀ expansion ∈ expansions, 128 ≤ expansion.1)
    (hothers : ∀ run ∈ others, 128 ≤ run.first)
    (hfirst : ∀ c : Char,
      c.toNat < 128 → ((first.image? c.toNat).map Char.ofNat).getD c = letter c)
    {c : Char} (hc : c.toNat < 128) :
    mapCase expansions (first :: others) c = [letter c] := by
  have hlookup : expansions.lookup c.toNat = none := by
    rw [List.lookup_eq_none_iff]
    intro expansion hexpansion
    have hlarge := hexpansions expansion hexpansion
    rw [bne_iff_ne]
    omega
  have hnone : others.findSome? (·.image? c.toNat) = none := by
    rw [List.findSome?_eq_none_iff]
    intro run hrun
    have hlarge := hothers run hrun
    have hbelow : ¬ run.first ≤ c.toNat := by omega
    simp [CaseRun.image?, hbelow]
  rw [mapCase, hlookup, List.findSome?_cons, ← hfirst c hc]
  cases first.image? c.toNat with
  | none => simp [hnone]
  | some image => rfl

theorem lowerChar_of_lt {c : Char} (hc : c.toNat < 128) :
    lowerChar c = [c.toLower] :=
  mapCase_of_lt (by decide +kernel) (by decide +kernel)
    (ascii_induction (by decide +kernel)) hc

theorem upperChar_of_lt {c : Char} (hc : c.toNat < 128) :
    upperChar c = [c.toUpper] :=
  mapCase_of_lt (by decide +kernel) (by decide +kernel)
    (ascii_induction (by decide +kernel)) hc

end Text
end ApiClientGen
