import ApiClientGen.Text.Blank
import Mathlib.Data.List.Basic

/-!
# Pieces of a text

Cutting a text is the splitting of the library, so what is known of the latter
holds of pieces: a cut divides them, a text without a cut is one piece, and all
pieces together are the text without its cuts.
-/

namespace ApiClientGen
namespace Text

/-- A list that is divided at two places which hold `c` is divided at one place,
or one of them comes first. -/
theorem append_cons_cases {α : Type} {c : α} {front other back rest : List α}
    (heq : front ++ c :: back = other ++ c :: rest) :
    (front = other ∧ back = rest) ∨
      (∃ between, other = front ++ c :: between ∧ back = between ++ c :: rest) ∨
      ∃ between,
        front = other ++ c :: between ∧ rest = between ++ c :: back := by
  rcases List.append_eq_append_iff.mp heq with
    ⟨between, rfl, hsplit⟩ | ⟨between, rfl, hsplit⟩
  · rcases List.cons_eq_append_iff.mp hsplit with
      ⟨rfl, hsame⟩ | ⟨between, rfl, hback⟩
    · exact Or.inl ⟨(List.append_nil front).symm, (List.cons.inj hsame).2.symm⟩
    · exact Or.inr (Or.inl ⟨between, rfl, hback⟩)
  · rcases List.cons_eq_append_iff.mp hsplit with
      ⟨rfl, hsame⟩ | ⟨between, rfl, hrest⟩
    · exact Or.inl ⟨List.append_nil other, (List.cons.inj hsame).2⟩
    · exact Or.inr (Or.inr ⟨between, rfl, hrest⟩)

variable {cut : Char → Bool}

theorem pieces_eq_splitOnP (cut : Char → Bool) (cs : List Char) :
    pieces cut cs = cs.splitOnP cut := by
  induction cs with
  | nil => rfl
  | cons c rest ih =>
      rw [pieces, List.splitOnP_cons_eq_if_modifyHead, ← ih]
      split
      · rfl
      · cases hrest : pieces cut rest with
        | nil => exact absurd (ih ▸ hrest) (List.splitOnP_ne_nil cut rest)
        | cons piece others => rfl

theorem pieces_ne_nil (cut : Char → Bool) (cs : List Char) :
    pieces cut cs ≠ [] := by
  rw [pieces_eq_splitOnP]
  exact List.splitOnP_ne_nil cut cs

theorem pieces_cons_of_not_cut {c : Char} {rest piece : List Char}
    {others : List (List Char)} (hc : cut c = false)
    (hrest : pieces cut rest = piece :: others) :
    pieces cut (c :: rest) = (c :: piece) :: others := by
  rw [pieces, if_neg (by simp [hc]), hrest]

/-- A cut divides the pieces into those before it and those behind it. -/
theorem pieces_append_cut {c : Char} (hc : cut c = true)
    (front back : List Char) :
    pieces cut (front ++ c :: back) = pieces cut front ++ pieces cut back := by
  simp only [pieces_eq_splitOnP]
  exact List.splitOnP_append_cons front back hc

theorem pieces_of_forall_not_cut {cs : List Char}
    (hcs : ∀ c ∈ cs, cut c = false) :
    pieces cut cs = [cs] := by
  rw [pieces_eq_splitOnP]
  exact List.splitOnP_eq_singleton hcs

/-- Nothing but the cuts is lost. -/
theorem flatten_pieces (cut : Char → Bool) (cs : List Char) :
    (pieces cut cs).flatten = cs.filter (!cut ·) := by
  induction cs with
  | nil => rfl
  | cons c rest ih =>
      by_cases hc : cut c = true
      · simp [pieces, hc, ih]
      · obtain ⟨piece, others, hrest⟩ :=
          List.exists_cons_of_ne_nil (pieces_ne_nil cut rest)
        rw [hrest] at ih
        rw [pieces_cons_of_not_cut (Bool.eq_false_iff.mpr hc) hrest]
        simpa [hc] using ih

theorem not_cut_of_mem_pieces {cs piece : List Char}
    (hpiece : piece ∈ pieces cut cs) {c : Char} (hc : c ∈ piece) :
    cut c = false := by
  have hkept := List.mem_flatten_of_mem hpiece hc
  rw [flatten_pieces] at hkept
  simpa using (List.mem_filter.mp hkept).2

/-- Texts that are ended one after the other are found again at the cuts, with
nothing behind the last one. -/
theorem map_pieces_join (hend : cut '\n' = true) {texts : List String}
    (htexts : ∀ text ∈ texts, ∀ c ∈ text.toList, cut c = false) :
    (pieces cut (String.join (texts.map (· ++ "\n"))).toList).map
      String.ofList = texts ++ [""] := by
  induction texts with
  | nil => rfl
  | cons text rest ih =>
      have htext : pieces cut text.toList = [text.toList] :=
        pieces_of_forall_not_cut (htexts text List.mem_cons_self)
      have hjoin : (String.join ((text :: rest).map (· ++ "\n"))).toList =
          text.toList ++
            '\n' :: (String.join (rest.map (· ++ "\n"))).toList := by
        simp
      rw [hjoin, pieces_append_cut hend, htext, List.map_append,
        ih fun other hother => htexts other (List.mem_cons_of_mem text hother)]
      simp

end Text
end ApiClientGen
