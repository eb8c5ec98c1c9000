import ApiClientGen.Proofs.Escapes
import Mathlib.Algebra.Ring.Parity
import Mathlib.Data.List.Induction

/-!
# Reading string literals

A reader for regular string literals, from behind the opening quote on.  It
knows the two escapes that are written, and it ends at the first quote that is
not escaped.  It reads every text back that has been written into a literal, and
stops exactly at the quote that was put behind the text.
-/

namespace ApiClientGen
namespace ClientCode

/-- Reads a string literal up to its closing quote, and gives the text and what
stands behind the quote. -/
def readLiteral : List Char → Option (List Char × List Char)
  | [] => none
  | '"' :: rest => some ([], rest)
  | '\\' :: '\\' :: rest =>
    (readLiteral rest).map fun found => ('\\' :: found.1, found.2)
  | '\\' :: '"' :: rest =>
    (readLiteral rest).map fun found => ('"' :: found.1, found.2)
  | c :: rest =>
    if c = '\\' then none
    else (readLiteral rest).map fun found => (c :: found.1, found.2)

example : readLiteral "a\\\\\\\"b\");".toList =
    some ("a\\\"b".toList, ");".toList) := by decide

theorem literalChar_of_ne {c : Char} (hbackslash : c ≠ '\\')
    (hquote : c ≠ '"') : literalChar c = [c] := by
  simp [literalChar, hbackslash, hquote]

/-- A character comes back from its escaped form, whatever follows. -/
theorem readLiteral_literalChar (c : Char) (rest : List Char) :
    readLiteral (literalChar c ++ rest) =
      (readLiteral rest).map fun found => (c :: found.1, found.2) := by
  by_cases hbackslash : c = '\\'
  · subst c
    simp [literalChar, readLiteral]
  by_cases hquote : c = '"'
  · subst c
    simp [literalChar, readLiteral]
  · rw [literalChar_of_ne hbackslash hquote, List.singleton_append]
    simp [readLiteral, hbackslash]

/-- The literal of a text ends where its quote was put. -/
theorem readLiteral_flatMap_literalChar (cs rest : List Char) :
    readLiteral (cs.flatMap literalChar ++ '"' :: rest) = some (cs, rest) := by
  rw [read_flatMap readLiteral_literalChar]
  have hfoldr : ∀ found : List Char × List Char,
      cs.foldr (fun c tail => (c :: tail.1, tail.2)) found =
        (cs ++ found.1, found.2) := by
    intro found
    induction cs with
    | nil => rfl
    | cons c cs ih => rw [List.foldr_cons, ih]; rfl
  simp [readLiteral, hfoldr]

/-- Nothing but the written form of a text is read as that text. -/
theorem eq_of_readLiteral_eq_some {input cs rest : List Char}
    (hread : readLiteral input = some (cs, rest)) :
    input = cs.flatMap literalChar ++ '"' :: rest := by
  fun_induction readLiteral input generalizing cs with
  | case1 => cases hread
  | case2 rest =>
      obtain ⟨rfl, rfl⟩ := Prod.mk.inj (Option.some.inj hread)
      rfl
  | case3 input ih =>
      obtain ⟨found, hfound, heq⟩ := Option.map_eq_some_iff.mp hread
      obtain ⟨rfl, rfl⟩ := Prod.mk.inj heq
      rw [ih hfound]
      rfl
  | case4 input ih =>
      obtain ⟨found, hfound, heq⟩ := Option.map_eq_some_iff.mp hread
      obtain ⟨rfl, rfl⟩ := Prod.mk.inj heq
      rw [ih hfound]
      rfl
  | case5 => cases hread
  | case6 c input hquote hescaped hmarked hbackslash ih =>
      obtain ⟨found, hfound, heq⟩ := Option.map_eq_some_iff.mp hread
      obtain ⟨rfl, rfl⟩ := Prod.mk.inj heq
      rw [ih hfound, List.flatMap_cons, literalChar_of_ne hbackslash hquote]
      rfl

theorem readLiteral_eq_some_iff {input cs rest : List Char} :
    readLiteral input = some (cs, rest) ↔
      input = cs.flatMap literalChar ++ '"' :: rest :=
  ⟨eq_of_readLiteral_eq_some,
    fun hinput => hinput ▸ readLiteral_flatMap_literalChar cs rest⟩

/-! ## Runs of backslashes -/

/-- The number of backslashes at the end of a text.  A quote behind them is
escaped if it is odd. -/
def closingBackslashes (cs : List Char) : ℕ :=
  (cs.reverse.takeWhile (· == '\\')).length

theorem closingBackslashes_concat (cs : List Char) (c : Char) :
    closingBackslashes (cs ++ [c]) =
      if c = '\\' then closingBackslashes cs + 1 else 0 := by
  by_cases hc : c = '\\' <;> simp [closingBackslashes, hc]

theorem closingBackslashes_append_literalChar (cs : List Char) (c : Char) :
    closingBackslashes (cs ++ literalChar c) =
      if c = '\\' then closingBackslashes cs + 2 else 0 := by
  by_cases hbackslash : c = '\\'
  · simp [closingBackslashes, literalChar, hbackslash]
  by_cases hquote : c = '"'
  · simp [closingBackslashes, literalChar, hquote]
  · rw [literalChar_of_ne hbackslash hquote, closingBackslashes_concat]
    simp [hbackslash]

/-- No backslash at the end of an escaped text is without the character that it
escapes. -/
theorem even_closingBackslashes (cs : List Char) :
    Even (closingBackslashes (cs.flatMap literalChar)) := by
  induction cs using List.reverseRecOn with
  | nil => exact Even.zero
  | append_singleton cs c ih =>
      rw [List.flatMap_append, List.flatMap_singleton,
        closingBackslashes_append_literalChar]
      split
      · exact ih.add even_two
      · exact Even.zero

/-- Every quote of an escaped text is escaped, however many backslashes stand
before it. -/
theorem odd_closingBackslashes {cs front back : List Char}
    (hquote : cs.flatMap literalChar = front ++ '"' :: back) :
    Odd (closingBackslashes front) := by
  obtain ⟨before, c, -, left, right, -, hchar, rfl, -⟩ :=
    exists_of_flatMap_eq_append_cons hquote
  have hleft : left = ['\\'] := by
    by_cases hbackslash : c = '\\'
    · simp [literalChar, hbackslash, List.cons_eq_append_iff] at hchar
    by_cases hmark : c = '"'
    · have hpair : left = ['\\'] ∧ right = [] := by
        simpa [literalChar, hmark, List.cons_eq_append_iff] using hchar
      exact hpair.1
    · rw [literalChar_of_ne hbackslash hmark] at hchar
      have hsame : left = [] ∧ '"' = c ∧ right = [] := by
        simpa [List.cons_eq_append_iff] using hchar
      exact absurd hsame.2.1.symm hmark
  rw [hleft, closingBackslashes_concat, if_pos rfl]
  exact (even_closingBackslashes before).add_one

end ClientCode
end ApiClientGen
