import ApiClientGen.ClientCode.Lexical
import Mathlib.Data.List.Basic

/-!
# Escaped texts

A text is escaped character by character, and a reader takes one escape after
the other off its front.  A reader that undoes each single escape undoes them
all, and whatever stands in an escaped text stands in the escape of one
character.  Escaping in one pass is the same as replacing one special character
after the other, as long as the character that begins the escapes is replaced
first.
-/

namespace ApiClientGen
namespace ClientCode

variable {write : Char → List Char}

def replaceChar (special : Char) (text cs : List Char) : List Char :=
  cs.flatMap fun c => if c = special then text else [c]

/-- A replacement and a pass that follows it are one pass. -/
theorem flatMap_replaceChar (special : Char) (text cs : List Char) :
    (replaceChar special text cs).flatMap write =
      cs.flatMap fun c =>
        if c = special then text.flatMap write else write c := by
  rw [replaceChar, List.flatMap_assoc]
  apply List.flatMap_congr
  intro c _
  split
  · rfl
  · exact List.flatMap_singleton ..

/-- A reader that takes off one written item takes off all of them, and `push`
collects what it reads. -/
theorem read_flatMap {α β γ : Type} {write : β → List γ}
    {read : List γ → Option α} {push : β → α → α}
    (hread :
      ∀ item rest, read (write item ++ rest) = (read rest).map (push item))
    (items : List β) (rest : List γ) :
    read (items.flatMap write ++ rest) =
      (read rest).map fun tail => items.foldr push tail := by
  induction items with
  | nil => simp
  | cons item items ih =>
      rw [List.flatMap_cons, List.append_assoc, hread, ih, Option.map_map]
      rfl

/-- A character of a written text belongs to what is written for one
character. -/
theorem exists_of_flatMap_eq_append_cons {cs front back : List Char} {d : Char}
    (hsplit : cs.flatMap write = front ++ d :: back) :
    ∃ before c after left right,
      cs = before ++ c :: after ∧ write c = left ++ d :: right ∧
        front = before.flatMap write ++ left ∧
        back = right ++ after.flatMap write := by
  induction cs generalizing front with
  | nil => simp at hsplit
  | cons c cs ih =>
      rw [List.flatMap_cons, List.append_eq_append_iff] at hsplit
      rcases hsplit with ⟨later, rfl, hlater⟩ | ⟨right, hwrite, hright⟩
      · obtain ⟨before, e, after, left, right, rfl, hwrite, rfl, rfl⟩ :=
          ih hlater
        exact ⟨c :: before, e, after, left, right, rfl, hwrite, by simp, rfl⟩
      · cases right with
        | nil =>
            have hrest : cs.flatMap write = [] ++ d :: back := hright.symm
            obtain ⟨before, e, after, left, right, rfl, hchar, hleft, rfl⟩ :=
              ih hrest
            exact ⟨c :: before, e, after, left, right, rfl, hchar,
              by simpa [hwrite] using hleft, rfl⟩
        | cons e right =>
            obtain ⟨rfl, rfl⟩ := List.cons_eq_cons.mp hright
            exact ⟨[], c, cs, front, right, rfl, hwrite, rfl, rfl⟩

/-! ## Literals and comments -/

/-- Replacing backslashes first and quotes then escapes a text for a literal. -/
theorem literalText_eq_replaceChar (text : String) :
    literalText text =
      String.ofList (replaceChar '"' ['\\', '"']
        (replaceChar '\\' ['\\', '\\'] text.toList)) := by
  rw [literalText, replaceChar, flatMap_replaceChar]
  rfl

/-- Replacing ampersands first and the two brackets then escapes a text for a
comment. -/
theorem commentText_eq_replaceChar (text : String) :
    commentText text =
      String.ofList
        (replaceChar '>' "&gt;".toList (replaceChar '<' "&lt;".toList
          (replaceChar '&' "&amp;".toList
            (Text.joinWith [' '] (Text.words text.toList))))) := by
  rw [commentText, replaceChar, flatMap_replaceChar, flatMap_replaceChar]
  rfl

end ClientCode
end ApiClientGen
