import ApiClientGen.ClientCode.RequestPath
import ApiClientGen.Proofs.Escapes

/-!
# Reading interpolated strings

A reader for the text between the quotes of `$"..."`.  It knows the four escapes
that a path needs and holes between single braces, and it refuses every text
that would end the string early or leave a brace unbalanced.  Nothing of it is
used to write a path, so what it finds in a written path is a property of the
writer.
-/

namespace ApiClientGen
namespace ClientCode

open PathTemplate (behind?)

/-- One piece of an interpolated string: a character, or a hole with the
identifier in it. -/
inductive Piece where
  | char (c : Char)
  | hole (name : String)
deriving Repr, DecidableEq

mutual

/-- Reads the text of an interpolated string from left to right. -/
def readPieces : List Char → Option (List Piece)
  | [] => some []
  | '{' :: '{' :: rest => (readPieces rest).map (.char '{' :: ·)
  | '}' :: '}' :: rest => (readPieces rest).map (.char '}' :: ·)
  | '\\' :: '\\' :: rest => (readPieces rest).map (.char '\\' :: ·)
  | '\\' :: '"' :: rest => (readPieces rest).map (.char '"' :: ·)
  | '{' :: rest => readHole [] rest
  | c :: rest =>
    if c = '}' || c = '\\' || c = '"' then none
    else (readPieces rest).map (.char c :: ·)

/-- Reads a hole from its first character on, given the characters already read,
last first. -/
def readHole (name : List Char) : List Char → Option (List Piece)
  | [] => none
  | c :: rest =>
    if c = '}' then
      if name.isEmpty then none
      else (readPieces rest).map (.hole (String.ofList name.reverse) :: ·)
    else if c = '{' || c = '\\' || c = '"' then none
    else readHole (c :: name) rest

end

example : readPieces "\x7d\x7d\x7bid\x7d\\\"".toList =
    some [.char '}', .hole "id", .char '"'] := by decide

/-- The characters that cannot stand in a hole, and the mark of a reserved
word. -/
def holeBreakers : List Char :=
  ['{', '}', '"', '\\', '@']

/-- A name that can be written in a hole, with or without the mark of a reserved
word. -/
def FitsHole (name : String) : Prop :=
  name ≠ "" ∧ ∀ c ∈ name.toList, c ∉ holeBreakers

instance (name : String) : Decidable (FitsHole name) :=
  @instDecidableAnd _ _ _
    (List.decidableBAll (fun c => c ∉ holeBreakers) name.toList)

/-! ## Reading what was written -/

/-- A character comes back from its escaped form, whatever follows. -/
theorem readPieces_interpolatedChar (c : Char) (rest : List Char) :
    readPieces (interpolatedChar c ++ rest) =
      (readPieces rest).map (.char c :: ·) := by
  by_cases hopen : c = '{'
  · subst c
    simp [interpolatedChar, readPieces]
  by_cases hclose : c = '}'
  · subst c
    simp [interpolatedChar, readPieces]
  by_cases hquote : c = '"'
  · subst c
    simp [interpolatedChar, readPieces]
  by_cases hback : c = '\\'
  · subst c
    simp [interpolatedChar, readPieces]
  · have hplain : interpolatedChar c = [c] := by
      simp [interpolatedChar, hopen, hclose, hquote, hback]
    rw [hplain, List.singleton_append]
    simp [readPieces, hopen, hclose, hquote, hback]

theorem readPieces_flatMap_interpolatedChar (text rest : List Char) :
    readPieces (text.flatMap interpolatedChar ++ rest) =
      (readPieces rest).map (text.map Piece.char ++ ·) := by
  have hread := read_flatMap readPieces_interpolatedChar text rest
  simpa only [List.foldr_cons_eq_append] using hread

/-! ## Identifiers in holes -/

theorem identifier_eq_or (name : String) :
    identifier name = name ∨ identifier name = "@" ++ name := by
  unfold identifier
  split
  · exact Or.inr rfl
  · exact Or.inl rfl

/-- Without a mark of its own, a name can be told from its identifier. -/
theorem eq_of_identifier_eq {name other : String}
    (hname : '@' ∉ name.toList) (hother : '@' ∉ other.toList)
    (heq : identifier name = identifier other) : name = other := by
  have hlist := congrArg String.toList heq
  rcases identifier_eq_or name with hn | hn <;>
    rcases identifier_eq_or other with ho | ho
  · rw [hn, ho] at heq
    exact heq
  · rw [hn, ho, String.toList_append] at hlist
    exact (hname (by simp [hlist])).elim
  · rw [hn, ho, String.toList_append] at hlist
    exact (hother (by simp [← hlist])).elim
  · rw [hn, ho, String.toList_append, String.toList_append] at hlist
    exact String.toList_inj.mp (List.append_cancel_left hlist)

theorem FitsHole.not_mem_at {name : String} (hname : FitsHole name) :
    '@' ∉ name.toList :=
  fun hat => hname.2 '@' hat (by decide)

theorem FitsHole.identifier_ne_nil {name : String} (hname : FitsHole name) :
    (identifier name).toList ≠ [] := by
  have hne : name.toList ≠ [] := fun hnil =>
    hname.1 (String.toList_eq_nil_iff.mp hnil)
  rcases identifier_eq_or name with h | h
  · rwa [h]
  · simp [h]

/-- No character of the identifier of a name that fits into a hole ends the hole
or the string. -/
theorem FitsHole.mem_identifier {name : String} (hname : FitsHole name)
    {c : Char} (hc : c ∈ (identifier name).toList) :
    c ≠ '{' ∧ c ≠ '}' ∧ c ≠ '\\' ∧ c ≠ '"' := by
  have hcases : c = '@' ∨ c ∈ name.toList := by
    rcases identifier_eq_or name with h | h
    · exact Or.inr (by rwa [h] at hc)
    · simpa [h] using hc
  rcases hcases with rfl | hmem
  · decide
  · have hbreak := hname.2 c hmem
    simp only [holeBreakers, List.mem_cons, List.not_mem_nil, or_false,
      not_or] at hbreak
    exact ⟨hbreak.1, hbreak.2.1, hbreak.2.2.2.1, hbreak.2.2.1⟩

/-- Inside a hole, harmless characters are collected up to the closing brace. -/
theorem readHole_append (name : List Char) {word rest : List Char}
    (hword : ∀ c ∈ word, c ≠ '{' ∧ c ≠ '}' ∧ c ≠ '\\' ∧ c ≠ '"')
    (hne : name.reverse ++ word ≠ []) :
    readHole name (word ++ '}' :: rest) =
      (readPieces rest).map
        (.hole (String.ofList (name.reverse ++ word)) :: ·) := by
  induction word generalizing name with
  | nil =>
      have hname : name ≠ [] := by simpa using hne
      simp [readHole, hname]
  | cons c word ih =>
      obtain ⟨hopen, hclose, hback, hquote⟩ := hword c (List.mem_cons_self ..)
      have hrest : ∀ d ∈ word, d ≠ '{' ∧ d ≠ '}' ∧ d ≠ '\\' ∧ d ≠ '"' :=
        fun d hd => hword d (List.mem_cons_of_mem c hd)
      rw [List.cons_append, readHole]
      simp only [hopen, hclose, hback, hquote, if_false, decide_false,
        Bool.or_false, Bool.false_eq_true]
      rw [ih (c :: name) hrest (by simp)]
      simp

theorem readPieces_hole {name : String} (hname : FitsHole name)
    (rest : List Char) :
    readPieces ('{' :: (identifier name).toList ++ '}' :: rest) =
      (readPieces rest).map (.hole (identifier name) :: ·) := by
  have hchars : ∀ c ∈ (identifier name).toList,
      c ≠ '{' ∧ c ≠ '}' ∧ c ≠ '\\' ∧ c ≠ '"' :=
    fun c hc => hname.mem_identifier hc
  have hread : readHole [] ((identifier name).toList ++ '}' :: rest) =
      (readPieces rest).map (.hole (identifier name) :: ·) := by
    simpa using
      readHole_append [] hchars (by simpa using hname.identifier_ne_nil)
  cases hlist : (identifier name).toList with
  | nil => exact (hname.identifier_ne_nil hlist).elim
  | cons first others =>
      have hfirst : first ≠ '{' := (hchars first (by simp [hlist])).1
      have hopen : readPieces ('{' :: first :: (others ++ '}' :: rest)) =
          readHole [] (first :: (others ++ '}' :: rest)) := by
        simp [readPieces, hfirst]
      rw [hlist, List.cons_append] at hread
      rw [List.cons_append, List.cons_append, hopen, hread]

end ClientCode
end ApiClientGen
