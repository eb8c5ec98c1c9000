import ApiClientGen.Proofs.Escapes
import ApiClientGen.Proofs.OneLineTexts
import ApiClientGen.Proofs.TextRuns

/-!
# Descriptions as comments

A description is written as one line of a documentation comment.  It is read
back here with a reader of XML that knows the three entities that are needed.
What is found are the words of the description with single blanks between them,
so nothing is lost but how the blanks were laid out; and the line holds nothing
that could end it or begin a tag.
-/

namespace ApiClientGen

namespace Text

/-! ## Words of a text -/

/-- The words of a text: its maximal parts without blanks, in order. -/
inductive WordsOf : List Char → List (List Char) → Prop where
  | nil : WordsOf [] []
  | blank {c : Char} {rest : List Char} {words : List (List Char)}
      (hc : isBlank c = true) (hrest : WordsOf rest words) :
      WordsOf (c :: rest) words
  | word {word rest : List Char} {words : List (List Char)} (hne : word ≠ [])
      (hword : ∀ c ∈ word, isBlank c = false)
      (hend : ∀ c ∈ rest.head?, isBlank c = true) (hrest : WordsOf rest words) :
      WordsOf (word ++ rest) (word :: words)

/-- Words are runs of characters that are not blank. -/
theorem wordsOf_iff_runsOf {cs : List Char} {ws : List (List Char)} :
    WordsOf cs ws ↔ RunsOf (!isBlank ·) cs ws := by
  constructor
  · intro hwords
    induction hwords with
    | nil => exact .nil
    | blank hc _ ih => exact .gap (by simp [hc]) ih
    | word hne hword hend _ ih =>
        exact .run hne (by simpa using hword) (by simpa using hend) ih
  · intro hruns
    induction hruns with
    | nil => exact .nil
    | gap hc _ ih => exact .blank (by simpa using hc) ih
    | run hne hrun hend _ ih =>
        exact .word hne (by simpa using hrun) (by simpa using hend) ih

theorem wordsOf_iff {cs : List Char} {ws : List (List Char)} :
    WordsOf cs ws ↔ words cs = ws := by
  have hwords : words cs = runs (!isBlank ·) cs := by simp [words, runs]
  rw [wordsOf_iff_runsOf, runsOf_iff, hwords]

theorem joinWith_eq_intercalate (separator : List Char)
    (parts : List (List Char)) :
    joinWith separator parts = separator.intercalate parts := by
  induction parts using joinWith.induct with
  | case1 => rfl
  | case2 piece => simp [joinWith]
  | case3 piece next others ih => rw [joinWith, ih, List.intercalate_cons_cons]

end Text

namespace ClientCode

open Text (WordsOf isBlank)

/-! ## Reading a comment -/

/-- Reads a text of XML without tags.  A bracket or an ampersand that begins no
entity makes it unreadable. -/
def readComment : List Char → Option (List Char)
  | [] => some []
  | '&' :: 'a' :: 'm' :: 'p' :: ';' :: rest => (readComment rest).map ('&' :: ·)
  | '&' :: 'l' :: 't' :: ';' :: rest => (readComment rest).map ('<' :: ·)
  | '&' :: 'g' :: 't' :: ';' :: rest => (readComment rest).map ('>' :: ·)
  | c :: rest =>
    if c = '&' || c = '<' || c = '>' then none
    else (readComment rest).map (c :: ·)

-- An entity is not read twice.
example :
    readComment "a &lt; &amp;lt;".toList = some "a < &lt;".toList := by decide

/-- A character comes back from its escaped form, whatever follows. -/
theorem readComment_commentChar (c : Char) (rest : List Char) :
    readComment (commentChar c ++ rest) = (readComment rest).map (c :: ·) := by
  by_cases hand : c = '&'
  · subst c
    simp [commentChar, readComment]
  by_cases hless : c = '<'
  · subst c
    simp [commentChar, readComment]
  by_cases hgreater : c = '>'
  · subst c
    simp [commentChar, readComment]
  · have hplain : commentChar c = [c] := by
      simp [commentChar, hand, hless, hgreater]
    rw [hplain, List.singleton_append]
    simp [readComment, hand, hless, hgreater]

theorem readComment_flatMap_commentChar (cs : List Char) :
    readComment (cs.flatMap commentChar) = some cs := by
  have hread := read_flatMap readComment_commentChar cs []
  simpa [readComment] using hread

/-- Nothing but the escaped form of a text is read as that text. -/
theorem eq_of_readComment_eq_some {input cs : List Char}
    (hread : readComment input = some cs) :
    input = cs.flatMap commentChar := by
  fun_induction readComment input generalizing cs with
  | case1 =>
      obtain rfl := Option.some.inj hread
      rfl
  | case2 rest ih =>
      obtain ⟨tail, htail, rfl⟩ := Option.map_eq_some_iff.mp hread
      rw [ih htail]
      rfl
  | case3 rest ih =>
      obtain ⟨tail, htail, rfl⟩ := Option.map_eq_some_iff.mp hread
      rw [ih htail]
      rfl
  | case4 rest ih =>
      obtain ⟨tail, htail, rfl⟩ := Option.map_eq_some_iff.mp hread
      rw [ih htail]
      rfl
  | case5 => cases hread
  | case6 c rest _ _ _ hplain ih =>
      obtain ⟨tail, htail, rfl⟩ := Option.map_eq_some_iff.mp hread
      rw [Bool.or_eq_true, Bool.or_eq_true] at hplain
      simp only [decide_eq_true_eq, not_or] at hplain
      rw [ih htail, List.flatMap_cons]
      simp [commentChar, hplain]

theorem readComment_eq_some_iff {input cs : List Char} :
    readComment input = some cs ↔ input = cs.flatMap commentChar :=
  ⟨eq_of_readComment_eq_some,
    fun hinput => hinput ▸ readComment_flatMap_commentChar cs⟩

/-! ## Characters of a comment -/

/-- The characters that end a line: the four of ASCII, the next-line character
and the separators of lines and paragraphs. -/
def lineTerminators : List Char :=
  ['\n', '\x0b', '\x0c', '\r', '\u0085', '\u2028', '\u2029']

/-- What follows the ampersand of an entity. -/
def entities : List String := ["amp;", "lt;", "gt;"]

theorem commentChar_cases (c : Char) :
    (∃ entity ∈ entities, commentChar c = '&' :: entity.toList) ∨
      (c ≠ '&' ∧ c ≠ '<' ∧ c ≠ '>' ∧ commentChar c = [c]) := by
  by_cases hand : c = '&'
  · exact Or.inl ⟨"amp;", by decide, by simp [commentChar, hand]⟩
  by_cases hless : c = '<'
  · exact Or.inl ⟨"lt;", by decide, by simp [commentChar, hless]⟩
  by_cases hgreater : c = '>'
  · exact Or.inl ⟨"gt;", by decide, by simp [commentChar, hgreater]⟩
  · exact Or.inr ⟨hand, hless, hgreater,
      by simp [commentChar, hand, hless, hgreater]⟩

/-- Every ampersand of an escaped text begins an entity. -/
theorem exists_entity {cs front back : List Char}
    (hsplit : cs.flatMap commentChar = front ++ '&' :: back) :
    ∃ entity ∈ entities, entity.toList <+: back := by
  obtain ⟨-, c, after, left, right, -, hchar, -, rfl⟩ :=
    exists_of_flatMap_eq_append_cons hsplit
  rcases commentChar_cases c with ⟨entity, hentity, hc⟩ | ⟨hand, -, -, hc⟩
  · rw [hc, List.cons_eq_append_iff] at hchar
    rcases hchar with ⟨-, hright⟩ | ⟨left, -, hinside⟩
    · obtain ⟨-, rfl⟩ := List.cons.inj hright
      exact ⟨entity, hentity, List.prefix_append _ _⟩
    · have honce : ∀ entity ∈ entities, '&' ∉ entity.toList := by decide
      exact absurd (by simp [hinside]) (honce entity hentity)
  · have hsame : c = '&' := by
      have hmem : '&' ∈ commentChar c := by simp [hchar]
      rw [hc, List.mem_singleton] at hmem
      exact hmem.symm
    exact absurd hsame hand

/-- Nothing that ends a line or begins a tag gets into the escaped form of a
character. -/
theorem not_mem_of_mem_commentChar {c d : Char} (hc : c ∉ lineTerminators)
    (hd : d ∈ commentChar c) :
    d ∉ '<' :: '>' :: lineTerminators := by
  rcases commentChar_cases c with
    ⟨entity, hentity, hchar⟩ | ⟨-, hless, hgreater, hchar⟩
  · have hsafe : (entities.all fun entity => ('&' :: entity.toList).all fun d =>
        !('<' :: '>' :: lineTerminators).contains d) = true := by
      decide
    rw [hchar] at hd
    have hall :=
      List.all_eq_true.mp (List.all_eq_true.mp hsafe entity hentity) d hd
    simpa using hall
  · rw [hchar, List.mem_singleton] at hd
    subst d
    simp [hless, hgreater, hc]

theorem not_mem_lineTerminators {c : Char} (hc : isBlank c = false) :
    c ∉ lineTerminators := by
  have hblank : (lineTerminators.all isBlank) = true := by decide
  intro hmem
  rw [List.all_eq_true.mp hblank c hmem] at hc
  cases hc

/-- A comment has nothing that ends its line or begins a tag. -/
theorem not_mem_commentText (text : String) :
    ∀ c ∈ (commentText text).toList, c ∉ '<' :: '>' :: lineTerminators := by
  rw [commentText, String.toList_ofList, List.forall_mem_flatMap]
  intro c hc d hd
  apply not_mem_of_mem_commentChar _ hd
  rcases mem_joinWith hc with hspace | ⟨word, hword, hmem⟩
  · rw [List.mem_singleton.mp hspace]
    decide
  · exact not_mem_lineTerminators
      (Text.not_cut_of_mem_pieces (List.mem_filter.mp hword).1 hmem)

/-! ## Comments -/

/-- A description becomes a text without brackets and line ends, in which every
ampersand begins one of the entities.  It is the one text that is read as the
words of the description with single blanks between them, and replacing
ampersands, opening brackets and closing brackets in the words, in this order,
makes it. -/
theorem comment_keeps_words (text : String) :
    (∀ c ∈ (commentText text).toList, c ∉ lineTerminators ∧ c ≠ '<' ∧ c ≠ '>') ∧
      (∀ front back, (commentText text).toList = front ++ '&' :: back →
        ∃ entity ∈ ["amp;", "lt;", "gt;"], entity.toList <+: back) ∧
      ∃ words, (∀ ws, WordsOf text.toList ws ↔ ws = words) ∧
        commentText text =
          String.ofList
            (replaceChar '>' "&gt;".toList (replaceChar '<' "&lt;".toList
              (replaceChar '&' "&amp;".toList ([' '].intercalate words)))) ∧
        ∀ input, readComment input = some ([' '].intercalate words) ↔
          input = (commentText text).toList := by
  have hchars : (commentText text).toList =
      ([' '].intercalate (Text.words text.toList)).flatMap commentChar := by
    rw [commentText, String.toList_ofList, Text.joinWith_eq_intercalate]
  refine ⟨?_, ?_, Text.words text.toList, ?_, ?_, ?_⟩
  · intro c hc
    have hsafe := not_mem_commentText text c hc
    rw [List.mem_cons, List.mem_cons, not_or, not_or] at hsafe
    exact ⟨hsafe.2.2, hsafe.1, hsafe.2.1⟩
  · intro front back hsplit
    rw [hchars] at hsplit
    exact exists_entity hsplit
  · intro ws
    rw [Text.wordsOf_iff, eq_comm]
  · rw [commentText_eq_replaceChar, Text.joinWith_eq_intercalate]
  · intro input
    rw [hchars]
    exact readComment_eq_some_iff

/-- A description that holds an entity already, and a line end, a line separator
and a bracket. -/
theorem comment_keeps_words_escaped :
    commentText "a &lt;\n\u2028 <b" = "a &amp;lt; &lt;b" ∧
      ∃ entity ∈ ["amp;", "lt;", "gt;"],
        entity.toList <+: "amp;lt; &lt;b".toList := by
  obtain ⟨-, hentity, -⟩ := comment_keeps_words "a &lt;\n\u2028 <b"
  have htext : commentText "a &lt;\n\u2028 <b" = "a &amp;lt; &lt;b" := by decide
  rw [htext] at hentity
  exact ⟨htext, hentity "a ".toList "amp;lt; &lt;b".toList (by decide)⟩

end ClientCode
end ApiClientGen
