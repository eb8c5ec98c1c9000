import ApiClientGen.Proofs.InterpolatedString
import Mathlib.Data.List.Nodup

/-!
# The path of a request denotes the path of the document

The text that is written for a path is read back here with the reader of
interpolated strings.  The reader succeeds, each hole names exactly one
parameter, and putting the placeholders of these parameters for the holes gives
the path of the document again.

The names of the parameters must be distinct and must fit into a hole.  What the
parameters are called in the document is free: several may share a name, and a
name may hold braces and quotes.
-/

namespace ApiClientGen

namespace PathTemplate

/-- The text up to a closing character, that character and what stands behind
it. -/
theorem takeWhile_append_of_behind? {c : Char} {cs after : List Char}
    (hafter : behind? c cs = some after) :
    cs.takeWhile (· != c) ++ c :: after = cs := by
  induction cs with
  | nil => simp [behind?] at hafter
  | cons d cs ih =>
      by_cases hd : d = c
      · simp only [behind?, hd, if_true, Option.some.injEq] at hafter
        simp [hd, hafter]
      · simp only [behind?, hd, if_false] at hafter
        simpa [hd] using ih hafter

end PathTemplate

namespace ClientCode

open Api (Parameter)
open PathTemplate (behind? takeWhile_append_of_behind?)

def holders (parameters : List Parameter) (name : String) : List Parameter :=
  parameters.filter fun parameter => identifier parameter.name == name

/-- The placeholder of a parameter in the path of the document. -/
def placeholderOf (parameter : Parameter) : List Char :=
  '{' :: parameter.originalName.toList ++ ['}']

/-- What a piece stands for: a character for itself, and a hole for the
placeholder of its parameter. -/
def Piece.source (parameters : List Parameter) : Piece → List Char
  | .char c => [c]
  | .hole name => (holders parameters name).flatMap placeholderOf

/-- The pieces of an interpolated string denote a path. -/
structure Denotes (parameters : List Parameter) (pieces : List Piece)
    (path : List Char) : Prop where
  oneHolder : ∀ name, Piece.hole name ∈ pieces →
    ∃ parameter, holders parameters name = [parameter]
  source_eq : pieces.flatMap (Piece.source parameters) = path

/-- What is written for a placeholder: a hole if it names a parameter, and else
its own characters. -/
def placeholderPieces (parameters : List Parameter) (name : List Char) :
    List Piece :=
  match parameters.find? (·.originalName == String.ofList name) with
  | some parameter => [.hole (identifier parameter.name)]
  | none => ('{' :: name ++ ['}']).map Piece.char

/-- Parameters that can be told apart in holes. -/
structure HoleNames (parameters : List Parameter) : Prop where
  distinct : (parameters.map (·.name)).Nodup
  fits : ∀ parameter ∈ parameters, FitsHole parameter.name

namespace Denotes

variable {parameters : List Parameter}

theorem nil : Denotes parameters [] [] :=
  ⟨by simp, rfl⟩

theorem append {pieces others : List Piece} {path rest : List Char}
    (hpieces : Denotes parameters pieces path)
    (hothers : Denotes parameters others rest) :
    Denotes parameters (pieces ++ others) (path ++ rest) := by
  constructor
  · intro name hname
    rcases List.mem_append.mp hname with hleft | hright
    · exact hpieces.oneHolder name hleft
    · exact hothers.oneHolder name hright
  · rw [List.flatMap_append, hpieces.source_eq, hothers.source_eq]

theorem text (cs : List Char) : Denotes parameters (cs.map Piece.char) cs := by
  constructor
  · intro name hname
    simp at hname
  · induction cs with
    | nil => rfl
    | cons c cs ih => simpa [Piece.source] using ih

theorem hole {parameter : Parameter}
    (hholder : holders parameters (identifier parameter.name) = [parameter]) :
    Denotes parameters [.hole (identifier parameter.name)]
      (placeholderOf parameter) := by
  constructor
  · intro name hname
    obtain rfl : name = identifier parameter.name := by simpa using hname
    exact ⟨parameter, hholder⟩
  · simp [Piece.source, hholder]

end Denotes

/-! ## The scanner, step by step -/

theorem interpolate_placeholder {parameters : List Parameter}
    {rest after : List Char} (hclose : behind? '}' rest = some after) :
    interpolate parameters ('{' :: rest) =
      placeholderText parameters (rest.takeWhile (· != '}')) ++
        interpolate parameters after := by
  rw [interpolate]
  split
  · split <;> simp_all
  · simp_all

theorem interpolate_literal {parameters : List Parameter} {c : Char}
    {rest : List Char} (hliteral : c ≠ '{' ∨ behind? '}' rest = none) :
    interpolate parameters (c :: rest) =
      interpolatedChar c ++ interpolate parameters rest := by
  rw [interpolate]
  split
  · split <;> simp_all
  · rfl

namespace HoleNames

variable {parameters : List Parameter}

theorem eq_of_identifier_eq (hnames : HoleNames parameters) {p q : Parameter}
    (hp : p ∈ parameters) (hq : q ∈ parameters)
    (heq : identifier p.name = identifier q.name) :
    p = q := by
  have hname : p.name = q.name :=
    ClientCode.eq_of_identifier_eq (hnames.fits p hp).not_mem_at
      (hnames.fits q hq).not_mem_at heq
  exact List.inj_on_of_nodup_map hnames.distinct hp hq hname

theorem holders_identifier (hnames : HoleNames parameters)
    {parameter : Parameter} (hmem : parameter ∈ parameters) :
    holders parameters (identifier parameter.name) = [parameter] := by
  have hsame : holders parameters (identifier parameter.name) =
      parameters.filter (· == parameter) := by
    apply List.filter_congr
    intro p hp
    rw [Bool.eq_iff_iff, beq_iff_eq, beq_iff_eq]
    constructor
    · exact hnames.eq_of_identifier_eq hp hmem
    · rintro rfl
      rfl
  have honce : parameters.count parameter = 1 :=
    List.count_eq_one_of_mem hnames.distinct.of_map hmem
  rw [hsame, List.filter_beq, honce, List.replicate_one]

/-- A placeholder is read back as its pieces, whatever follows. -/
theorem readPieces_placeholderText (hnames : HoleNames parameters)
    (name rest : List Char) :
    readPieces (placeholderText parameters name ++ rest) =
      (readPieces rest).map (placeholderPieces parameters name ++ ·) := by
  cases hfind : parameters.find? (·.originalName == String.ofList name) with
  | some parameter =>
      have hmem : parameter ∈ parameters := List.mem_of_find?_eq_some hfind
      have hhole := readPieces_hole (hnames.fits parameter hmem) rest
      simpa [placeholderText, placeholderPieces, hfind] using hhole
  | none =>
      have htext :=
        readPieces_flatMap_interpolatedChar ('{' :: name ++ ['}']) rest
      simpa [placeholderText, placeholderPieces, hfind, interpolatedChar]
        using htext

theorem denotes_placeholderPieces (hnames : HoleNames parameters)
    (name : List Char) :
    Denotes parameters (placeholderPieces parameters name)
      ('{' :: name ++ ['}']) := by
  unfold placeholderPieces
  cases hfind : parameters.find? (·.originalName == String.ofList name) with
  | some parameter =>
      have hmem : parameter ∈ parameters := List.mem_of_find?_eq_some hfind
      have horiginal : parameter.originalName = String.ofList name := by
        simpa using List.find?_some hfind
      have hdenotes := Denotes.hole (hnames.holders_identifier hmem)
      rwa [placeholderOf, horiginal, String.toList_ofList] at hdenotes
  | none => exact Denotes.text ('{' :: name ++ ['}'])

/-- The text of a path is read back as pieces that denote the path. -/
theorem exists_pieces (hnames : HoleNames parameters) (path : List Char) :
    ∃ pieces, readPieces (interpolate parameters path) = some pieces ∧
      Denotes parameters pieces path := by
  induction path using interpolate.induct with
  | case1 => exact ⟨[], by simp [interpolate, readPieces], Denotes.nil⟩
  | case2 rest after hclose ih =>
      obtain ⟨tail, hread, htail⟩ := ih
      refine ⟨placeholderPieces parameters (rest.takeWhile (· != '}')) ++ tail,
        ?_, ?_⟩
      · rw [interpolate_placeholder hclose, hnames.readPieces_placeholderText,
          hread, Option.map_some]
      · have hsplit : ('{' :: rest.takeWhile (· != '}') ++ ['}']) ++ after =
            '{' :: rest := by
          simpa using takeWhile_append_of_behind? hclose
        rw [← hsplit]
        exact (hnames.denotes_placeholderPieces _).append htail
  | case3 rest hnone ih =>
      obtain ⟨tail, hread, htail⟩ := ih
      refine ⟨.char '{' :: tail, ?_, (Denotes.text ['{']).append htail⟩
      rw [interpolate_literal (Or.inr hnone), readPieces_interpolatedChar,
        hread, Option.map_some]
  | case4 c rest hc ih =>
      obtain ⟨tail, hread, htail⟩ := ih
      refine ⟨.char c :: tail, ?_, (Denotes.text [c]).append htail⟩
      rw [interpolate_literal (Or.inl hc), readPieces_interpolatedChar, hread,
        Option.map_some]

end HoleNames

/-! ## The written path -/

/-- The text that is written for a path can be read as the inside of an
interpolated string, each of its holes names exactly one parameter, and with the
placeholders of these parameters in the holes it is the path, character for
character. -/
theorem interpolatedPath_denotes (path : String) (parameters : List Parameter)
    (hnames : HoleNames parameters) :
    ∃ pieces,
      readPieces (interpolatedPath path parameters).toList = some pieces ∧
        Denotes parameters pieces path.toList := by
  rw [interpolatedPath, String.toList_ofList]
  exact hnames.exists_pieces path.toList

/-- The path `/}{pet_id}{{class}}"{class}{` has a lone brace on either side,
doubled braces, a quote and two placeholders, one of them named after a reserved
word. -/
theorem interpolatedPath_denotes_mixed_braces :
    ∃ pieces,
      readPieces
          (interpolatedPath
            "/\x7d\x7bpet_id\x7d\x7b\x7bclass\x7d\x7d\"\x7bclass\x7d\x7b"
            [⟨"petId", "pet_id", some .path, .any⟩,
              ⟨"class", "class", some .path, .any⟩]).toList =
          some pieces ∧
        Denotes [⟨"petId", "pet_id", some .path, .any⟩,
          ⟨"class", "class", some .path, .any⟩] pieces
          "/\x7d\x7bpet_id\x7d\x7b\x7bclass\x7d\x7d\"\x7bclass\x7d\x7b".toList :=
  interpolatedPath_denotes _ _ ⟨by decide, by decide⟩

end ClientCode
end ApiClientGen
