import ApiClientGen.Proofs.OperationWarnings
import ApiClientGen.Proofs.PlaceholderHoles
import Mathlib.Data.List.TakeWhile

/-!
# Two scanners, one segmentation

The placeholders of a path are found by a scanner that jumps from brace to
brace, and the path is written by another one that goes from character to
character.  Both are compared with a segmentation of the path that belongs to
neither: texts with placeholders between them.  One segmentation fits both
scanners and all parameters.  So the warnings about placeholders without a
parameter count what a reader of the written path finds between literal braces.
-/

namespace ApiClientGen

namespace PathTemplate

theorem behind?_append {c : Char} {name : List Char} (hname : c ∉ name)
    (rest : List Char) :
    behind? c (name ++ c :: rest) = some rest := by
  induction name with
  | nil => simp [behind?]
  | cons d name ih =>
      have hne : c ≠ d ∧ c ∉ name := by simpa using hname
      simp [behind?, Ne.symm hne.1, ih hne.2]

theorem takeWhile_append {c : Char} {name : List Char} (hname : c ∉ name)
    (rest : List Char) :
    (name ++ c :: rest).takeWhile (· != c) = name := by
  have hall : ∀ d ∈ name, (d != c) = true := by
    intro d hd
    rw [bne_iff_ne]
    rintro rfl
    exact hname hd
  rw [List.takeWhile_append_of_pos hall]
  simp

/-- A name between braces is a placeholder, whatever follows. -/
theorem placeholderNames_braces {name : List Char} (hname : '}' ∉ name)
    (rest : List Char) :
    placeholderNames ('{' :: (name ++ '}' :: rest)) =
      name :: placeholderNames rest := by
  rw [placeholderNames_placeholder (behind?_append hname rest),
    takeWhile_append hname]

end PathTemplate

namespace ClientCode

open Api (Parameter Warning ofDocument)
open PathTemplate (behind? placeholderNames placeholders
  takeWhile_append_of_behind?)

/-! ## Segmentations -/

/-- A path in segments: the text in front of the first placeholder, and each
placeholder with the text behind it. -/
structure Segmentation where
  lead : List Char
  parts : List (List Char × List Char)

namespace Segmentation

def path (segments : Segmentation) : List Char :=
  segments.lead ++
    segments.parts.flatMap fun part => '{' :: (part.1 ++ '}' :: part.2)

def names (segments : Segmentation) : List (List Char) :=
  segments.parts.map Prod.fst

/-- A placeholder in a written path: the identifier of the first parameter that
is named after it between single braces, and without such a parameter its own
text between doubled ones. -/
def writtenPlaceholder (parameters : List Parameter) (name : List Char) :
    List Char :=
  match holeFor parameters (String.ofList name) with
  | some hole => '{' :: (hole.toList ++ ['}'])
  | none => '{' :: '{' :: (name.flatMap interpolatedChar ++ ['}', '}'])

/-- The path as it is written: the texts escaped, with the placeholders between
them. -/
def written (segments : Segmentation) (parameters : List Parameter) :
    List Char :=
  segments.lead.flatMap interpolatedChar ++
    segments.parts.flatMap fun part =>
      writtenPlaceholder parameters part.1 ++ part.2.flatMap interpolatedChar

theorem placeholderText_eq (parameters : List Parameter) (name : List Char) :
    placeholderText parameters name = writtenPlaceholder parameters name := by
  unfold placeholderText writtenPlaceholder holeFor
  cases parameters.find? (·.originalName == String.ofList name) <;> rfl

/-- The segmentation with a character in front of its first text. -/
def cons (c : Char) (segments : Segmentation) : Segmentation :=
  { segments with lead := c :: segments.lead }

/-- The segmentation with a placeholder in front of its first text. -/
def consPlaceholder (name : List Char) (segments : Segmentation) :
    Segmentation :=
  ⟨[], (name, segments.lead) :: segments.parts⟩

/-- The segmentation is one of the path, and both scanners find it. -/
structure Fits (segments : Segmentation) (path : List Char) : Prop where
  path_eq : segments.path = path
  names_eq : segments.names = placeholderNames path
  written_eq :
    ∀ parameters, interpolate parameters path = segments.written parameters

namespace Fits

variable {segments : Segmentation} {rest after : List Char}

theorem cons {c : Char} (hfits : Fits segments rest)
    (hliteral : c ≠ '{' ∨ behind? '}' rest = none) :
    Fits (segments.cons c) (c :: rest) where
  path_eq := congrArg (List.cons c) hfits.path_eq
  names_eq := by
    have hsame : placeholderNames (c :: rest) = placeholderNames rest := by
      rcases hliteral with hc | hnone
      · exact PathTemplate.placeholderNames_of_ne hc rest
      · have hclose : '}' ∉ rest := PathTemplate.behind?_eq_none_iff.mp hnone
        rw [PathTemplate.placeholderNames_of_not_mem hclose]
        by_cases hc : c = '{'
        · exact PathTemplate.placeholderNames_of_not_mem (by simp [hc, hclose])
        · rw [PathTemplate.placeholderNames_of_ne hc,
            PathTemplate.placeholderNames_of_not_mem hclose]
    rw [hsame]
    exact hfits.names_eq
  written_eq := by
    intro parameters
    rw [interpolate_literal hliteral, hfits.written_eq]
    simp [written, Segmentation.cons]

theorem consPlaceholder (hfits : Fits segments after)
    (hclose : behind? '}' rest = some after) :
    Fits (segments.consPlaceholder (rest.takeWhile (· != '}')))
      ('{' :: rest) where
  path_eq := by
    calc
      (segments.consPlaceholder (rest.takeWhile (· != '}'))).path =
          '{' :: (rest.takeWhile (· != '}') ++ '}' :: segments.path) := by
        simp [path, Segmentation.consPlaceholder]
      _ = '{' :: rest := by
        rw [hfits.path_eq, takeWhile_append_of_behind? hclose]
  names_eq := by
    rw [PathTemplate.placeholderNames_placeholder hclose, ← hfits.names_eq]
    rfl
  written_eq := by
    intro parameters
    rw [interpolate_placeholder hclose, hfits.written_eq, placeholderText_eq]
    simp [written, Segmentation.consPlaceholder]

end Fits

theorem exists_fits (path : List Char) :
    ∃ segments : Segmentation, segments.Fits path := by
  induction path using interpolate.induct with
  | case1 => exact ⟨⟨[], []⟩, rfl, by simp [names, placeholderNames, behind?],
      by simp [written, interpolate]⟩
  | case2 rest after hclose ih =>
      obtain ⟨segments, hfits⟩ := ih
      exact ⟨_, hfits.consPlaceholder hclose⟩
  | case3 rest hnone ih =>
      obtain ⟨segments, hfits⟩ := ih
      exact ⟨_, hfits.cons (Or.inr hnone)⟩
  | case4 c rest hc ih =>
      obtain ⟨segments, hfits⟩ := ih
      exact ⟨_, hfits.cons (Or.inl hc)⟩

end Segmentation

/-! ## Literal braces in a written path -/

/-- The character of a piece that is none of a hole. -/
def Piece.char? : Piece → Option Char
  | .char c => some c
  | .hole _ => none

/-- The characters outside the holes of an interpolated string. -/
def outsideHoles (pieces : List Piece) : List Char :=
  pieces.filterMap Piece.char?

@[simp]
theorem outsideHoles_append (pieces others : List Piece) :
    outsideHoles (pieces ++ others) =
      outsideHoles pieces ++ outsideHoles others :=
  List.filterMap_append

@[simp]
theorem outsideHoles_map_char (cs : List Char) :
    outsideHoles (cs.map Piece.char) = cs := by
  rw [outsideHoles, List.filterMap_map]
  exact List.filterMap_some

theorem Denotes.mem_of_mem_outsideHoles {parameters : List Parameter}
    {pieces : List Piece} {path : List Char}
    (hdenotes : Denotes parameters pieces path) {c : Char}
    (hc : c ∈ outsideHoles pieces) : c ∈ path := by
  obtain ⟨piece, hpiece, hchar⟩ := List.mem_filterMap.mp hc
  rw [← hdenotes.source_eq, List.mem_flatMap]
  refine ⟨piece, hpiece, ?_⟩
  cases piece with
  | char d => exact List.mem_singleton.mpr (Option.some.inj hchar).symm
  | hole name => cases hchar

/-- The names that stand between literal braces of an interpolated string. -/
def literalGroups (pieces : List Piece) : List (List Char) :=
  placeholderNames (outsideHoles pieces)

theorem literalGroups_placeholderPieces (parameters : List Parameter)
    {name : List Char} (hname : '}' ∉ name) (tail : List Piece) :
    literalGroups (placeholderPieces parameters name ++ tail) =
      if (holeFor parameters (String.ofList name)).isNone then
        name :: literalGroups tail
      else literalGroups tail := by
  unfold placeholderPieces holeFor literalGroups
  cases parameters.find? (·.originalName == String.ofList name) with
  | some parameter => rfl
  | none =>
      rw [outsideHoles_append, outsideHoles_map_char]
      simpa using PathTemplate.placeholderNames_braces hname (outsideHoles tail)

/-- A reader of a written path finds the placeholders without a parameter
between literal braces, and nothing else. -/
theorem HoleNames.exists_literalGroups {parameters : List Parameter}
    (hnames : HoleNames parameters) (path : List Char) :
    ∃ pieces, readPieces (interpolate parameters path) = some pieces ∧
      literalGroups pieces =
        (placeholderNames path).filter fun name =>
          (holeFor parameters (String.ofList name)).isNone := by
  induction path using interpolate.induct with
  | case1 =>
      exact ⟨[], by simp [interpolate, readPieces],
        by simp [literalGroups, outsideHoles, placeholderNames, behind?]⟩
  | case2 rest after hclose ih =>
      obtain ⟨tail, hread, hgroups⟩ := ih
      have hname : '}' ∉ rest.takeWhile (· != '}') := fun hmem => by
        simpa using List.mem_takeWhile_imp hmem
      refine ⟨placeholderPieces parameters (rest.takeWhile (· != '}')) ++ tail,
        ?_, ?_⟩
      · rw [interpolate_placeholder hclose, hnames.readPieces_placeholderText,
          hread, Option.map_some]
      · rw [literalGroups_placeholderPieces parameters hname, hgroups,
          PathTemplate.placeholderNames_placeholder hclose, List.filter_cons]
  | case3 rest hnone ih =>
      obtain ⟨tail, hread, hgroups⟩ := ih
      have hclose : '}' ∉ rest := PathTemplate.behind?_eq_none_iff.mp hnone
      have htail : '}' ∉ outsideHoles tail := by
        obtain ⟨pieces, hpieces, hdenotes⟩ := hnames.exists_pieces rest
        obtain rfl : tail = pieces := Option.some.inj (hread.symm.trans hpieces)
        exact fun hmem => hclose (hdenotes.mem_of_mem_outsideHoles hmem)
      refine ⟨.char '{' :: tail, ?_, ?_⟩
      · rw [interpolate_literal (Or.inr hnone), readPieces_interpolatedChar,
          hread, Option.map_some]
      · have hopen :
            outsideHoles (.char '{' :: tail) = '{' :: outsideHoles tail := rfl
        rw [literalGroups, hopen,
          PathTemplate.placeholderNames_of_not_mem (by simp [htail]),
          PathTemplate.placeholderNames_of_not_mem (by simp [hclose]),
          List.filter_nil]
  | case4 c rest hc ih =>
      obtain ⟨tail, hread, hgroups⟩ := ih
      refine ⟨.char c :: tail, ?_, ?_⟩
      · rw [interpolate_literal (Or.inl hc), readPieces_interpolatedChar, hread,
          Option.map_some]
      · have hchar : outsideHoles (.char c :: tail) = c :: outsideHoles tail :=
          rfl
        rw [literalGroups, hchar, PathTemplate.placeholderNames_of_ne hc,
          PathTemplate.placeholderNames_of_ne hc]
        exact hgroups

/-! ## Both scanners -/

theorem length_unnamed (parameters : List Parameter) (path : String) :
    ((placeholderNames path.toList).filter
      fun name => (holeFor parameters (String.ofList name)).isNone).length =
      (placeholders path).countP fun name =>
        !parameters.any (·.originalName == name) := by
  rw [placeholders, List.countP_map, ← List.countP_eq_length_filter]
  congr 1
  funext name
  rw [Function.comp_apply, ← isSome_holeFor, Option.not_isSome]

/-- Every path has a segmentation that fits both scanners and all parameters,
and at the place of every operation there are as many warnings about
placeholders as a reader of the written path finds names between literal
braces. -/
theorem scanners_agree :
    (∀ path : String, ∃ segments : Segmentation,
      segments.path = path.toList ∧
        segments.names.map String.ofList = placeholders path ∧
        ∀ parameters, (interpolatedPath path parameters).toList =
          segments.written parameters) ∧
      ∀ document, List.Forall₂
        (fun declaration operation => ∃ pieces,
          readPieces
              (interpolatedPath operation.path operation.parameters).toList =
              some pieces ∧
            (ofDocument document).warnings.countP
              (Warning.unnamedAt declaration.location) =
              (literalGroups pieces).length)
        (Api.declarations document) (ofDocument document).operations := by
  constructor
  · intro path
    obtain ⟨segments, hfits⟩ := Segmentation.exists_fits path.toList
    refine ⟨segments, hfits.path_eq, by rw [hfits.names_eq, placeholders],
      fun parameters => ?_⟩
    rw [interpolatedPath, String.toList_ofList, hfits.written_eq]
  · intro document
    obtain ⟨hlength, hcounts⟩ :=
      List.forall₂_iff_zip.mp (Api.countP_unnamedAt_warnings document)
    refine List.forall₂_iff_zip.mpr
      ⟨hlength, fun {declaration operation} hpair => ?_⟩
    obtain ⟨other, -, name, hlowered⟩ :=
      Api.exists_lowered_of_mem_operations (List.of_mem_zip hpair).2
    have hnames : HoleNames operation.parameters :=
      hlowered ▸ holeNames_lowered _ other name
    obtain ⟨pieces, hread, hgroups⟩ :=
      hnames.exists_literalGroups operation.path.toList
    refine ⟨pieces, by rw [interpolatedPath, String.toList_ofList, hread], ?_⟩
    rw [hcounts hpair, hgroups, length_unnamed]
    rfl

end ClientCode
end ApiClientGen
