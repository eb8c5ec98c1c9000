import ApiClientGen.Proofs.MethodSignature

/-!
# Which parameter fills a placeholder

A placeholder is looked up by its name alone, while a name may be shared by
parameters that are sent in different places.  The holes of a written path are
listed here beside the placeholders they are written for, and it is shown which
declared parameter decides what stands in a hole: the first one in force with
the name of the placeholder, wherever it is sent.
-/

namespace ApiClientGen

namespace PathTemplate

theorem placeholderNames_eq (path : List Char) :
    placeholderNames path =
      match behind? '{' path with
      | none => []
      | some inner =>
        match behind? '}' inner with
        | none => []
        | some rest => inner.takeWhile (· != '}') :: placeholderNames rest := by
  rw [placeholderNames]
  split
  · simp [*]
  · split <;> simp [*]

theorem placeholderNames_placeholder {rest after : List Char}
    (hclose : behind? '}' rest = some after) :
    placeholderNames ('{' :: rest) =
      rest.takeWhile (· != '}') :: placeholderNames after := by
  rw [placeholderNames_eq]
  simp [behind?, hclose]

theorem placeholderNames_of_ne {c : Char} (hc : c ≠ '{') (rest : List Char) :
    placeholderNames (c :: rest) = placeholderNames rest := by
  rw [placeholderNames_eq, placeholderNames_eq rest]
  simp [behind?, hc]

theorem behind?_eq_none_iff {c : Char} {cs : List Char} :
    behind? c cs = none ↔ c ∉ cs := by
  induction cs with
  | nil => simp [behind?]
  | cons d cs ih =>
      by_cases hd : d = c
      · simp [behind?, hd]
      · simp [behind?, hd, ih, Ne.symm hd]

/-- Without a closing brace there is no placeholder. -/
theorem placeholderNames_of_not_mem {cs : List Char} (hclose : '}' ∉ cs) :
    placeholderNames cs = [] := by
  rw [placeholderNames_eq]
  cases hopen : behind? '{' cs with
  | none => rfl
  | some inner =>
      have hsplit := takeWhile_append_of_behind? hopen
      have hinner : behind? '}' inner = none := by
        rw [behind?_eq_none_iff]
        intro hmem
        apply hclose
        rw [← hsplit]
        simp [hmem]
      simp [hinner]

end PathTemplate

namespace ClientCode

open Api (Declaration Location Operation Parameter ofDocument)
open PathTemplate (behind? placeholderNames placeholders)

/-! ## The holes of a written path -/

/-- The identifiers in the holes of an interpolated string, in order. -/
def holeNames : List Piece → List String
  | [] => []
  | .char _ :: rest => holeNames rest
  | .hole name :: rest => name :: holeNames rest

@[simp]
theorem holeNames_append (pieces others : List Piece) :
    holeNames (pieces ++ others) = holeNames pieces ++ holeNames others := by
  induction pieces with
  | nil => rfl
  | cons piece pieces ih => cases piece <;> simp [holeNames, ih]

@[simp]
theorem holeNames_map_char (cs : List Char) :
    holeNames (cs.map Piece.char) = [] := by
  induction cs with
  | nil => rfl
  | cons c cs ih => exact ih

/-- The identifier that stands in the hole of a placeholder, if a parameter is
named after it. -/
def holeFor (parameters : List Parameter) (placeholder : String) :
    Option String :=
  (parameters.find? (·.originalName == placeholder)).map (identifier ·.name)

theorem holeNames_placeholderPieces (parameters : List Parameter)
    (name : List Char) :
    holeNames (placeholderPieces parameters name) =
      (holeFor parameters (String.ofList name)).toList := by
  unfold placeholderPieces holeFor
  cases parameters.find? (·.originalName == String.ofList name) with
  | some parameter => rfl
  | none => exact holeNames_map_char _

/-- The holes of a written path are those of its placeholders, in order. -/
theorem HoleNames.holeNames_interpolate {parameters : List Parameter}
    (hnames : HoleNames parameters) (path : List Char) :
    (readPieces (interpolate parameters path)).map holeNames =
      some ((placeholderNames path).filterMap fun name =>
        holeFor parameters (String.ofList name)) := by
  induction path using interpolate.induct with
  | case1 =>
      simp [interpolate, readPieces, holeNames, placeholderNames, behind?]
  | case2 rest after hclose ih =>
      rw [interpolate_placeholder hclose, hnames.readPieces_placeholderText,
        PathTemplate.placeholderNames_placeholder hclose, Option.map_map]
      obtain ⟨pieces, hread, hholes⟩ := Option.map_eq_some_iff.mp ih
      rw [hread, Option.map_some, Function.comp_apply, holeNames_append, hholes,
        holeNames_placeholderPieces, List.filterMap_cons]
      cases holeFor parameters (String.ofList (rest.takeWhile (· != '}'))) with
      | none => rfl
      | some hole => rfl
  | case3 rest hnone ih =>
      have hclose : '}' ∉ rest := PathTemplate.behind?_eq_none_iff.mp hnone
      rw [interpolate_literal (Or.inr hnone), readPieces_interpolatedChar,
        Option.map_map,
        PathTemplate.placeholderNames_of_not_mem (by simp [hclose])]
      rw [PathTemplate.placeholderNames_of_not_mem hclose] at ih
      exact ih
  | case4 c rest hc ih =>
      rw [interpolate_literal (Or.inl hc), readPieces_interpolatedChar,
        Option.map_map, PathTemplate.placeholderNames_of_ne hc]
      exact ih

/-- The identifiers in the holes of the path of an operation, as they are read
from the written path. -/
def pathHoles (operation : Operation) : Option (List String) :=
  (readPieces (interpolatedPath operation.path operation.parameters).toList).map
    holeNames

theorem pathHoles_eq {operation : Operation}
    (hnames : HoleNames operation.parameters) :
    pathHoles operation =
      some ((placeholders operation.path).filterMap
        (holeFor operation.parameters)) := by
  rw [pathHoles, interpolatedPath, String.toList_ofList,
    hnames.holeNames_interpolate, placeholders, List.filterMap_map]
  rfl

/-! ## Placeholders that name a path parameter -/

/-- If a parameter sent in the path is named after a placeholder, the hole of
the placeholder holds the identifier of such a parameter. -/
def FilledFromPath (parameters : List Parameter) (placeholder hole : String) :
    Prop :=
  (placeholder, some .path) ∈ parameters.map Parameter.key →
    ∃ parameter ∈ parameters,
      parameter.key = (placeholder, some .path) ∧
        identifier parameter.name = hole

/-- The placeholders of the path of an operation that a parameter is named
after, in order. -/
def namedPlaceholders (operation : Operation) : List String :=
  (placeholders operation.path).filter fun name =>
    operation.parameters.any (·.originalName == name)

/-- Every placeholder that names a parameter has its hole, and no hole is filled
from a parameter that is sent elsewhere while one with the same name is sent in
the path. -/
def FillsPath (operation : Operation) : Prop :=
  ∃ holes, pathHoles operation = some holes ∧
    List.Forall₂ (FilledFromPath operation.parameters)
      (namedPlaceholders operation) holes

/-- Wherever a name stands with the path as its location, that is the first
place at which it stands. -/
def PathComesFirst (names : List String)
    (keys : List (String × Option Location)) : Prop :=
  ∀ name ∈ names, (name, some .path) ∈ keys →
    keys.find? (·.1 == name) = some (name, some .path)

instance (names : List String) (keys : List (String × Option Location)) :
    Decidable (PathComesFirst names keys) :=
  List.decidableBAll _ names

theorem forall₂_filter_filterMap_iff {α β : Type} {R : α → β → Prop}
    (f : α → Option β) (xs : List α) :
    List.Forall₂ R (xs.filter fun x => (f x).isSome) (xs.filterMap f) ↔
      ∀ x ∈ xs, ∀ y, f x = some y → R x y := by
  induction xs with
  | nil => simp
  | cons x xs ih =>
      cases hx : f x with
      | none => simp [hx, ih]
      | some y => simp [hx, ih]

theorem isSome_holeFor (parameters : List Parameter) (placeholder : String) :
    (holeFor parameters placeholder).isSome =
      parameters.any (·.originalName == placeholder) := by
  rw [holeFor, Option.isSome_map, List.isSome_find?]

theorem find?_map_key (parameters : List Parameter) (placeholder : String) :
    (parameters.map Parameter.key).find? (·.1 == placeholder) =
      (parameters.find? (·.originalName == placeholder)).map Parameter.key :=
  List.find?_map

/-- The hole of a placeholder holds the identifier of a path parameter exactly
if the first parameter with the name of the placeholder is one. -/
theorem HoleNames.filledFromPath_iff {parameters : List Parameter}
    (hnames : HoleNames parameters) {placeholder : String} {first : Parameter}
    (hfirst : parameters.find? (·.originalName == placeholder) = some first) :
    FilledFromPath parameters placeholder (identifier first.name) ↔
      ((placeholder, some .path) ∈ parameters.map Parameter.key →
        first.key = (placeholder, some .path)) := by
  have hmem : first ∈ parameters := List.mem_of_find?_eq_some hfirst
  constructor
  · intro hfilled hdeclared
    obtain ⟨parameter, hparameter, hkey, hidentifier⟩ := hfilled hdeclared
    have hsame : parameter = first :=
      hnames.eq_of_identifier_eq hparameter hmem hidentifier
    rwa [← hsame]
  · intro hkey hdeclared
    exact ⟨first, hmem, hkey hdeclared, rfl⟩

theorem HoleNames.fillsPath_iff {operation : Operation}
    (hnames : HoleNames operation.parameters) :
    FillsPath operation ↔
      PathComesFirst (placeholders operation.path)
        (operation.parameters.map Parameter.key) := by
  have hnamed :
      namedPlaceholders operation = (placeholders operation.path).filter
        fun name => (holeFor operation.parameters name).isSome := by
    simp only [namedPlaceholders, isSome_holeFor]
  have hholes : FillsPath operation ↔
      List.Forall₂ (FilledFromPath operation.parameters)
        (namedPlaceholders operation) ((placeholders operation.path).filterMap
          (holeFor operation.parameters)) := by
    simp [FillsPath, pathHoles_eq hnames]
  rw [hholes, hnamed, forall₂_filter_filterMap_iff]
  constructor
  · intro hall placeholder hplaceholder hdeclared
    rw [find?_map_key]
    cases hfirst :
        operation.parameters.find? (·.originalName == placeholder) with
    | none =>
        obtain ⟨parameter, hparameter, hkey⟩ := List.mem_map.mp hdeclared
        have hname : parameter.originalName = placeholder :=
          congrArg Prod.fst hkey
        have hother := List.find?_eq_none.mp hfirst parameter hparameter
        simp [hname] at hother
    | some first =>
        have hfilled := hall placeholder hplaceholder (identifier first.name)
          (by simp [holeFor, hfirst])
        rw [Option.map_some,
          (hnames.filledFromPath_iff hfirst).mp hfilled hdeclared]
  · intro hfirsts placeholder hplaceholder hole hhole
    obtain ⟨first, hfirst, rfl⟩ := Option.map_eq_some_iff.mp hhole
    rw [hnames.filledFromPath_iff hfirst]
    intro hdeclared
    have hkey := hfirsts placeholder hplaceholder hdeclared
    rwa [find?_map_key, hfirst, Option.map_some, Option.some.injEq] at hkey

/-! ## In terms of the document -/

/-- The names and the locations of the parameter objects in force, in order. -/
def parameterKeys (declaration : Declaration) :
    List (String × Option Location) :=
  declaration.parameterObjects.map fun object =>
    (object.name, object.location.map Location.ofName)

/-- The parameters of an operation have the names and the locations of the
objects in force. -/
theorem map_key_lowered (models : List String) (declaration : Declaration)
    (name : String) :
    (declaration.lowered models name).parameters.map Parameter.key =
      parameterKeys declaration := by
  symm
  rw [parameterKeys, ← List.forall₂_eq_eq_eq, List.forall₂_map_left_iff,
    List.forall₂_map_right_iff]
  apply (declaration.forall₂_parameterObjects models name).imp
  intro object parameter hrenamed
  rw [hrenamed.rest]
  rfl

/-- An operation fills its placeholders from the path exactly if, among the
parameter objects in force with the name of a placeholder, one that is sent in
the path comes before all that are sent elsewhere. -/
theorem fillsPath_iff_path_comes_first (document : Document.ApiDocument) :
    List.Forall₂
      (fun declaration operation =>
        FillsPath operation ↔
          PathComesFirst (placeholders declaration.path)
            (parameterKeys declaration))
      (Api.declarations document) (ofDocument document).operations := by
  rw [Api.operations_ofDocument]
  apply (Api.forall₂_lowerFrom _ [] (Api.declarations document)).imp
  rintro declaration _ ⟨name, rfl⟩
  rw [(holeNames_lowered _ declaration name).fillsPath_iff, map_key_lowered]
  rfl

/-- A document in which the parameter `id` of the query is declared before the
one of the path. -/
def queryBeforePathDocument : Document.ApiDocument where
  openapi := none
  swagger := none
  info := ⟨"T", "1", none⟩
  components := none
  paths :=
    OrderedMap.ofList
      [("/items/{id}",
        ⟨OrderedMap.ofList
          [("get",
            .object
              [("parameters", .array (["query", "path"].map fun location =>
                .object [("name", .string "id"),
                  ("in", .string location)]))])]⟩)]

def queryBeforePathOperation : Operation where
  name := "ItemsIdGet"
  method := .get
  path := "/items/{id}"
  summary := none
  parameters :=
    [⟨"id", "id", some .query, .any⟩, ⟨"id2", "id", some .path, .any⟩]
  body := none
  returnType := .any
  deprecated := false

/-- The path `/items/{id}` is written with the parameter of the query in its
hole. -/
theorem query_parameter_fills_path :
    queryBeforePathOperation ∈ (ofDocument queryBeforePathDocument).operations ∧
      pathHoles queryBeforePathOperation = some ["id"] ∧
      ¬ FillsPath queryBeforePathOperation := by
  have hnames : HoleNames queryBeforePathOperation.parameters :=
    ⟨by decide, by decide⟩
  refine ⟨by decide +kernel, ?_, ?_⟩
  · rw [pathHoles_eq hnames]
    decide +kernel
  · rw [hnames.fillsPath_iff]
    decide +kernel

end ClientCode
end ApiClientGen
