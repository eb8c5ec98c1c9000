import ApiClientGen.Proofs.PathWalk
import Mathlib.Data.List.DropRight

/-!
# Places of paths without the tree

A path can be followed by its text alone: its components lead from the working
directory to one place, whatever the tree holds.  Whenever the tree leads
somewhere, it leads there.  A path that is joined to a directory adds its
components to those of the directory, so a path of names leads strictly below
it; and the check on paths refuses exactly the others.
-/

namespace ApiClientGen
namespace FileTree

variable {tree : Tree} {path : String}

/-! ## Components of paths -/

/-- What the start of a path says before its first segment is read. -/
def opening (path : String) : List Component :=
  if isAbsolute path then [.root]
  else if (segments path).head? = some "." then [.here]
  else []

/-- The components of a path.  Repeated slashes and every `.`  but the first
segment are not among them. -/
def components (path : String) : List Component :=
  opening path ++ (segments path).filterMap component?

def lexicalPlace (tree : Tree) (path : String) : List String :=
  (components path).foldl Component.leadFrom tree.workingDirectory

theorem foldl_opening (tree : Tree) (path : String) :
    (opening path).foldl Component.leadFrom tree.workingDirectory =
      startOf tree path := by
  unfold opening startOf
  split_ifs <;> rfl

theorem lexicalPlace_eq (tree : Tree) (path : String) :
    lexicalPlace tree path =
      ((segments path).filterMap component?).foldl Component.leadFrom
        (startOf tree path) := by
  rw [lexicalPlace, components, List.foldl_append, foldl_opening]

theorem normalName_of_mem_segments {segment : String}
    (hsegment : segment ∈ segments path) (hidle : isIdle segment = false)
    (habove : segment ≠ "..") : NormalName segment where
  ne_empty := by rintro rfl; simp [isIdle] at hidle
  no_slash := by
    obtain ⟨piece, hpiece, rfl⟩ := List.mem_map.mp hsegment
    rw [String.toList_ofList]
    intro hslash
    exact absurd (Text.not_cut_of_mem_pieces hpiece hslash) (by decide)
  ne_here := by rintro rfl; simp [isIdle] at hidle
  ne_above := habove

/-! ## Places in the tree -/

/-- The segments that are kept are all of them if none is missing at the end. -/
theorem keptSegments_eq_of_length
    (hlength : (keptSegments path).length = (segments path).length) :
    keptSegments path = segments path :=
  (List.rdropWhile_prefix (· == "") (l := segments path)).eq_of_length hlength

theorem ne_empty_of_getLast?_keptSegments {last : String}
    (hlast : (keptSegments path).getLast? = some last) : last ≠ "" := by
  have hstop := List.head?_dropWhile_not (· == "") (segments path).reverse
  rw [keptSegments, List.getLast?_reverse] at hlast
  rw [hlast] at hstop
  simpa using hstop

/-- A path that leads to a name without a slash behind it ends in this name, and
its other segments lead to the directory. -/
theorem exists_of_follow_eq_named {above : List String} {name : String}
    (hfollow : follow tree path = .ok (.named above name false)) :
    ∃ front, segments path = front ++ [name] ∧ NormalName name ∧
      walk tree (startOf tree path) front = .ok above := by
  unfold follow at hfollow
  cases hlast : (keptSegments path).getLast? with
  | none => simp [hlast] at hfollow
  | some last =>
      cases hwalk :
          walk tree (startOf tree path) (keptSegments path).dropLast with
      | error error => simp [hlast, hwalk, Except.map] at hfollow
      | ok start =>
          simp only [hlast, hwalk, Except.map, targetIn] at hfollow
          split_ifs at hfollow with hhere habove
          · cases hfollow
          · cases hfollow
          · obtain ⟨rfl, rfl, hlength⟩ : start = above ∧ last = name ∧
                (keptSegments path).length = (segments path).length := by
              simpa using hfollow
            obtain ⟨front, hfront⟩ := List.getLast?_eq_some_iff.mp hlast
            rw [hfront, List.dropLast_concat] at hwalk
            have hsegments : segments path = front ++ [last] := by
              rw [← keptSegments_eq_of_length hlength, hfront]
            have hmem : last ∈ segments path := by simp [hsegments]
            have hidle : isIdle last = false := by
              simp [isIdle, hhere, ne_empty_of_getLast?_keptSegments hlast]
            exact ⟨front, hsegments,
              normalName_of_mem_segments hmem hidle habove, hwalk⟩

/-- If the tree has a place for the file that a path names, it is the one that
the text says. -/
theorem eq_lexicalPlace_of_filePlace? {place : List String}
    (hplace : filePlace? tree path = some place) :
    place = lexicalPlace tree path := by
  unfold filePlace? at hplace
  split at hplace
  · rename_i above name hlocate
    obtain ⟨front, hsegments, hname, hwalk⟩ :=
      exists_of_follow_eq_named (locate_eq_ok_iff.mp hlocate).2
    rw [← Option.some.inj hplace, lexicalPlace_eq, hsegments,
      List.filterMap_append, List.foldl_append, ← eq_of_walk_eq_ok hwalk,
      List.filterMap_cons_some
        (component?_eq_name hname.isIdle_eq_false hname.ne_above)]
    rfl
  · cases hplace

/-! ## Paths below a directory -/

theorem opening_eq_nil (habsolute : isAbsolute path = false)
    (hhere : (segments path).head? ≠ some ".") : opening path = [] := by
  rw [opening, if_neg (by simpa using habsolute), if_neg hhere]

section JoinPath

variable (directory : String) (habsolute : isAbsolute path = false)
  (hhere : (segments path).head? ≠ some ".")

include habsolute hhere

theorem opening_joinPath :
    opening (joinPath directory path) = opening directory := by
  obtain ⟨front, hsegments, hdirectory⟩ :=
    exists_segments_joinPath directory habsolute
  have hfirst : (segments (joinPath directory path)).head? = some "." ↔
      (segments directory).head? = some "." := by
    rw [hsegments]
    cases front with
    | nil =>
        rcases hdirectory with hdirectory | hdirectory <;>
          simp [hdirectory, hhere]
    | cons first rest =>
        rcases hdirectory with hdirectory | hdirectory <;> simp [hdirectory]
  unfold opening
  rw [isAbsolute_joinPath directory habsolute]
  simp only [hfirst]

/-- A path that starts with neither the root nor a `.`  adds its components to
those of the directory. -/
theorem components_joinPath :
    components (joinPath directory path) =
      components directory ++ components path := by
  obtain ⟨front, hsegments, hdirectory⟩ :=
    exists_segments_joinPath directory habsolute
  have hparts : (segments directory).filterMap component? =
      front.filterMap component? := by
    rcases hdirectory with hdirectory | hdirectory
    · rw [hdirectory]
    · rw [hdirectory, List.filterMap_append]
      exact List.append_nil _
  rw [components, opening_joinPath directory habsolute hhere, hsegments,
    List.filterMap_append, ← hparts, components, components,
    opening_eq_nil habsolute hhere, List.nil_append, List.append_assoc]

end JoinPath

theorem foldl_leadFrom_name (place names : List String) :
    (names.map Component.name).foldl Component.leadFrom place =
      place ++ names := by
  induction names generalizing place with
  | nil => exact (List.append_nil place).symm
  | cons name rest ih =>
      rw [List.map_cons, List.foldl_cons, ih, Component.leadFrom,
        List.append_assoc, List.singleton_append]

/-! ## Paths that leave their directory -/

/-- A path that is not to be joined to a directory, by its components: an empty
one, an absolute one, one that starts with a `.`, or one that goes up. -/
def LeavesDirectory (path : String) : Prop :=
  path = "" ∨ isAbsolute path = true ∨ (components path).head? = some .here ∨
    .above ∈ components path

instance (path : String) : Decidable (LeavesDirectory path) :=
  inferInstanceAs (Decidable (_ ∨ _ ∨ _ ∨ _))

theorem component?_eq_above_iff {segment : String} :
    component? segment = some .above ↔ segment = ".." := by
  constructor
  · intro hcomponent
    unfold component? at hcomponent
    split_ifs at hcomponent with hidle habove
    · exact habove
    · cases hcomponent
  · rintro rfl
    decide

theorem component?_ne_here (segment : String) :
    component? segment ≠ some .here := by
  unfold component?
  split_ifs <;> simp

theorem above_mem_components_iff :
    .above ∈ components path ↔ ".." ∈ segments path := by
  have hopening : .above ∉ opening path := by
    unfold opening
    split_ifs <;> simp
  simp [components, hopening, component?_eq_above_iff]

theorem head?_components_eq_here_iff :
    (components path).head? = some .here ↔
      isAbsolute path = false ∧ (segments path).head? = some "." := by
  have hlater : ((segments path).filterMap component?).head? ≠ some .here := by
    intro hhead
    obtain ⟨segment, -, hsegment⟩ :=
      List.mem_filterMap.mp (List.mem_of_head? hhead)
    exact component?_ne_here segment hsegment
  unfold components opening
  split_ifs with habsolute hhere
  · simp [habsolute]
  · simp [habsolute, hhere]
  · simpa [hhere] using hlater

theorem not_leavesDirectory_iff :
    ¬LeavesDirectory path ↔ path ≠ "" ∧ isAbsolute path = false ∧
      (segments path).head? ≠ some "." ∧ ".." ∉ segments path := by
  rw [LeavesDirectory, head?_components_eq_here_iff, above_mem_components_iff]
  cases isAbsolute path <;> simp

/-- The check refuses exactly the paths that leave their directory. -/
theorem staysBelow_eq_true_iff :
    staysBelow path = true ↔ ¬LeavesDirectory path := by
  rw [not_leavesDirectory_iff]
  simp [staysBelow, and_assoc]

/-- A path that starts with a slash or that has no text at all has an empty
first segment, and no other path has. -/
theorem head?_segments_eq_empty_iff :
    (segments path).head? = some "" ↔ path = "" ∨ isAbsolute path = true := by
  unfold segments isAbsolute
  rw [← String.toList_eq_nil_iff]
  cases path.toList with
  | nil => simp [Text.pieces]
  | cons c rest =>
      by_cases hc : c = '/'
      · simp [Text.pieces, hc]
      · obtain ⟨piece, others, hrest⟩ :=
          List.exists_cons_of_ne_nil (Text.pieces_ne_nil (· == '/') rest)
        simp [Text.pieces_cons_of_not_cut (by simpa using hc) hrest, hc]

/-- Segments that do not go up stand for the names among them. -/
theorem filterMap_component? {parts : List String} (hparts : ".." ∉ parts) :
    parts.filterMap component? = (parts.filter (!isIdle ·)).map .name := by
  induction parts with
  | nil => rfl
  | cons segment rest ih =>
      obtain ⟨habove, hrest⟩ : segment ≠ ".." ∧ ".." ∉ rest := by
        simpa [eq_comm] using hparts
      by_cases hidle : isIdle segment = true
      · rw [List.filterMap_cons_none (component?_of_isIdle hidle),
          List.filter_cons_of_neg (by simp [hidle]), ih hrest]
      · have hname := component?_eq_name (by simpa using hidle) habove
        rw [List.filterMap_cons_some hname,
          List.filter_cons_of_pos (by simpa using hidle), ih hrest,
          List.map_cons]

/-- The first segment of a path that does not leave its directory says
something. -/
theorem exists_segments_eq_cons (hpath : ¬LeavesDirectory path) :
    ∃ first rest, segments path = first :: rest ∧ isIdle first = false := by
  obtain ⟨hempty, habsolute, hhere, -⟩ := not_leavesDirectory_iff.mp hpath
  obtain ⟨first, rest, hsegments⟩ :
      ∃ first rest, segments path = first :: rest :=
    List.exists_cons_of_ne_nil
      (by simpa [segments] using Text.pieces_ne_nil (· == '/') path.toList)
  have hnonempty : first ≠ "" := by
    rintro rfl
    have hstart : (segments path).head? = some "" := by
      rw [hsegments, List.head?_cons]
    simp [head?_segments_eq_empty_iff, hempty, habsolute] at hstart
  have hother : first ≠ "." := by
    rintro rfl
    exact hhere (by rw [hsegments, List.head?_cons])
  exact ⟨first, rest, hsegments, by simp [isIdle, hnonempty, hother]⟩

/-- A path that does not leave its directory consists of names, and there is at
least one. -/
theorem exists_names_of_not_leavesDirectory (hpath : ¬LeavesDirectory path) :
    ∃ names, names ≠ [] ∧ (∀ name ∈ names, NormalName name) ∧
      components path = names.map .name := by
  obtain ⟨-, habsolute, hhere, habove⟩ := not_leavesDirectory_iff.mp hpath
  refine ⟨(segments path).filter (!isIdle ·), ?_, fun name hname => ?_, ?_⟩
  · obtain ⟨first, rest, hsegments, hfirst⟩ := exists_segments_eq_cons hpath
    rw [hsegments, List.filter_cons_of_pos (by simp [hfirst])]
    exact List.cons_ne_nil _ _
  · obtain ⟨hname, hidle⟩ := List.mem_filter.mp hname
    exact normalName_of_mem_segments hname (by simpa using hidle)
      (ne_of_mem_of_not_mem hname habove)
  · rw [components, opening_eq_nil habsolute hhere, List.nil_append,
      filterMap_component? habove]

/-- A path that does not leave its directory leads strictly below it. -/
theorem exists_lexicalPlace_joinPath (hpath : ¬LeavesDirectory path)
    (tree : Tree) (directory : String) :
    ∃ names, names ≠ [] ∧ (∀ name ∈ names, NormalName name) ∧
      components path = names.map .name ∧
      lexicalPlace tree (joinPath directory path) =
        lexicalPlace tree directory ++ names := by
  obtain ⟨-, habsolute, hhere, -⟩ := not_leavesDirectory_iff.mp hpath
  obtain ⟨names, hne, hnames, hcomponents⟩ :=
    exists_names_of_not_leavesDirectory hpath
  refine ⟨names, hne, hnames, hcomponents, ?_⟩
  rw [lexicalPlace, components_joinPath directory habsolute hhere,
    List.foldl_append, hcomponents, foldl_leadFrom_name, lexicalPlace]

end FileTree
end ApiClientGen
