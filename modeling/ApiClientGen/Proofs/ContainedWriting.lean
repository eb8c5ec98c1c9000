import ApiClientGen.Proofs.LexicalPaths
import ApiClientGen.Proofs.TreeChanges

/-!
# Writing below a directory

The paths of all files are checked before the first one is written.  So a path
that leaves the directory keeps every file from being written, wherever it
stands; and if there is none, the places that are written to are the ones that
the texts of the paths say, all of them below the directory.
-/

namespace ApiClientGen
namespace FileTree

open ClientCode (SourceFile)

variable {directory : String} {tree : Tree} {files : List SourceFile}

/-! ## The check -/

theorem leavingError?_eq_none_iff :
    leavingError? files = none ↔
      ∀ file ∈ files, ¬LeavesDirectory file.path := by
  simp [leavingError?, ← staysBelow_eq_true_iff]

/-- The error names the first path that leaves the directory. -/
theorem exists_of_leavingError?_eq_some {error : WriteError}
    (herror : leavingError? files = some error) :
    ∃ front file back, files = front ++ file :: back ∧
      (∀ earlier ∈ front, ¬LeavesDirectory earlier.path) ∧
      LeavesDirectory file.path ∧
      error = .leavesDirectory file.path := by
  obtain ⟨file, hfind, rfl⟩ := Option.map_eq_some_iff.mp herror
  obtain ⟨hfile, front, back, rfl, hfront⟩ :=
    List.find?_eq_some_iff_append.mp hfind
  refine ⟨front, file, back, rfl, fun earlier hearlier => ?_, ?_, rfl⟩
  · exact staysBelow_eq_true_iff.mp (by simpa using hfront earlier hearlier)
  · by_contra hstays
    simp [staysBelow_eq_true_iff.mpr hstays] at hfile

/-! ## Places that are written to -/

/-- The place of a file below a directory, by the texts of both paths. -/
def placeBelow (tree : Tree) (directory : String) (file : SourceFile) :
    List String :=
  lexicalPlace tree (joinPath directory file.path)

namespace FilesChange

variable {places : Set (List String)} {before after : Tree}

/-- Where the later tree has a place for a file, the earlier one already said
so. -/
theorem eq_placeBelow (hchange : FilesChange places before after)
    {file : SourceFile} {place : List String}
    (hplace : filePlace? after (joinPath directory file.path) = some place) :
    place = placeBelow before directory file := by
  rw [eq_lexicalPlace_of_filePlace? hplace, placeBelow, lexicalPlace,
    lexicalPlace, hchange.workingDirectory]

end FilesChange

theorem exists_of_mem_placesOf_writeEach {place : List String}
    (hplace :
      place ∈ placesOf (writeEach directory tree files).tree directory files) :
    ∃ file ∈ files, placeBelow tree directory file = place := by
  obtain ⟨file, hfile, hplace⟩ := hplace
  exact ⟨file, hfile,
    ((filesChange_writeEach directory tree files).eq_placeBelow hplace).symm⟩

theorem error_writeOne_ne_leavesDirectory (path content name : String) :
    (writeOne tree path content).error ≠ some (.leavesDirectory name) := by
  unfold writeOne
  extract_lets attempt
  clear_value attempt
  split
  · simp
  · split <;> simp

/-- Writing itself never says that a path leaves the directory. -/
theorem error_writeEach_ne_leavesDirectory (path : String) :
    (writeEach directory tree files).error ≠ some (.leavesDirectory path) := by
  induction files generalizing tree with
  | nil => exact (Option.some_ne_none _).symm
  | cons file rest ih =>
      rcases writeOne_cases tree (joinPath directory file.path)
          file.content with
        ⟨⟨error, herror⟩, -⟩ | ⟨hnone, -⟩
      · rw [writeEach_cons_of_eq_some herror, ← herror]
        exact error_writeOne_ne_leavesDirectory _ _ path
      · rw [writeEach_cons_of_eq_none hnone]
        exact ih

/-- Without an error a run of writes leaves every file with its content at the
place of its path, unless the path of a later one says the same place. -/
theorem fileAt?_writeEach {file : SourceFile} {front back : List SourceFile}
    (hnone : (writeEach directory tree (front ++ file :: back)).error = none)
    (hlast : ∀ later ∈ back,
      placeBelow tree directory later ≠ placeBelow tree directory file) :
    (writeEach directory tree (front ++ file :: back)).tree.fileAt?
      (placeBelow tree directory file) = some file.content.toUTF8 := by
  have hchange := filesChange_writeEach directory tree (front ++ file :: back)
  obtain ⟨place, hplace, hcontent⟩ := exists_of_writeEach_eq_none hnone
  have hfile : place = placeBelow tree directory file :=
    hchange.eq_placeBelow hplace
  subst hfile
  refine hcontent ?_
  rintro ⟨later, hlater, hsame⟩
  exact hlast later hlater (hchange.eq_placeBelow hsame).symm

/-! ## The whole run -/

/-- If a path leaves the directory, writing fails at the first one that does and
leaves the tree as it is, whatever stands before that path.  If none does,
writing is never refused.  Then every path consists of names and leads strictly
below the directory, a file at a place that no path says is as before, whether
writing succeeds or not, and if it succeeds, every place that a path says has
the content of the last file with such a path. -/
theorem writing_is_refused_or_contained (directory : String) (tree : Tree)
    (files : List SourceFile) :
    let writing := writeFiles directory tree files
    let placeOf := placeBelow tree directory
    ((∃ file ∈ files, LeavesDirectory file.path) →
      ∃ front file back, files = front ++ file :: back ∧
        (∀ earlier ∈ front, ¬LeavesDirectory earlier.path) ∧
        LeavesDirectory file.path ∧
        writing = ⟨tree, [], some (.leavesDirectory file.path)⟩) ∧
      ((∀ file ∈ files, ¬LeavesDirectory file.path) →
        (∀ path, writing.error ≠ some (.leavesDirectory path)) ∧
          (∀ file ∈ files,
            ∃ names, names ≠ [] ∧ (∀ name ∈ names, NormalName name) ∧
              components file.path = names.map .name ∧
              placeOf file = lexicalPlace tree directory ++ names) ∧
          (∀ place, (∀ file ∈ files, placeOf file ≠ place) →
            writing.tree.fileAt? place = tree.fileAt? place) ∧
          (writing.error = none →
            ∀ front file back, files = front ++ file :: back →
              (∀ later ∈ back, placeOf later ≠ placeOf file) →
              writing.tree.fileAt? (placeOf file) =
                some file.content.toUTF8)) := by
  intro writing placeOf
  constructor
  · rintro ⟨file, hfile, hleaves⟩
    cases hcheck : leavingError? files with
    | none =>
        exact absurd hleaves (leavingError?_eq_none_iff.mp hcheck file hfile)
    | some error =>
        obtain ⟨front, first, back, hfiles, hfront, hfirst, rfl⟩ :=
          exists_of_leavingError?_eq_some hcheck
        refine ⟨front, first, back, hfiles, hfront, hfirst, ?_⟩
        simp only [writing, writeFiles, hcheck]
  · intro hstay
    have hwriting : writing = writeEach directory tree files := by
      simp only [writing, writeFiles, leavingError?_eq_none_iff.mpr hstay]
    rw [hwriting]
    refine ⟨error_writeEach_ne_leavesDirectory, fun file hfile => ?_,
      fun place hother => ?_, ?_⟩
    · exact exists_lexicalPlace_joinPath (hstay file hfile) tree directory
    · refine (filesChange_writeEach directory tree files).file place
        fun hmem => ?_
      obtain ⟨file, hfile, hplace⟩ := exists_of_mem_placesOf_writeEach hmem
      exact hother file hfile hplace
    · rintro hnone front file back rfl hlast
      exact fileAt?_writeEach hnone hlast

/-- In the first of two lists a path leaves the directory behind one that does
not; in the second two paths say the same place. -/
theorem writing_is_refused_or_contained_twice :
    let tree : Tree :=
      ⟨[(["work"], .directory), (["work", "notes"], .file "kept".toUTF8)],
        ["work"]⟩
    let refused : List SourceFile :=
      [⟨"c.cs", "2"⟩, ⟨"a/../../notes", "lost"⟩, ⟨"d.cs", "4"⟩]
    let contained : List SourceFile :=
      [⟨"a/./b.cs", "1"⟩, ⟨"c.cs", "2"⟩, ⟨"a//b.cs", "3"⟩]
    (writeFiles "out" tree refused).tree = tree ∧
      (writeFiles "out" tree contained).error = none ∧
        let after := (writeFiles "out" tree contained).tree
        after.fileAt? ["work", "out", "a", "b.cs"] = some "3".toUTF8 ∧
          after.fileAt? ["work", "out", "c.cs"] = some "2".toUTF8 ∧
            after.fileAt? ["work", "notes"] = some "kept".toUTF8 := by
  intro tree refused contained
  have hrefused : (writeFiles "out" tree refused).tree = tree := by
    obtain ⟨front, file, back, -, -, -, hwriting⟩ :=
      (writing_is_refused_or_contained "out" tree refused).1
        ⟨⟨"a/../../notes", "lost"⟩, List.mem_cons_of_mem _ List.mem_cons_self,
          by decide +kernel⟩
    rw [hwriting]
  have hnone : (writeFiles "out" tree contained).error = none := by
    decide +kernel
  obtain ⟨-, -, hothers, hfiles⟩ :=
    (writing_is_refused_or_contained "out" tree contained).2 (by decide +kernel)
  refine ⟨hrefused, hnone, ?_, ?_, ?_⟩
  · exact hfiles hnone [⟨"a/./b.cs", "1"⟩, ⟨"c.cs", "2"⟩] ⟨"a//b.cs", "3"⟩ []
      rfl (by simp)
  · exact hfiles hnone [⟨"a/./b.cs", "1"⟩] ⟨"c.cs", "2"⟩ [⟨"a//b.cs", "3"⟩] rfl
      (by decide +kernel)
  · rw [hothers ["work", "notes"] (by decide +kernel)]
    rfl

end FileTree
end ApiClientGen
