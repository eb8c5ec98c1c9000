import ApiClientGen.Proofs.PathWalk
import Mathlib.Data.Set.Insert

/-!
# What writing changes in a tree

Writing a file makes the directories above it first, so a run of writes changes
a tree in many places.  All of it is of one kind: directories stay, and of the
files only those change that were written to.  Paths that led somewhere keep
leading there, which is why the places of the files can be read off the tree
that is left in the end.
-/

namespace ApiClientGen
namespace FileTree

open ClientCode (SourceFile)

namespace Tree

def fileAt? (tree : Tree) (place : List String) : Option ByteArray :=
  match tree.at? place with
  | some (.file content) => some content
  | _ => none

variable {tree : Tree} {place other : List String} {entry : Entry}

theorem at?_put_self (hplace : place ≠ []) :
    (tree.put place entry).at? place = some entry := by
  simp [at?, put, hplace]

theorem lookup_filter_ne (hne : other ≠ place)
    (entries : List (List String × Entry)) :
    (entries.filter (·.1 != place)).lookup other = entries.lookup other := by
  induction entries with
  | nil => rfl
  | cons first rest ih =>
      obtain ⟨key, value⟩ := first
      by_cases hkey : key = place
      · subst hkey
        have hother : (other == key) = false := by simpa using hne
        simp [List.lookup_cons, hother, ih]
      · simp [hkey, List.lookup_cons, ih]

theorem at?_put_of_ne (hne : other ≠ place) :
    (tree.put place entry).at? other = tree.at? other := by
  have hother : (other == place) = false := by simpa using hne
  simp [at?, put, List.lookup_cons, hother, lookup_filter_ne hne]

end Tree

/-! ## Changes that keep directories -/

/-- The later tree has the directories of the earlier one, and its files differ
at most at the given places. -/
structure FilesChange (places : Set (List String)) (before after : Tree) :
    Prop where
  workingDirectory : after.workingDirectory = before.workingDirectory
  directory : ∀ place,
    before.at? place = some .directory → after.at? place = some .directory
  file : ∀ place, place ∉ places → after.fileAt? place = before.fileAt? place

namespace FilesChange

variable {places : Set (List String)} {before between after : Tree}

theorem refl (places : Set (List String)) (tree : Tree) :
    FilesChange places tree tree :=
  ⟨rfl, fun _ hplace => hplace, fun _ _ => rfl⟩

theorem trans (hfirst : FilesChange places before between)
    (hsecond : FilesChange places between after) :
    FilesChange places before after where
  workingDirectory := hsecond.workingDirectory.trans hfirst.workingDirectory
  directory := fun place hplace =>
    hsecond.directory place (hfirst.directory place hplace)
  file := fun place hplace =>
    (hsecond.file place hplace).trans (hfirst.file place hplace)

theorem mono {more : Set (List String)}
    (hchange : FilesChange places before after) (hsubset : places ⊆ more) :
    FilesChange more before after where
  workingDirectory := hchange.workingDirectory
  directory := hchange.directory
  file := fun place hplace => hchange.file place fun hmem =>
    hplace (hsubset hmem)

theorem put_directory {tree : Tree} {place : List String}
    (hplace : tree.at? place = none) :
    FilesChange ∅ tree (tree.put place .directory) where
  workingDirectory := rfl
  directory := by
    intro other hother
    have hne : other ≠ place := by
      rintro rfl
      simp [hplace] at hother
    rwa [Tree.at?_put_of_ne hne]
  file := by
    intro other _
    by_cases hother : other = place
    · subst hother
      have hroot : other ≠ [] := by
        rintro rfl
        simp [Tree.at?] at hplace
      simp [Tree.fileAt?, hplace, Tree.at?_put_self hroot]
    · simp [Tree.fileAt?, Tree.at?_put_of_ne hother]

theorem put_file {tree : Tree} {place : List String}
    (hplace : tree.at? place ≠ some .directory) (content : ByteArray) :
    FilesChange {place} tree (tree.put place (.file content)) where
  workingDirectory := rfl
  directory := by
    intro other hother
    have hne : other ≠ place := by
      rintro rfl
      exact hplace hother
    rwa [Tree.at?_put_of_ne hne]
  file := by
    intro other hother
    rw [Set.mem_singleton_iff] at hother
    simp [Tree.fileAt?, Tree.at?_put_of_ne hother]

/-! ## Paths after a change -/

theorem enter_eq_ok (hchange : FilesChange places before after)
    {place next : List String} {segment : String}
    (hnext : enter before place segment = .ok next) :
    enter after place segment = .ok next := by
  unfold enter at hnext ⊢
  split_ifs at hnext ⊢ with hidle habove hlong
  · exact hnext
  · exact hnext
  · split at hnext
    · cases hnext
    · cases hnext
    · rename_i hat
      rwa [hchange.directory _ hat]

theorem walk_eq_ok (hchange : FilesChange places before after)
    {place last : List String} {parts : List String}
    (hlast : walk before place parts = .ok last) :
    walk after place parts = .ok last := by
  induction parts generalizing place with
  | nil => exact hlast
  | cons segment rest ih =>
      rw [walk] at hlast ⊢
      cases hnext : enter before place segment with
      | error error =>
          rw [hnext] at hlast
          cases hlast
      | ok next =>
          rw [hnext] at hlast
          rw [hchange.enter_eq_ok hnext]
          exact ih hlast

theorem startOf_eq (hchange : FilesChange places before after) (path : String) :
    startOf after path = startOf before path := by
  rw [startOf, startOf, hchange.workingDirectory]

theorem locate_eq_ok (hchange : FilesChange places before after) {path : String}
    {target : Target} (htarget : locate before path = .ok target) :
    locate after path = .ok target := by
  obtain ⟨hpath, htarget⟩ := locate_eq_ok_iff.mp htarget
  refine locate_eq_ok_iff.mpr ⟨hpath, ?_⟩
  unfold follow at htarget ⊢
  rw [hchange.startOf_eq]
  cases hlast : (keptSegments path).getLast? with
  | none => simpa [hlast] using htarget
  | some last =>
      simp only [hlast] at htarget ⊢
      cases hwalk :
          walk before (startOf before path) (keptSegments path).dropLast with
      | error error => simp [hwalk, Except.map] at htarget
      | ok place =>
          rw [hchange.walk_eq_ok hwalk, ← hwalk]
          exact htarget

theorem filePlace?_eq_some (hchange : FilesChange places before after)
    {path : String} {place : List String}
    (hplace : filePlace? before path = some place) :
    filePlace? after path = some place := by
  unfold filePlace? at hplace
  split at hplace
  · rename_i above name hlocate
    rw [filePlace?, hchange.locate_eq_ok hlocate]
    exact hplace
  · cases hplace

end FilesChange

/-! ## Making directories -/

theorem exists_of_makeDirectory_eq_ok {tree made : Tree} {path : String}
    (hmade : makeDirectory tree path = .ok made) :
    ∃ place, tree.at? place = none ∧ made = tree.put place .directory := by
  unfold makeDirectory at hmade
  cases hlocate : locate tree path with
  | error error =>
      rw [hlocate] at hmade
      cases hmade
  | ok target =>
      rw [hlocate] at hmade
      cases target with
      | directory place => cases hmade
      | named place name slash =>
          simp only [bind, Except.bind] at hmade
          split at hmade
          · cases hmade
          · split at hmade
            · cases hmade
            · rename_i hnone
              exact ⟨place ++ [name], hnone, (Except.ok.inj hmade).symm⟩

theorem filesChange_of_makeDirectory {tree made : Tree} {path : String}
    (hmade : makeDirectory tree path = .ok made) : FilesChange ∅ tree made := by
  obtain ⟨place, hnone, rfl⟩ := exists_of_makeDirectory_eq_ok hmade
  exact FilesChange.put_directory hnone

theorem tree_settle (tree : Tree) (path : String) (error : SystemError) :
    (makeDirectoriesWithin.settle tree path error).tree = tree := by
  unfold makeDirectoriesWithin.settle
  split <;> rfl

theorem filesChange_finish (tree : Tree) (path : String) :
    FilesChange ∅ tree (makeDirectoriesWithin.finish tree path).tree := by
  unfold makeDirectoriesWithin.finish
  cases hmade : makeDirectory tree path with
  | ok made => exact filesChange_of_makeDirectory hmade
  | error error =>
      simp only [tree_settle]
      exact FilesChange.refl ∅ tree

theorem filesChange_makeDirectoriesWithin (levels : ℕ) (tree : Tree)
    (path : String) :
    FilesChange ∅ tree (makeDirectoriesWithin levels tree path).tree := by
  induction levels generalizing tree path with
  | zero => exact FilesChange.refl ∅ tree
  | succ levels ih =>
      unfold makeDirectoriesWithin
      split
      · exact FilesChange.refl ∅ tree
      · rename_i above _
        split
        · rename_i made hmade
          exact filesChange_of_makeDirectory hmade
        · have habove := ih tree above
          simp only
          split
          · exact habove
          · exact habove.trans (filesChange_finish _ path)
        · rw [tree_settle]
          exact FilesChange.refl ∅ tree

theorem filesChange_makeDirectories (tree : Tree) (path : String) :
    FilesChange ∅ tree (makeDirectories tree path).tree :=
  filesChange_makeDirectoriesWithin _ tree path

/-! ## Writing files -/

theorem exists_of_writeFile_eq_ok {tree written : Tree} {path : String}
    {content : ByteArray}
    (hwritten : writeFile tree path content = .ok written) :
    ∃ place, filePlace? tree path = some place ∧ place ≠ [] ∧
      tree.at? place ≠ some .directory ∧
      written = tree.put place (.file content) := by
  unfold writeFile at hwritten
  cases hlocate : locate tree path with
  | error error =>
      rw [hlocate] at hwritten
      cases hwritten
  | ok target =>
      rw [hlocate] at hwritten
      cases target with
      | directory place => cases hwritten
      | named place name slash =>
          simp only [bind, Except.bind] at hwritten
          split at hwritten
          · cases hwritten
          · rename_i hslash
            obtain rfl : slash = false := by simpa using hslash
            split at hwritten
            · cases hwritten
            · split at hwritten
              · cases hwritten
              · rename_i hdirectory
                refine ⟨place ++ [name], ?_, by simp, hdirectory,
                  (Except.ok.inj hwritten).symm⟩
                rw [filePlace?, hlocate]

/-- What writing one file does.  If it fails, no file is changed; otherwise the
file is there with its content, and no other file is changed. -/
theorem writeOne_cases (tree : Tree) (path content : String) :
    ((∃ error, (writeOne tree path content).error = some error) ∧
      FilesChange ∅ tree (writeOne tree path content).tree) ∨
      (writeOne tree path content).error = none ∧
        ∃ place,
          filePlace? (writeOne tree path content).tree path = some place ∧
            (writeOne tree path content).tree.fileAt? place =
              some content.toUTF8 ∧
            FilesChange {place} tree (writeOne tree path content).tree := by
  unfold writeOne
  extract_lets attempt
  have hmade : FilesChange ∅ tree attempt.2.tree := by
    cases habove : parent? path with
    | none => simpa [attempt, habove] using FilesChange.refl ∅ tree
    | some above =>
        simpa [attempt, habove] using filesChange_makeDirectories tree above
  clear_value attempt
  cases attempt.2.error with
  | some cause => exact Or.inl ⟨⟨_, rfl⟩, hmade⟩
  | none =>
      cases hwrite : writeFile attempt.2.tree path content.toUTF8 with
      | error cause => exact Or.inl ⟨⟨_, rfl⟩, hmade⟩
      | ok written =>
          obtain ⟨place, hplace, hroot, hfree, rfl⟩ :=
            exists_of_writeFile_eq_ok hwrite
          have hput := FilesChange.put_file hfree content.toUTF8
          refine Or.inr ⟨rfl, place, hput.filePlace?_eq_some hplace, ?_, ?_⟩
          · simp [Tree.fileAt?, Tree.at?_put_self hroot]
          · exact (hmade.mono (Set.empty_subset _)).trans hput

/-- The places that the paths of files name below a directory. -/
def placesOf (tree : Tree) (directory : String) (files : List SourceFile) :
    Set (List String) :=
  {place |
    ∃ file ∈ files, filePlace? tree (joinPath directory file.path) = some place}

theorem exists_of_mem_placesOf {tree : Tree} {root directory : String}
    {files : List SourceFile} (hdirectory : NormalName directory)
    (hfiles : ∀ file ∈ files, NormalName file.path) {place : List String}
    (hplace : place ∈ placesOf tree (joinPath root directory) files) :
    ∃ above, resolve tree root = .ok above ∧
      ∃ file ∈ files, place = above ++ [directory, file.path] := by
  obtain ⟨file, hfile, hplace⟩ := hplace
  obtain ⟨above, habove, rfl⟩ :=
    exists_of_filePlace?_below hdirectory (hfiles file hfile) hplace
  exact ⟨above, habove, file, hfile, rfl⟩

section WriteEach

variable {directory : String} {tree : Tree} {file : SourceFile}
    {rest : List SourceFile}

theorem writeEach_cons :
    writeEach directory tree (file :: rest) =
      let path := joinPath directory file.path
      let attempt := writeOne tree path file.content
      match attempt.error with
      | some error => ⟨attempt.tree, [], some error⟩
      | none =>
        let others := writeEach directory attempt.tree rest
        { others with written := path :: others.written } := by
  rfl

theorem writeEach_cons_of_eq_some {error : WriteError}
    (herror :
      (writeOne tree (joinPath directory file.path) file.content).error =
        some error) :
    writeEach directory tree (file :: rest) =
      ⟨(writeOne tree (joinPath directory file.path) file.content).tree, [],
        some error⟩ := by
  rw [writeEach_cons]
  simp only [herror]

theorem writeEach_cons_of_eq_none
    (hnone : (writeOne tree (joinPath directory file.path) file.content).error =
      none) :
    writeEach directory tree (file :: rest) =
      let others := writeEach directory
        (writeOne tree (joinPath directory file.path) file.content).tree rest
      { others with
        written := joinPath directory file.path :: others.written } := by
  rw [writeEach_cons]
  simp only [hnone]

/-- A run of writes changes no file but those that it is about. -/
theorem filesChange_writeEach (directory : String) (tree : Tree)
    (files : List SourceFile) :
    FilesChange (placesOf (writeEach directory tree files).tree directory files)
      tree (writeEach directory tree files).tree := by
  induction files generalizing tree with
  | nil => exact FilesChange.refl _ tree
  | cons file rest ih =>
      rcases writeOne_cases tree (joinPath directory file.path)
          file.content with
        ⟨⟨error, herror⟩, hchange⟩ | ⟨hnone, place, hplace, -, hchange⟩
      · rw [writeEach_cons_of_eq_some herror]
        exact hchange.mono (Set.empty_subset _)
      · rw [writeEach_cons_of_eq_none hnone]
        have hrest :=
          ih (writeOne tree (joinPath directory file.path) file.content).tree
        refine (hchange.mono ?_).trans (hrest.mono ?_)
        · rintro _ rfl
          exact ⟨file, List.mem_cons_self, hrest.filePlace?_eq_some hplace⟩
        · rintro other ⟨later, hlater, hother⟩
          exact ⟨later, List.mem_cons_of_mem file hlater, hother⟩

/-- Without an error a run of writes has written its first file and then the
others. -/
theorem exists_of_writeEach_cons_eq_none
    (hnone : (writeEach directory tree (file :: rest)).error = none) :
    ∃ next place, filePlace? next (joinPath directory file.path) = some place ∧
      next.fileAt? place = some file.content.toUTF8 ∧
      (writeEach directory next rest).error = none ∧
      (writeEach directory tree (file :: rest)).tree =
        (writeEach directory next rest).tree ∧
      (writeEach directory tree (file :: rest)).written =
        joinPath directory file.path ::
          (writeEach directory next rest).written := by
  rcases writeOne_cases tree (joinPath directory file.path) file.content with
    ⟨⟨error, herror⟩, -⟩ | ⟨hone, place, hplace, hcontent, -⟩
  · simp [writeEach_cons_of_eq_some herror] at hnone
  · rw [writeEach_cons_of_eq_none hone] at hnone ⊢
    exact ⟨_, place, hplace, hcontent, hnone, rfl, rfl⟩

/-- Without an error a run of writes reports the paths of all files in order. -/
theorem written_of_writeEach_eq_none {files : List SourceFile}
    (hnone : (writeEach directory tree files).error = none) :
    (writeEach directory tree files).written =
      files.map (joinPath directory ·.path) := by
  induction files generalizing tree with
  | nil => rfl
  | cons file rest ih =>
      obtain ⟨next, place, -, -, hrest, -, hwritten⟩ :=
        exists_of_writeEach_cons_eq_none hnone
      rw [hwritten, ih hrest, List.map_cons]

/-- Without an error a run of writes leaves every file with its content, unless
a later path names the same place. -/
theorem exists_of_writeEach_eq_none {front back : List SourceFile}
    (hnone : (writeEach directory tree (front ++ file :: back)).error = none) :
    let after := (writeEach directory tree (front ++ file :: back)).tree
    ∃ place, filePlace? after (joinPath directory file.path) = some place ∧
      (place ∉ placesOf after directory back →
        after.fileAt? place = some file.content.toUTF8) := by
  induction front generalizing tree with
  | nil =>
      obtain ⟨next, place, hplace, hcontent, -, htree, -⟩ :=
        exists_of_writeEach_cons_eq_none hnone
      have hback := filesChange_writeEach directory next back
      rw [List.nil_append, htree]
      refine ⟨place, hback.filePlace?_eq_some hplace, fun hlater => ?_⟩
      rw [hback.file place hlater, hcontent]
  | cons first front ih =>
      rw [List.cons_append] at hnone ⊢
      obtain ⟨next, -, -, -, hrest, htree, -⟩ :=
        exists_of_writeEach_cons_eq_none hnone
      rw [htree]
      exact ih hrest

/-- Without an error files with distinct names all stand directly in the
directory. -/
theorem exists_fileAt?_of_writeEach {root directory : String}
    {files : List SourceFile} (hdirectory : NormalName directory)
    (hfiles : ∀ file ∈ files, NormalName file.path)
    (hdistinct : (files.map (·.path)).Nodup)
    (hnone : (writeEach (joinPath root directory) tree files).error = none)
    (hfile : file ∈ files) :
    let after := (writeEach (joinPath root directory) tree files).tree
    ∃ above, resolve after root = .ok above ∧
      after.fileAt? (above ++ [directory, file.path]) =
        some file.content.toUTF8 := by
  obtain ⟨front, back, rfl⟩ := List.append_of_mem hfile
  obtain ⟨place, hplace, hcontent⟩ := exists_of_writeEach_eq_none hnone
  obtain ⟨above, habove, rfl⟩ :=
    exists_of_filePlace?_below hdirectory (hfiles file hfile) hplace
  refine ⟨above, habove, hcontent fun hlater => ?_⟩
  obtain ⟨_, -, other, hother, hsame⟩ := exists_of_mem_placesOf hdirectory
    (fun other hother => hfiles other (by simp [hother])) hlater
  have hpath : file.path = other.path := by
    have hlast := congrArg List.getLast? hsame
    simpa using hlast
  have hfresh : file.path ∉ back.map (·.path) := by
    rw [List.map_append, List.map_cons] at hdistinct
    exact (List.nodup_cons.mp (List.nodup_append.mp hdistinct).2.1).1
  exact hfresh (hpath ▸ List.mem_map_of_mem hother)

end WriteEach

end FileTree
end ApiClientGen
