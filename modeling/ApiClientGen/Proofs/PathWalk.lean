import ApiClientGen.FileTree.WriteFiles
import ApiClientGen.Proofs.TextPieces

/-!
# Walking along paths

A path below a directory is followed by walking to the directory and entering
the last segment from there.  This holds for texts as they are given: the
directory may be empty, may end in a slash and may hold idle segments or steps
upwards.  A walk that succeeds leads where its segments say by themselves.
-/

namespace ApiClientGen

namespace FileTree

/-! ## Names of entries -/

/-- A name that leads from a directory to an entry of that directory and nowhere
else. -/
structure NormalName (name : String) : Prop where
  ne_empty : name ≠ ""
  no_slash : '/' ∉ name.toList
  ne_here : name ≠ "."
  ne_above : name ≠ ".."

namespace NormalName

variable {name : String}

/-- A text without a slash is a name as soon as it is longer than the two names
for directories. -/
theorem of_length (hslash : '/' ∉ name.toList)
    (hlength : 2 < name.toList.length) :
    NormalName name where
  ne_empty := by rintro rfl; simp at hlength
  no_slash := hslash
  ne_here := by rintro rfl; simp at hlength
  ne_above := by rintro rfl; simp at hlength

theorem isIdle_eq_false (hname : NormalName name) : isIdle name = false := by
  simp [isIdle, hname.ne_empty, hname.ne_here]

theorem segments_eq (hname : NormalName name) : segments name = [name] := by
  have hpieces : Text.pieces (· == '/') name.toList = [name.toList] := by
    apply Text.pieces_of_forall_not_cut
    rintro c hc
    have hne : c ≠ '/' := by rintro rfl; exact hname.no_slash hc
    simpa using hne
  simp [segments, hpieces]

theorem isAbsolute_eq_false (hname : NormalName name) :
    isAbsolute name = false := by
  have hhead : name.toList.head? ≠ some '/' := by
    intro hsome
    exact hname.no_slash (List.mem_of_mem_head? hsome)
  simpa [isAbsolute] using hhead

/-- The check on paths lets every name pass. -/
theorem staysBelow_eq_true (hname : NormalName name) :
    staysBelow name = true := by
  have habove : ".." ≠ name := Ne.symm hname.ne_above
  simp [staysBelow, hname.segments_eq, hname.isAbsolute_eq_false,
    hname.ne_empty, hname.ne_here, habove]

end NormalName

/-! ## Components -/

/-- What a part of a path says about the place that the path leads to. -/
inductive Component where
  | root
  | here
  | above
  | name (text : String)
deriving Repr, DecidableEq

/-- The place that a component leads to from a given one. -/
def Component.leadFrom (place : List String) : Component → List String
  | .root => []
  | .here => place
  | .above => place.dropLast
  | .name text => place ++ [text]

/-- The component that a segment stands for; an idle one stands for none. -/
def component? (segment : String) : Option Component :=
  if isIdle segment then none
  else if segment = ".." then some .above
  else some (.name segment)

theorem component?_of_isIdle {segment : String}
    (hidle : isIdle segment = true) :
    component? segment = none := by
  rw [component?, if_pos hidle]

theorem component?_eq_name {segment : String} (hidle : isIdle segment = false)
    (habove : segment ≠ "..") : component? segment = some (.name segment) := by
  rw [component?, if_neg (by simp [hidle]), if_neg habove]

/-! ## Steps of a walk -/

theorem walk_append (tree : Tree) (place : List String)
    (front back : List String) :
    walk tree place (front ++ back) =
      walk tree place front >>= fun next => walk tree next back := by
  induction front generalizing place with
  | nil => rfl
  | cons segment rest ih =>
      rw [List.cons_append, walk, walk]
      cases enter tree place segment with
      | error error => rfl
      | ok next => exact ih next

theorem walk_append_empty (tree : Tree) (place front : List String) :
    walk tree place (front ++ [""]) = walk tree place front := by
  rw [walk_append]
  cases walk tree place front <;> rfl

/-- A step that succeeds leads where its component says. -/
theorem eq_of_enter_eq_ok {tree : Tree} {place next : List String}
    {segment : String} (hnext : enter tree place segment = .ok next) :
    next = (component? segment).elim place (Component.leadFrom place) := by
  unfold enter at hnext
  unfold component?
  split_ifs at hnext ⊢ with hidle habove hlong
  · exact (Except.ok.inj hnext).symm
  · exact (Except.ok.inj hnext).symm
  · split at hnext
    · cases hnext
    · cases hnext
    · exact (Except.ok.inj hnext).symm

theorem enter_normalName {tree : Tree} {place next : List String}
    {name : String} (hname : NormalName name)
    (hnext : enter tree place name = .ok next) : next = place ++ [name] := by
  rw [eq_of_enter_eq_ok hnext,
    component?_eq_name hname.isIdle_eq_false hname.ne_above]
  rfl

/-- A walk that succeeds leads where the components of its segments say one
after the other. -/
theorem eq_of_walk_eq_ok {tree : Tree} {place last : List String}
    {parts : List String} (hlast : walk tree place parts = .ok last) :
    last = (parts.filterMap component?).foldl Component.leadFrom place := by
  induction parts generalizing place with
  | nil => exact (Except.ok.inj hlast).symm
  | cons segment rest ih =>
      rw [walk] at hlast
      cases hnext : enter tree place segment with
      | error error =>
          rw [hnext] at hlast
          cases hlast
      | ok next =>
          rw [hnext] at hlast
          rw [ih hlast, eq_of_enter_eq_ok hnext]
          cases hcomponent : component? segment with
          | none => rw [List.filterMap_cons_none hcomponent, Option.elim_none]
          | some component =>
              rw [List.filterMap_cons_some hcomponent, List.foldl_cons,
                Option.elim_some]

/-! ## Paths below a directory -/

def startOf (tree : Tree) (path : String) : List String :=
  if isAbsolute path then [] else tree.workingDirectory

def resolve (tree : Tree) (path : String) : Except SystemError (List String) :=
  walk tree (startOf tree path) (segments path)

/-- The place that a path names for a file. -/
def filePlace? (tree : Tree) (path : String) : Option (List String) :=
  match locate tree path with
  | .ok (.named place name false) => some (place ++ [name])
  | _ => none

/-- A text that the system takes for a path, whether it leads anywhere or
not. -/
structure PathText (path : String) : Prop where
  no_zero : '\x00' ∉ path.toList
  ne_empty : path ≠ ""
  length : path.utf8ByteSize ≤ maxPathLength

/-- The segments of a path without the empty ones at the end. -/
def keptSegments (path : String) : List String :=
  ((segments path).reverse.dropWhile (· == "")).reverse

/-- What the last segment of a path says in the directory that those before it
lead to. -/
def targetIn (place : List String) (last : String) (slash : Bool) : Target :=
  if last = "." then .directory place
  else if last = ".." then .directory place.dropLast
  else .named place last slash

/-- Where a path leads, its text taken for granted. -/
def follow (tree : Tree) (path : String) : Except SystemError Target :=
  match (keptSegments path).getLast? with
  | none => .ok (.directory [])
  | some last =>
    (walk tree (startOf tree path) (keptSegments path).dropLast).map
      fun place =>
        targetIn place last
          ((keptSegments path).length != (segments path).length)

theorem locate_of_pathText {path : String} (hpath : PathText path)
    (tree : Tree) :
    locate tree path = follow tree path := by
  have hlength : ¬path.utf8ByteSize > maxPathLength :=
    Nat.not_lt.mpr hpath.length
  rw [locate, if_neg (by simpa using hpath.no_zero), if_neg hpath.ne_empty,
    if_neg hlength]
  simp only [follow, keptSegments, startOf]
  cases ((segments path).reverse.dropWhile (· == "")).reverse.getLast? with
  | none => rfl
  | some last =>
      simp only [targetIn]
      cases walk tree (if isAbsolute path then [] else tree.workingDirectory)
          ((segments path).reverse.dropWhile (· == "")).reverse.dropLast with
      | error error => rfl
      | ok place =>
          simp only [bind, Except.bind, Except.map]
          split_ifs <;> rfl

theorem pathText_of_locate {tree : Tree} {path : String} {target : Target}
    (htarget : locate tree path = .ok target) : PathText path := by
  unfold locate at htarget
  split at htarget
  · cases htarget
  split at htarget
  · cases htarget
  split at htarget
  · cases htarget
  rename_i hzero hempty hlength
  exact ⟨by simpa using hzero, hempty, Nat.not_lt.mp hlength⟩

theorem locate_eq_ok_iff {tree : Tree} {path : String} {target : Target} :
    locate tree path = .ok target ↔
      PathText path ∧ follow tree path = .ok target := by
  constructor
  · intro htarget
    have hpath := pathText_of_locate htarget
    exact ⟨hpath, locate_of_pathText hpath tree ▸ htarget⟩
  · rintro ⟨hpath, htarget⟩
    rw [locate_of_pathText hpath, htarget]

theorem segments_eq_append {path : String} {front back : List Char}
    (hpath : path.toList = front ++ '/' :: back) :
    segments path =
      segments (String.ofList front) ++ segments (String.ofList back) := by
  have hpieces : Text.pieces (· == '/') (front ++ '/' :: back) =
      Text.pieces (· == '/') front ++ Text.pieces (· == '/') back :=
    Text.pieces_append_cut rfl front back
  simp [segments, hpath, hpieces]

theorem isAbsolute_joinPath (directory : String) {path : String}
    (hpath : isAbsolute path = false) :
    isAbsolute (joinPath directory path) = isAbsolute directory := by
  by_cases hempty : directory = ""
  · subst hempty
    have hjoin : joinPath "" path = path := by simp [joinPath]
    rw [hjoin, hpath]
    rfl
  · obtain ⟨c, rest, hchars⟩ : ∃ c rest, directory.toList = c :: rest :=
      List.exists_cons_of_ne_nil (by simpa using hempty)
    unfold joinPath
    rw [hpath, if_neg (by simpa using hempty)]
    split <;> simp [isAbsolute, hchars]

/-- The segments of a path follow those of the directory that it is joined to.
Only an empty segment at the end of the directory is lost. -/
theorem exists_segments_joinPath (directory : String) {path : String}
    (hpath : isAbsolute path = false) :
    ∃ front, segments (joinPath directory path) = front ++ segments path ∧
      (segments directory = front ∨ segments directory = front ++ [""]) := by
  by_cases hempty : directory = ""
  · subst hempty
    have hjoin : joinPath "" path = path := by simp [joinPath]
    rw [hjoin]
    exact ⟨[], rfl, Or.inr rfl⟩
  by_cases hslash : directory.toList.getLast? = some '/'
  · obtain ⟨front, hfront⟩ := List.getLast?_eq_some_iff.mp hslash
    have hjoin : joinPath directory path = directory ++ path := by
      simp [joinPath, hpath, hempty, hslash]
    refine ⟨segments (String.ofList front), ?_,
      Or.inr (segments_eq_append hfront)⟩
    rw [hjoin,
      segments_eq_append (by simp [hfront] : _ = front ++ '/' :: path.toList),
      String.ofList_toList]
  · have hjoin : joinPath directory path = directory ++ "/" ++ path := by
      simp [joinPath, hpath, hempty, hslash]
    refine ⟨segments directory, ?_, Or.inl rfl⟩
    rw [hjoin,
      segments_eq_append (by simp : _ = directory.toList ++ '/' :: path.toList),
      String.ofList_toList, String.ofList_toList]

section JoinPath

variable {name : String} (hname : NormalName name) (directory : String)

include hname

/-- The segments in front of the name lead wherever those of the directory
do. -/
theorem exists_segments_joinPath_name :
    ∃ front, segments (joinPath directory name) = front ++ [name] ∧
      ∀ tree place,
        walk tree place front = walk tree place (segments directory) := by
  obtain ⟨front, hsegments, hdirectory⟩ :=
    exists_segments_joinPath directory hname.isAbsolute_eq_false
  refine ⟨front, by rw [hsegments, hname.segments_eq], fun tree place => ?_⟩
  rcases hdirectory with hdirectory | hdirectory
  · rw [hdirectory]
  · rw [hdirectory, walk_append_empty]

theorem startOf_joinPath (tree : Tree) :
    startOf tree (joinPath directory name) = startOf tree directory := by
  rw [startOf, startOf, isAbsolute_joinPath directory hname.isAbsolute_eq_false]

theorem resolve_joinPath (tree : Tree) :
    resolve tree (joinPath directory name) =
      resolve tree directory >>= fun place => enter tree place name := by
  obtain ⟨front, hsegments, hwalk⟩ :=
    exists_segments_joinPath_name hname directory
  rw [resolve, hsegments, startOf_joinPath hname, walk_append, hwalk, ← resolve]
  congr 1
  funext place
  rw [walk]
  cases enter tree place name <;> rfl

/-- A name is looked for in the directory that it stands below in the path. -/
theorem exists_of_locate_joinPath {tree : Tree} {target : Target}
    (htarget : locate tree (joinPath directory name) = .ok target) :
    ∃ above, resolve tree directory = .ok above ∧
      target = .named above name false := by
  obtain ⟨front, hsegments, hwalk⟩ :=
    exists_segments_joinPath_name hname directory
  have hkept : keptSegments (joinPath directory name) = front ++ [name] := by
    simp [keptSegments, hsegments, hname.ne_empty]
  obtain ⟨-, htarget⟩ := locate_eq_ok_iff.mp htarget
  unfold follow at htarget
  simp only [hsegments, hkept, startOf_joinPath hname, List.getLast?_concat,
    List.dropLast_concat, hwalk, bne_self_eq_false] at htarget
  rw [← resolve] at htarget
  cases hresolve : resolve tree directory with
  | error error => simp [hresolve, Except.map] at htarget
  | ok above =>
      refine ⟨above, rfl, ?_⟩
      simpa [hresolve, Except.map, targetIn, hname.ne_here, hname.ne_above,
        eq_comm] using htarget

theorem exists_of_filePlace?_joinPath {tree : Tree} {place : List String}
    (hplace : filePlace? tree (joinPath directory name) = some place) :
    ∃ above, resolve tree directory = .ok above ∧ place = above ++ [name] := by
  unfold filePlace? at hplace
  split at hplace
  · rename_i above last hlocate
    obtain ⟨place, hresolve, htarget⟩ :=
      exists_of_locate_joinPath hname directory hlocate
    cases htarget
    exact ⟨above, hresolve, (Option.some.inj hplace).symm⟩
  · cases hplace

end JoinPath

/-- A name below a directory that stands in the root is looked for two levels
below the root. -/
theorem exists_of_filePlace?_below {tree : Tree} {root directory name : String}
    {place : List String} (hdirectory : NormalName directory)
    (hname : NormalName name)
    (hplace :
      filePlace? tree (joinPath (joinPath root directory) name) = some place) :
    ∃ above,
      resolve tree root = .ok above ∧ place = above ++ [directory, name] := by
  obtain ⟨inside, hinside, rfl⟩ := exists_of_filePlace?_joinPath hname _ hplace
  rw [resolve_joinPath hdirectory] at hinside
  cases habove : resolve tree root with
  | error error =>
      rw [habove] at hinside
      cases hinside
  | ok above =>
      rw [habove] at hinside
      refine ⟨above, rfl, ?_⟩
      rw [enter_normalName hdirectory hinside, List.append_assoc,
        List.singleton_append]

end FileTree
end ApiClientGen
