import ApiClientGen.Proofs.CommandRuns

/-!
# The format of a source

The format of a source is told from the ending of its name, and a query and a
fragment are cut off first.  In an address that leaves the name of the document.
But a local path is cut at the same marks, though it has neither a query nor a
fragment and the marks are part of its names.  So the part in front of the first
mark decides, while the ending of a path is that of the part behind the last
one.  The two readings of a path differ exactly if one of these parts has the
ending of a YAML file and the other one has not.
-/

namespace ApiClientGen
namespace Command

open FileTree (Tree)

/-! ## Endings -/

def yamlEndings : List String := [".yaml", ".yml"]

/-- A name that ends like that of a YAML file, in either case of letters. -/
def HasYamlEnding (name : List Char) : Prop :=
  ∃ ending ∈ yamlEndings, ending.toList <:+ Text.asciiLower name

instance (name : List Char) : Decidable (HasYamlEnding name) :=
  List.decidableBEx
    (fun ending : String => ending.toList <:+ Text.asciiLower name) yamlEndings

/-- Whether `c` begins the query or the fragment of an address. -/
def isAddressMark (c : Char) : Bool :=
  c == '?' || c == '#'

/-- A text that does not reach back over a character ends the whole exactly if
it ends what is behind the character. -/
theorem suffix_append_cons_iff {text front back : List Char} {c : Char}
    (hc : c ∉ text) :
    text <:+ front ++ c :: back ↔ text <:+ back := by
  constructor
  · intro hwhole
    rcases List.suffix_or_suffix_of_suffix hwhole
        (List.suffix_append front (c :: back)) with
      hshort | hlong
    · rcases List.suffix_cons_iff.mp hshort with rfl | hback
      · exact absurd List.mem_cons_self hc
      · exact hback
    · exact absurd (hlong.subset List.mem_cons_self) hc
  · intro hback
    exact (hback.trans (List.suffix_cons c back)).trans
      (List.suffix_append front (c :: back))

theorem toLower_of_isAddressMark {c : Char} (hc : isAddressMark c = true) :
    c.toLower = c := by
  have hmark : c = '?' ∨ c = '#' := by simpa [isAddressMark] using hc
  rcases hmark with rfl | rfl <;> decide

/-- No ending has a mark, so only what is behind a mark can have one. -/
theorem hasYamlEnding_append_mark {mark : Char}
    (hmark : isAddressMark mark = true) (front back : List Char) :
    HasYamlEnding (front ++ mark :: back) ↔ HasYamlEnding back := by
  have hplain : (yamlEndings.all fun ending =>
      ending.toList.all (!isAddressMark ·)) = true := by decide
  unfold HasYamlEnding
  apply exists_congr
  intro ending
  apply and_congr_right
  intro hending
  have hnot : mark ∉ ending.toList := by
    intro hmem
    have hboth :=
      List.all_eq_true.mp (List.all_eq_true.mp hplain ending hending) mark hmem
    rw [hmark] at hboth
    cases hboth
  rw [Text.asciiLower, List.map_append, List.map_cons,
    toLower_of_isAddressMark hmark, suffix_append_cons_iff hnot]
  rfl

/-! ## The parts of a source between its marks -/

/-- The parts of a source between its marks.  A source without a mark is one
part. -/
def nameParts (source : String) : List (List Char) :=
  source.toList.splitOnP isAddressMark

theorem head?_splitOnP (p : Char → Bool) (cs : List Char) :
    (cs.splitOnP p).head? = some (cs.takeWhile (!p ·)) := by
  induction cs with
  | nil => rfl
  | cons c rest ih =>
      rw [List.splitOnP_cons_eq_if_modifyHead]
      by_cases hc : p c = true
      · simp [hc]
      · simp [hc, ih]

/-- The part in front of the first mark decides. -/
theorem isYaml_iff (source : String) :
    isYaml source = true ↔
      HasYamlEnding (source.toList.takeWhile (!isAddressMark ·)) := by
  have hmark : (fun c : Char => c != '?' && c != '#') = (!isAddressMark ·) := by
    funext c
    rw [isAddressMark, Bool.not_or]
    rfl
  rw [isYaml, hmark]
  simp [HasYamlEnding, yamlEndings]

theorem exists_last_mark (cs : List Char) :
    (∀ c ∈ cs, isAddressMark c = false) ∨
      ∃ front mark back,
        cs = front ++ mark :: back ∧ isAddressMark mark = true ∧
          ∀ c ∈ back, isAddressMark c = false := by
  induction cs with
  | nil => exact Or.inl (List.forall_mem_nil _)
  | cons c rest ih =>
      rcases ih with hnone | ⟨front, mark, back, rfl, hmark, hback⟩
      · cases hc : isAddressMark c with
        | true => exact Or.inr ⟨[], c, rest, rfl, hc, hnone⟩
        | false => exact Or.inl (List.forall_mem_cons.mpr ⟨hc, hnone⟩)
      · exact Or.inr ⟨c :: front, mark, back, rfl, hmark, hback⟩

/-- The ending of a source is that of its last part. -/
theorem exists_last_part (source : String) :
    ∃ last, (nameParts source).getLast? = some last ∧
      (HasYamlEnding source.toList ↔ HasYamlEnding last) := by
  unfold nameParts
  rcases exists_last_mark source.toList with
    hnone | ⟨front, mark, back, hsplit, hmark, hback⟩
  · exact ⟨source.toList,
      by rw [List.splitOnP_eq_singleton hnone]; rfl, Iff.rfl⟩
  · refine ⟨back, ?_, ?_⟩
    · rw [hsplit, List.splitOnP_append_cons front back hmark,
        List.splitOnP_eq_singleton hback]
      simp
    · rw [hsplit, hasYamlEnding_append_mark hmark]

/-! ## Formats -/

/-- Every source, be it an address or a path, is read as YAML exactly if the
part in front of its first mark has the ending of a YAML file.  The whole source
says the same if and only if the parts in front of the first mark and behind the
last one both have such an ending or both have none.  A local source gives the
plan of the document that its text holds in the format of the part in front, and
no other plan. -/
theorem format_follows_first_part (source : String) :
    ∃ first last,
      (nameParts source).head? = some first ∧
        (nameParts source).getLast? = some last ∧
        (isYaml source = true ↔ HasYamlEnding first) ∧
        ((isYaml source = true ↔ HasYamlEnding source.toList) ↔
          (HasYamlEnding first ↔ HasYamlEnding last)) ∧
        (isRemote source = false →
          ∀ tree network settings plan,
            planFor tree network settings source = .ok plan ↔
              ∃ text document, FileTree.readText tree source = .ok text ∧
                Document.load (if HasYamlEnding first then .yaml else .json)
                  text = .ok document ∧
                plan = Plan.ofDocument settings source document) := by
  obtain ⟨last, hlast, hending⟩ := exists_last_part source
  have hfirst := isYaml_iff source
  refine ⟨_, last, head?_splitOnP isAddressMark source.toList, hlast,
    hfirst, ?_, ?_⟩
  · rw [hfirst, hending]
  · intro hlocal tree network settings plan
    have hformat : formatOf source =
        if HasYamlEnding (source.toList.takeWhile (!isAddressMark ·)) then .yaml
        else .json := by
      simp only [formatOf, hfirst]
    simp only [planFor_eq_ok_iff, readSource_eq_ok_iff hlocal, hformat]

-- An ending behind the marks of an address does not count.
example : isYaml "HTTPS://h/api.YAML?v=2#/b.json" = true ∧
    isYaml "http://h/api?f=b.yml" = false := by
  decide +kernel

/-- The text of a document in YAML that is not one in JSON. -/
def yamlText : String := "info: \x7btitle: T, version: v1\x7d\npaths: \x7b\x7d"

/-- A directory `v1.yaml?`  has a file `api.YML`: the parts in front of the mark
and behind it agree. -/
theorem format_follows_first_part_directory :
    let source := "v1.yaml?/api.YML"
    let tree : Tree :=
      ⟨[(["v1.yaml?"], .directory),
        (["v1.yaml?", "api.YML"], .file yamlText.toUTF8)], []⟩
    isRemote source = false ∧
      (isYaml source = true ↔ HasYamlEnding source.toList) ∧
      ∀ network settings,
        ∃ plan, planFor tree network settings source = .ok plan := by
  intro source tree
  have hlocal : isRemote source = false := by decide +kernel
  obtain ⟨first, last, hfirst, hlast, -, hagree, hplan⟩ :=
    format_follows_first_part source
  obtain rfl : "v1.yaml".toList = first :=
    Option.some.inj
      ((by decide : some "v1.yaml".toList = (nameParts source).head?).trans
        hfirst)
  obtain rfl : "/api.YML".toList = last :=
    Option.some.inj
      ((by decide : some "/api.YML".toList = (nameParts source).getLast?).trans
        hlast)
  have hname : HasYamlEnding "v1.yaml".toList := by decide
  refine ⟨hlocal, hagree.mpr (by decide), fun network settings => ?_⟩
  have hread : FileTree.readText tree source = .ok yamlText :=
    Document.toOption_eq_some_iff.mp (by decide +kernel)
  have hload : (Document.load .yaml yamlText).toOption.isSome = true := by
    decide +kernel
  obtain ⟨document, hdocument⟩ := Option.isSome_iff_exists.mp hload
  refine ⟨_,
    (hplan hlocal tree network settings _).mpr ⟨yamlText, document,
      hread, ?_, rfl⟩⟩
  rw [if_pos hname]
  exact Document.toOption_eq_some_iff.mp hdocument

/-- A directory `pets#1` hides the ending of the files in it: a document in YAML
is not read. -/
theorem marked_directory_hides_ending :
    let source := "pets#1/api.yaml"
    let tree : Tree := ⟨[(["pets#1"], .directory),
      (["pets#1", "api.yaml"], .file yamlText.toUTF8)], []⟩
    isRemote source = false ∧ HasYamlEnding source.toList ∧
      isYaml source = false ∧
      (Document.load .yaml yamlText).toOption.isSome = true ∧
      (FileTree.readText tree source).toOption = some yamlText ∧
      (localDocument? tree source).isSome = false := by
  decide +kernel

end Command
end ApiClientGen
