import ApiClientGen.Document.LoadDocument
import ApiClientGen.Proofs.DocumentAcceptance

/-!
# Readers give distinct keys

Both formats allow a key to be written twice in an object.  What is read from a
text has it once nevertheless, in either format and at every depth, because
entries are put in under their keys.  So what holds of values with distinct keys
holds of every text that can be read.
-/

namespace ApiClientGen

open Json (Value)

namespace Json

open Document (bind_eq_ok_iff mapError_eq_ok_iff)

theorem keysDistinct_putEntry {fields : List (String × Value)}
    (hfields : (Value.object fields).KeysDistinct) {value : Value}
    (hvalue : value.KeysDistinct) (key : String) :
    (Value.object (putEntry key value fields)).KeysDistinct := by
  rw [Value.keysDistinct_object_iff] at hfields ⊢
  refine ⟨nodup_putEntry key value hfields.1, fun entry hentry => ?_⟩
  rcases mem_putEntry hentry with rfl | hentry
  · exact hvalue
  · exact hfields.2 entry hentry

/-! ## Reading JSON -/

/-- What the readers give within a number of steps, if what was read before has
distinct keys. -/
structure ReadersDistinct (steps : ℕ) : Prop where
  value : ∀ {depth : ℕ} {cs rest : List Char} {value : Value},
    readValue steps depth cs = .ok (value, rest) → value.KeysDistinct
  items : ∀ {depth : ℕ} {isFirst : Bool} {done items : List Value}
    {cs rest : List Char},
    (Value.array done).KeysDistinct →
      readItems steps depth isFirst done cs = .ok (items, rest) →
      (Value.array items).KeysDistinct
  item : ∀ {depth : ℕ} {done items : List Value} {cs rest : List Char},
    (Value.array done).KeysDistinct →
      readItem steps depth done cs = .ok (items, rest) →
      (Value.array items).KeysDistinct
  fields : ∀ {depth : ℕ} {isFirst : Bool} {done fields : List (String × Value)}
    {cs rest : List Char},
    (Value.object done).KeysDistinct →
      readFields steps depth isFirst done cs = .ok (fields, rest) →
      (Value.object fields).KeysDistinct
  field : ∀ {depth : ℕ} {done fields : List (String × Value)}
    {cs rest : List Char},
    (Value.object done).KeysDistinct →
      readField steps depth done cs = .ok (fields, rest) →
      (Value.object fields).KeysDistinct

theorem keysDistinct_of_readWord {word cs rest : List Char}
    {value result : Value} (hvalue : value.KeysDistinct)
    (hread : readWord value word cs = .ok (result, rest)) :
    result.KeysDistinct := by
  induction word generalizing cs with
  | nil =>
      cases hread
      exact hvalue
  | cons expected word ih =>
      cases cs with
      | nil => cases hread
      | cons c cs =>
          rw [readWord] at hread
          split at hread
          · exact ih hread
          · cases hread

theorem readersDistinct (steps : ℕ) : ReadersDistinct steps := by
  induction steps with
  | zero =>
      constructor
      · intro depth cs rest value hread
        rw [readValue] at hread
        cases hread
      · intro depth isFirst done items cs rest _ hread
        rw [readItems] at hread
        cases hread
      · intro depth done items cs rest _ hread
        rw [readItem] at hread
        cases hread
      · intro depth isFirst done fields cs rest _ hread
        rw [readFields] at hread
        cases hread
      · intro depth done fields cs rest _ hread
        rw [readField] at hread
        cases hread
  | succ steps ih =>
      constructor
      · intro depth cs rest value hread
        rw [readValue] at hread
        split at hread
        · cases hread
        · exact keysDistinct_of_readWord .null hread
        · exact keysDistinct_of_readWord (.bool true) hread
        · exact keysDistinct_of_readWord (.bool false) hread
        · obtain ⟨⟨text, behind⟩, -, hread⟩ := bind_eq_ok_iff.mp hread
          cases hread
          exact .string text
        · split at hread
          · cases hread
          · obtain ⟨⟨items, behind⟩, hitems, hread⟩ := bind_eq_ok_iff.mp hread
            cases hread
            exact ih.items (by simp) hitems
        · split at hread
          · cases hread
          · obtain ⟨⟨fields, behind⟩, hfields, hread⟩ := bind_eq_ok_iff.mp hread
            cases hread
            exact ih.fields (by simp [entryKeys]) hfields
        · split at hread
          · obtain ⟨⟨number, behind⟩, -, hread⟩ := bind_eq_ok_iff.mp hread
            cases hread
            exact .number number
          · cases hread
      · intro depth isFirst done items cs rest hdone hread
        rw [readItems] at hread
        split at hread
        · cases hread
        · cases hread
          rw [Value.keysDistinct_array_iff] at hdone ⊢
          intro item hitem
          exact hdone item (List.mem_reverse.mp hitem)
        · split at hread
          · exact ih.item hdone hread
          · split at hread
            · split at hread
              · cases hread
              · cases hread
              · exact ih.item hdone hread
            · cases hread
      · intro depth done items cs rest hdone hread
        rw [readItem] at hread
        obtain ⟨⟨item, behind⟩, hitem, hread⟩ := bind_eq_ok_iff.mp hread
        refine ih.items ?_ hread
        rw [Value.keysDistinct_array_iff] at hdone ⊢
        exact List.forall_mem_cons.mpr ⟨ih.value hitem, hdone⟩
      · intro depth isFirst done fields cs rest hdone hread
        rw [readFields] at hread
        split at hread
        · cases hread
        · cases hread
          exact hdone
        · split at hread
          · exact ih.field hdone hread
          · split at hread
            · split at hread
              · cases hread
              · cases hread
              · exact ih.field hdone hread
            · cases hread
      · intro depth done fields cs rest hdone hread
        unfold readField at hread
        split at hread
        · obtain ⟨⟨key, behind⟩, -, hread⟩ := bind_eq_ok_iff.mp hread
          obtain ⟨afterColon, -, hread⟩ := bind_eq_ok_iff.mp hread
          obtain ⟨⟨value, behindValue⟩, hvalue, hread⟩ :=
            bind_eq_ok_iff.mp hread
          exact ih.fields
            (keysDistinct_putEntry hdone (ih.value hvalue) key) hread
        · cases hread

theorem keysDistinct_of_parse {text : String} {value : Value}
    (hparse : parse text = .ok value) :
    value.KeysDistinct := by
  have hread : read text.toList = .ok value := mapError_eq_ok_iff.mp hparse
  obtain ⟨⟨first, rest⟩, hvalue, hend⟩ := bind_eq_ok_iff.mp hread
  simp only at hend
  split at hend
  · cases hend
    exact (readersDistinct _).value hvalue
  · cases hend

end Json

/-! ## Reading YAML -/

namespace Yaml

open Document (bind_eq_ok_iff mapError_eq_ok_iff)

/-- Whatever a computation gives has a property. -/
structure Gives {α : Type} (property : α → Prop) (computation : Following α) :
    Prop where
  of_eq_ok : ∀ {before after : ℕ} {result : α},
    computation before = .ok (result, after) → property result

namespace Gives

variable {α β : Type} {property : α → Prop} {next : α → Following β}
    {behind : β → Prop}

theorem pure {result : α} (hresult : property result) :
    Gives property (Pure.pure result : Following α) := by
  constructor
  intro before after other hother
  cases hother
  exact hresult

theorem bind {computation : Following α}
    (hcomputation : Gives property computation)
    (hnext : ∀ result, property result → Gives behind (next result)) :
    Gives behind (computation >>= next) := by
  constructor
  intro before after result hresult
  obtain ⟨⟨first, between⟩, hfirst, hrest⟩ := bind_eq_ok_iff.mp hresult
  exact (hnext first (hcomputation.of_eq_ok hfirst)).of_eq_ok hrest

theorem any (computation : Following α) : Gives (fun _ => True) computation :=
  ⟨fun _ => trivial⟩

theorem throw (fault : Fault) :
    Gives property (MonadExcept.throw fault : Following α) := by
  constructor
  intro before after result hresult
  cases hresult

theorem lift {result : Except Fault α}
    (hresult : ∀ value, result = .ok value → property value) :
    Gives property (liftM result : Following α) := by
  constructor
  intro before after value hvalue
  cases result with
  | error fault => cases hvalue
  | ok value =>
      cases hvalue
      exact hresult _ rfl

theorem mapM {f : β → Following α} {items : List β}
    (hitems : ∀ item ∈ items, Gives property (f item)) :
    Gives (fun results => ∀ result ∈ results, property result)
      (items.mapM f) := by
  induction items with
  | nil =>
      apply pure
      simp
  | cons item rest ih =>
      rw [List.mapM_cons]
      apply bind (hitems item List.mem_cons_self)
      intro first hfirst
      apply bind
        (ih fun other hother => hitems other (List.mem_cons_of_mem item hother))
      intro results hresults
      exact pure (List.forall_mem_cons.mpr ⟨hfirst, hresults⟩)

end Gives

theorem keysDistinct_of_value? {number : Real} {value : Value}
    (hvalue : number.value? = some value) :
    value.KeysDistinct := by
  cases number with
  | number value =>
      cases hvalue
      exact .number _
  | notFinite =>
      cases hvalue
      exact .null
  | notReal => cases hvalue

theorem keysDistinct_of_plainValue {text : String} {value : Value}
    (hvalue : plainValue text = .ok value) : value.KeysDistinct := by
  unfold plainValue at hvalue
  split at hvalue
  · cases hvalue
    exact .null
  · split at hvalue
    · cases hvalue
      exact .bool _
    · split at hvalue
      · cases hvalue
        exact .number _
      · cases hvalue
      · split at hvalue
        · cases hvalue
          exact .string text
        · cases hreal : (real text).value? with
          | none =>
              rw [hreal] at hvalue
              cases hvalue
              exact .string text
          | some number =>
              rw [hreal] at hvalue
              cases hvalue
              exact keysDistinct_of_value? hreal

theorem keysDistinct_of_taggedValue {tag text : String} {value : Value}
    (hvalue : taggedValue tag text = .ok value) : value.KeysDistinct := by
  unfold taggedValue at hvalue
  split at hvalue
  · split at hvalue
    · cases hvalue
      exact .bool _
    · cases hvalue
  split at hvalue
  · split at hvalue
    · cases hvalue
      exact .number _
    · cases hvalue
    · cases hvalue
  split at hvalue
  · split at hvalue
    · rename_i hreal
      cases hvalue
      exact keysDistinct_of_value? hreal
    · cases hvalue
  split at hvalue
  · split at hvalue
    · cases hvalue
      exact .null
    · cases hvalue
  split at hvalue
  · cases hvalue
  · cases hvalue
    exact .string text

theorem keysDistinct_of_scalarValue {tag : Option String} {text : String}
    {plain : Bool} {value : Value}
    (hvalue : scalarValue tag text plain = .ok value) : value.KeysDistinct := by
  unfold scalarValue at hvalue
  split at hvalue
  · exact keysDistinct_of_taggedValue hvalue
  · split at hvalue
    · exact keysDistinct_of_plainValue hvalue
    · cases hvalue
      exact .string text

theorem keysDistinct_foldl_putEntry {entries fields : List (String × Value)}
    (hfields : (Value.object fields).KeysDistinct)
    (hentries : ∀ entry ∈ entries, entry.2.KeysDistinct) :
    (Value.object
      (entries.foldl (fun done field => putEntry field.1 field.2 done)
        fields)).KeysDistinct := by
  induction entries generalizing fields with
  | nil => exact hfields
  | cons entry rest ih =>
      have hrest := List.forall_mem_cons.mp hentries
      exact ih (Json.keysDistinct_putEntry hfields hrest.1 entry.1) hrest.2

section NodeValue

variable (anchored : AnchoredNodes) (depth : ℕ) (node : NumberedNode)

theorem nodeValue_zero :
    nodeValue anchored 0 node = (do
      match ← follow anchored node with
      | .scalar properties text plain => scalarValue properties.tag text plain
      | .alias _ => throw .undefinedAlias
      | _ => throw .tooDeep) := by
  delta nodeValue
  show (_ >>= _) = (_ >>= _)
  congr 1
  funext followed
  cases followed <;> rfl

theorem nodeValue_succ :
    nodeValue anchored (depth + 1) node = (do
      match ← follow anchored node with
      | .scalar properties text plain => scalarValue properties.tag text plain
      | .sequence properties items => do
        checkTag properties
        let values ← items.mapM (nodeValue anchored depth)
        return .array values
      | .mapping properties entries => do
        checkTag properties
        let fields ← entries.mapM fun entry => do
          let key ← keyText anchored entry.1
          let value ← nodeValue anchored depth entry.2
          return (key, value)
        return .object
          (fields.foldl (fun done field => putEntry field.1 field.2 done) [])
      | .alias _ => throw .undefinedAlias) := by
  delta nodeValue
  show (_ >>= _) = (_ >>= _)
  congr 1
  funext followed
  cases followed <;> rfl

theorem gives_keysDistinct_nodeValue :
    Gives Value.KeysDistinct (nodeValue anchored depth node) := by
  induction depth generalizing node with
  | zero =>
      rw [nodeValue_zero]
      apply Gives.bind (Gives.any _)
      rintro (_ | ⟨properties, text, plain⟩ | _ | _) -
      · exact Gives.throw _
      · exact Gives.lift fun value => keysDistinct_of_scalarValue
      · exact Gives.throw _
      · exact Gives.throw _
  | succ depth ih =>
      rw [nodeValue_succ]
      apply Gives.bind (Gives.any _)
      rintro (_ | ⟨properties, text, plain⟩ | ⟨properties, items⟩ |
        ⟨properties, entries⟩) -
      · exact Gives.throw _
      · exact Gives.lift fun value => keysDistinct_of_scalarValue
      · apply Gives.bind (Gives.any _)
        intro _ _
        apply Gives.bind (Gives.mapM fun item _ => ih item)
        intro values hvalues
        exact Gives.pure (.array hvalues)
      · apply Gives.bind (Gives.any _)
        intro _ _
        have hentry (entry : NumberedNode × NumberedNode) :
            Gives (fun field : String × Value => field.2.KeysDistinct) (do
              let key ← keyText anchored entry.1
              let value ← nodeValue anchored depth entry.2
              return (key, value)) := by
          apply Gives.bind (Gives.any _)
          intro key _
          apply Gives.bind (ih entry.2)
          intro value hvalue
          exact Gives.pure hvalue
        apply Gives.bind (Gives.mapM fun entry _ => hentry entry)
        intro fields hfields
        exact Gives.pure
          (keysDistinct_foldl_putEntry (by simp [entryKeys]) hfields)

end NodeValue

theorem keysDistinct_of_documentValue {root : NamedNode} {value : Value}
    (hvalue : documentValue root = .ok value) : value.KeysDistinct := by
  obtain ⟨⟨node, anchored, numbers⟩, -, hvalue⟩ := bind_eq_ok_iff.mp hvalue
  obtain ⟨⟨read, left⟩, hread, hvalue⟩ := bind_eq_ok_iff.mp hvalue
  cases hvalue
  exact (gives_keysDistinct_nodeValue anchored maxDepth node).of_eq_ok hread

theorem keysDistinct_of_parse {text : String} {value : Value}
    (hparse : parse text = .ok value) :
    value.KeysDistinct := by
  have hread : read text.toList = .ok value := mapError_eq_ok_iff.mp hparse
  obtain ⟨words, -, hread⟩ := bind_eq_ok_iff.mp hread
  obtain ⟨root, -, hread⟩ := bind_eq_ok_iff.mp hread
  cases root with
  | none =>
      cases hread
      exact .null
  | some root => exact keysDistinct_of_documentValue hread

end Yaml

/-! ## Reading either format -/

namespace Document

theorem keysDistinct_of_readValue {format : Format} {text : String}
    {value : Value} (hread : readValue format text = .ok value) :
    value.KeysDistinct := by
  cases format with
  | json => exact Json.keysDistinct_of_parse (mapError_eq_ok_iff.mp hread)
  | yaml => exact Yaml.keysDistinct_of_parse (mapError_eq_ok_iff.mp hread)

/-- A text is loaded exactly if it holds a value that describes an API. -/
theorem exists_load_eq_ok_iff {format : Format} {text : String} :
    (∃ document, load format text = .ok document) ↔
      ∃ value, readValue format text = .ok value ∧
        ApiDocument.IsApiDescription value := by
  constructor
  · rintro ⟨document, hload⟩
    obtain ⟨value, hread, hdocument⟩ := bind_eq_ok_iff.mp hload
    have haccepts :=
      ApiDocument.accepts_ofJson_iff (keysDistinct_of_readValue hread)
    exact ⟨value, hread,
      haccepts.mp ⟨document, mapError_eq_ok_iff.mp hdocument⟩⟩
  · rintro ⟨value, hread, hdescription⟩
    have haccepts :=
      ApiDocument.accepts_ofJson_iff (keysDistinct_of_readValue hread)
    obtain ⟨document, hdocument⟩ := haccepts.mpr hdescription
    exact ⟨document,
      bind_eq_ok_iff.mpr ⟨value, hread, mapError_eq_ok_iff.mpr hdocument⟩⟩

end Document
end ApiClientGen
