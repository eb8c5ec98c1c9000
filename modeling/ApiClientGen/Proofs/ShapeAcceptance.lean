import ApiClientGen.Document.Shape
import Mathlib.Data.List.Forall2
import Mathlib.Data.List.Nodup

/-!
# The values that a shape accepts

A shape gives a node or the first thing that is wrong.  Here only the question
is kept whether it gives a node, and it is answered by what stands under the
keys of a value, without the order in which a record reads them.

In a value as a reader gives it no object has a key twice.  Without that, the
test of all entries and the look-up of a key could see different values.
-/

namespace ApiClientGen

/-! ## Entries and their keys -/

theorem exists_related_of_mem {α β : Type} {R : α → β → Prop} {xs : List α}
    {ys : List β} (hrelated : List.Forall₂ R xs ys) {y : β} (hy : y ∈ ys) :
    ∃ x ∈ xs, R x y := by
  induction hrelated with
  | nil => cases hy
  | cons hxy _ ih =>
      rcases List.mem_cons.mp hy with rfl | hlater
      · exact ⟨_, List.mem_cons_self .., hxy⟩
      · obtain ⟨x, hx, hxlater⟩ := ih hlater
        exact ⟨x, List.mem_cons_of_mem _ hx, hxlater⟩

theorem lookup_eq_some_iff_mem {α : Type} {entries : List (String × α)}
    (hkeys : (entryKeys entries).Nodup) {key : String} {value : α} :
    entries.lookup key = some value ↔ (key, value) ∈ entries := by
  induction entries with
  | nil => simp
  | cons entry rest ih =>
      obtain ⟨k, v⟩ := entry
      have hcons : k ∉ entryKeys rest ∧ (entryKeys rest).Nodup :=
        List.nodup_cons.mp hkeys
      have hrest := ih hcons.2
      by_cases hkey : key = k
      · subst hkey
        have hnot : ∀ other, (key, other) ∉ rest := fun other hmem =>
          hcons.1 (List.mem_map_of_mem hmem)
        simp [hnot, eq_comm]
      · have htest : (key == k) = false := beq_eq_false_iff_ne.mpr hkey
        simp [List.lookup_cons, htest, hrest, hkey]

theorem putEntry_of_not_mem {α : Type} {key : String}
    {entries : List (String × α)} (hkey : key ∉ entryKeys entries) (value : α) :
    putEntry key value entries = entries ++ [(key, value)] := by
  induction entries with
  | nil => rfl
  | cons entry rest ih =>
      obtain ⟨k, v⟩ := entry
      have hcons : key ≠ k ∧ key ∉ entryKeys rest := by
        simpa [entryKeys] using hkey
      rw [putEntry, if_neg (Ne.symm hcons.1), ih hcons.2, List.cons_append]

theorem mem_putEntry {α : Type} {key : String} {value : α}
    {entries : List (String × α)} {entry : String × α}
    (hentry : entry ∈ putEntry key value entries) :
    entry = (key, value) ∨ entry ∈ entries := by
  induction entries with
  | nil => exact Or.inl (List.mem_singleton.mp hentry)
  | cons first rest ih =>
      obtain ⟨k, v⟩ := first
      by_cases hkey : k = key
      · subst hkey
        rw [putEntry, if_pos rfl, List.mem_cons] at hentry
        exact hentry.imp_right (List.mem_cons_of_mem _)
      · rw [putEntry, if_neg hkey, List.mem_cons] at hentry
        rcases hentry with rfl | hrest
        · exact Or.inr List.mem_cons_self
        · exact (ih hrest).imp_right (List.mem_cons_of_mem _)

namespace OrderedMap

variable {α : Type}

theorem entries_foldl_insert (entries : List (String × α)) (m : OrderedMap α)
    (hkeys : (entryKeys (m.entries ++ entries)).Nodup) :
    (entries.foldl (fun m entry => m.insert entry.1 entry.2) m).entries =
      m.entries ++ entries := by
  induction entries generalizing m with
  | nil => simp
  | cons entry rest ih =>
      obtain ⟨key, value⟩ := entry
      have hnew : key ∉ entryKeys m.entries := by
        intro hmem
        have hdisjoint :=
          (List.nodup_append.mp (by simpa [entryKeys] using hkeys)).2.2
        exact hdisjoint key hmem key (List.mem_cons_self ..) rfl
      have hinsert :
          (m.insert key value).entries = m.entries ++ [(key, value)] :=
        putEntry_of_not_mem hnew value
      have hrest := ih (m.insert key value) (by simpa [hinsert] using hkeys)
      rw [List.foldl_cons, hrest, hinsert, List.append_assoc,
        List.singleton_append]

/-- Entries with distinct keys are kept as they are. -/
theorem toList_ofList {entries : List (String × α)}
    (hkeys : (entryKeys entries).Nodup) :
    (ofList entries).toList = entries := by
  exact entries_foldl_insert entries empty hkeys

end OrderedMap

namespace Json

/-- No object in the value has a key twice. -/
inductive Value.KeysDistinct : Value → Prop where
  | null : Value.null.KeysDistinct
  | bool (value : Bool) : (Value.bool value).KeysDistinct
  | number (value : Number) : (Value.number value).KeysDistinct
  | string (text : String) : (Value.string text).KeysDistinct
  | array {items : List Value} (hitems : ∀ item ∈ items, item.KeysDistinct) :
      (Value.array items).KeysDistinct
  | object {fields : List (String × Value)} (hkeys : (entryKeys fields).Nodup)
      (hfields : ∀ entry ∈ fields, entry.2.KeysDistinct) :
      (Value.object fields).KeysDistinct

namespace Value

@[simp]
theorem keysDistinct_array_iff {items : List Value} :
    (Value.array items).KeysDistinct ↔ ∀ item ∈ items, item.KeysDistinct := by
  constructor
  · rintro ⟨⟩
    assumption
  · exact .array

@[simp]
theorem keysDistinct_object_iff {fields : List (String × Value)} :
    (Value.object fields).KeysDistinct ↔
      (entryKeys fields).Nodup ∧ ∀ entry ∈ fields, entry.2.KeysDistinct := by
  constructor
  · rintro ⟨⟩
    constructor <;> assumption
  · rintro ⟨hkeys, hfields⟩
    exact .object hkeys hfields

attribute [simp] KeysDistinct.null KeysDistinct.bool KeysDistinct.number
  KeysDistinct.string

theorem KeysDistinct.nodup_keys {fields : List (String × Value)}
    (hobject : (Value.object fields).KeysDistinct) : (entryKeys fields).Nodup :=
  (keysDistinct_object_iff.mp hobject).1

theorem KeysDistinct.of_lookup {fields : List (String × Value)}
    (hobject : (Value.object fields).KeysDistinct) {key : String}
    {value : Value} (hvalue : fields.lookup key = some value) :
    value.KeysDistinct := by
  obtain ⟨hkeys, hfields⟩ := keysDistinct_object_iff.mp hobject
  exact hfields (key, value) ((lookup_eq_some_iff_mem hkeys).mp hvalue)

end Value
end Json

namespace Document

open Json (Value)

/-! ## Success of a sequence of readings -/

theorem bind_eq_ok_iff {ε α β : Type} {result : Except ε α}
    {next : α → Except ε β} {b : β} :
    result >>= next = .ok b ↔ ∃ a, result = .ok a ∧ next a = .ok b := by
  cases result <;> simp [bind, Except.bind]

theorem map_eq_ok_iff {ε α β : Type} {result : Except ε α} {f : α → β} {b : β} :
    result.map f = .ok b ↔ ∃ a, result = .ok a ∧ f a = b := by
  cases result <;> simp [Except.map]

theorem mapError_eq_ok_iff {ε ε' α : Type} {result : Except ε α} {f : ε → ε'}
    {a : α} :
    result.mapError f = .ok a ↔ result = .ok a := by
  cases result <;> simp [Except.mapError]

theorem toOption_eq_some_iff {ε α : Type} {result : Except ε α} {a : α} :
    result.toOption = some a ↔ result = .ok a := by
  cases result <;> simp [Except.toOption]

/-- The shape gives a node for the value. -/
def Accepts {α : Type} (shape : Shape α) (value : Value) : Prop :=
  ∃ node, shape value = .ok node

/-! ## What stands under a key -/

/-- The key is there and its value has the property. -/
def RequiredAt (property : Value → Prop) (fields : List (String × Value))
    (key : String) : Prop :=
  ∃ value, fields.lookup key = some value ∧ property value

/-- The key is not there, or its value is null, or its value has the
property. -/
def OptionalAt (property : Value → Prop) (fields : List (String × Value))
    (key : String) : Prop :=
  fields.lookup key = none ∨ fields.lookup key = some .null ∨
    RequiredAt property fields key

def IsText (value : Value) : Prop :=
  ∃ text, value = .string text

def IsObject (value : Value) : Prop :=
  ∃ fields, value = .object fields

section Shapes

variable {α : Type} {shape : Shape α} {fields : List (String × Value)}
    {key : String}

theorem accepts_string : Accepts string = IsText := by
  funext value
  cases value <;> simp [Accepts, IsText, string]

theorem accepts_optional_iff {value : Value} :
    Accepts (optional shape) value ↔ value = .null ∨ Accepts shape value := by
  cases value <;> simp [Accepts, optional, map_eq_ok_iff]

theorem readEntries_eq_ok_iff {nodes : List (String × α)} :
    readEntries shape fields = .ok nodes ↔
      List.Forall₂ (fun field node => node.1 = field.1 ∧
        shape field.2 = .ok node.2) fields nodes := by
  induction fields generalizing nodes with
  | nil => simp [readEntries, eq_comm]
  | cons field rest ih =>
      obtain ⟨key, value⟩ := field
      simp only [readEntries, bind_eq_ok_iff, Except.ok.injEq,
        List.forall₂_cons_left_iff, ih]
      constructor
      · rintro ⟨node, hnode, others, hothers, rfl⟩
        exact ⟨(key, node), others, ⟨rfl, hnode⟩, hothers, rfl⟩
      · rintro ⟨⟨_, node⟩, others, ⟨rfl, hnode⟩, hothers, rfl⟩
        exact ⟨node, hnode, others, hothers, rfl⟩

theorem accepts_readEntries_iff :
    (∃ nodes, readEntries shape fields = .ok nodes) ↔
      ∀ entry ∈ fields, Accepts shape entry.2 := by
  simp only [readEntries_eq_ok_iff]
  induction fields with
  | nil => simp
  | cons field rest ih =>
      rw [List.forall_mem_cons, ← ih]
      constructor
      · rintro ⟨_, hnodes⟩
        cases hnodes with
        | cons hnode hrest => exact ⟨⟨_, hnode.2⟩, _, hrest⟩
      · rintro ⟨⟨node, hnode⟩, nodes, hrest⟩
        exact ⟨(field.1, node) :: nodes, List.Forall₂.cons ⟨rfl, hnode⟩ hrest⟩

theorem accepts_mapOf_iff {value : Value} :
    Accepts (mapOf shape) value ↔
      ∃ fields,
        value = .object fields ∧ ∀ entry ∈ fields, Accepts shape entry.2 := by
  cases value with
  | object fields =>
      have hentries : (∃ nodes, readEntries shape fields = .ok nodes) ↔
          ∀ entry ∈ fields, Accepts shape entry.2 := accepts_readEntries_iff
      simpa [Accepts, mapOf, map_eq_ok_iff] using hentries
  | _ => simp [Accepts, mapOf]

theorem accepts_mapOf_raw : Accepts (mapOf raw) = IsObject := by
  funext value
  have hraw : ∀ entry : String × Value, Accepts raw entry.2 := fun entry =>
    ⟨entry.2, rfl⟩
  rw [accepts_mapOf_iff]
  simp [IsObject, hraw]

/-- A map has the keys of the object it is read from, in the same order. -/
theorem exists_forall₂_of_mapOf_eq_ok {value : Value}
    (hvalue : value.KeysDistinct) {m : OrderedMap α}
    (hm : mapOf shape value = .ok m) :
    ∃ fields, value = .object fields ∧
      List.Forall₂ (fun field node => node.1 = field.1 ∧
        shape field.2 = .ok node.2) fields m.toList := by
  cases value with
  | object fields =>
      obtain ⟨nodes, hnodes, rfl⟩ := map_eq_ok_iff.mp hm
      have hrelated := readEntries_eq_ok_iff.mp hnodes
      have hkeys : entryKeys nodes = entryKeys fields := by
        symm
        rw [entryKeys, entryKeys, ← List.forall₂_eq_eq_eq,
          List.forall₂_map_left_iff, List.forall₂_map_right_iff]
        exact hrelated.imp fun _ _ hnode => hnode.1.symm
      refine ⟨fields, rfl, ?_⟩
      rwa [OrderedMap.toList_ofList (hkeys ▸ hvalue.nodup_keys)]
  | _ => simp [mapOf] at hm

theorem eq_object_of_mapOf_raw {value : Value} (hvalue : value.KeysDistinct)
    {m : OrderedMap Value} (hm : mapOf raw value = .ok m) :
    value = .object m.toList := by
  obtain ⟨fields, rfl, hrelated⟩ := exists_forall₂_of_mapOf_eq_ok hvalue hm
  have hsame : fields = m.toList := by
    rw [← List.forall₂_eq_eq_eq]
    apply hrelated.imp
    intro field node hnode
    exact Prod.ext hnode.1.symm (Except.ok.inj hnode.2)
  rw [hsame]

theorem accepts_required_iff :
    (∃ node, required fields key shape = .ok node) ↔
      RequiredAt (Accepts shape) fields key := by
  unfold required RequiredAt
  cases fields.lookup key with
  | none => simp
  | some value => simp [Accepts]

theorem accepts_optionalField_iff :
    (∃ node, optionalField fields key shape = .ok node) ↔
      OptionalAt (Accepts shape) fields key := by
  unfold optionalField OptionalAt RequiredAt
  cases fields.lookup key with
  | none => simp
  | some value =>
      have hvalue : (∃ node, optional shape value = .ok node) ↔
          value = .null ∨ Accepts shape value :=
        accepts_optional_iff
      simpa using hvalue

/-- An optional node is there unless the value is null. -/
theorem optional_cases {value : Value} {node : Option α}
    (hnode : optional shape value = .ok node) :
    (value = .null ∧ node = none) ∨
      ∃ inner, shape value = .ok inner ∧ node = some inner := by
  unfold optional at hnode
  split at hnode
  · left
    exact ⟨rfl, (Except.ok.inj hnode).symm⟩
  · right
    obtain ⟨inner, hinner, hsome⟩ := map_eq_ok_iff.mp hnode
    exact ⟨inner, hinner, hsome.symm⟩

theorem optionalField_cases {node : Option α}
    (hnode : optionalField fields key shape = .ok node) :
    ((fields.lookup key = none ∨ fields.lookup key = some .null) ∧
      node = none) ∨
      ∃ value inner, fields.lookup key = some value ∧ shape value = .ok inner ∧
        node = some inner := by
  unfold optionalField at hnode
  cases hvalue : fields.lookup key with
  | none =>
      rw [hvalue] at hnode
      left
      exact ⟨Or.inl rfl, (Except.ok.inj hnode).symm⟩
  | some value =>
      rw [hvalue] at hnode
      rcases optional_cases hnode with ⟨hnull, hnone⟩ | ⟨inner, hinner, hsome⟩
      · left
        exact ⟨Or.inr (by rw [hnull]), hnone⟩
      · right
        exact ⟨value, inner, rfl, hinner, hsome⟩

/-! ## The test of all entries -/

theorem check_eq_ok_iff {value : Value} :
    check shape value = .ok () ↔ Accepts shape value := by
  simp [check, map_eq_ok_iff, Accepts]

theorem check_of_required {node : α}
    (hnode : required fields key shape = .ok node) {value : Value}
    (hvalue : fields.lookup key = some value) : check shape value = .ok () := by
  rw [required, hvalue] at hnode
  rw [check_eq_ok_iff]
  exact ⟨node, hnode⟩

theorem check_of_optionalField {node : Option α}
    (hnode : optionalField fields key shape = .ok node) {value : Value}
    (hvalue : fields.lookup key = some value) :
    check (optional shape) value = .ok () := by
  rw [optionalField, hvalue] at hnode
  rw [check_eq_ok_iff]
  exact ⟨node, hnode⟩

/-- If no key stands twice, an object passes the test of its entries if each
field of the record passes its own. -/
theorem checkFields_eq_ok {checks : List (String × Check)}
    (hkeys : (entryKeys fields).Nodup)
    (hchecks : ∀ entry ∈ checks, ∀ value, fields.lookup entry.1 = some value →
      entry.2 value = .ok ()) : checkFields checks fields = .ok () := by
  have hentries : ∀ entry ∈ fields, ∀ test, checks.lookup entry.1 = some test →
      test entry.2 = .ok () := by
    intro entry hentry test htest
    obtain ⟨front, back, hsplit, -⟩ := List.lookup_eq_some_iff.mp htest
    have hvalue : fields.lookup entry.1 = some entry.2 :=
      (lookup_eq_some_iff_mem hkeys).mpr hentry
    exact hchecks (entry.1, test) (by simp [hsplit]) entry.2 hvalue
  clear hkeys hchecks
  induction fields with
  | nil => rfl
  | cons entry rest ih =>
      obtain ⟨key, value⟩ := entry
      rw [List.forall_mem_cons] at hentries
      rw [checkFields]
      cases htest : checks.lookup key with
      | none => exact ih hentries.2
      | some test =>
          have hvalue : test value = .ok () := hentries.1 test htest
          simp only [hvalue]
          exact ih hentries.2

end Shapes
end Document
end ApiClientGen
