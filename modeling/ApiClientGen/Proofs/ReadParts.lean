import ApiClientGen.Proofs.SkippedParts

/-!
# The parts of a value that are read

A typed node is read from some keys of an object, and of what stands under a key
perhaps not everything is read either.  Here a list says of each key of a node
what is read under it, and a value is cut down to that.  Every reader gives the
same node for a value and for what is left of it, and if it gives no node it
finds the same fault.  The keys that are kept stand in their old order, so the
first fault stays the first.
-/

namespace ApiClientGen

open Json (Value)

/-! ## Maps with other values -/

namespace OrderedMap

variable {α β : Type}

/-- The map in which every value is replaced according to its key. -/
def mapWithKey (f : String → α → β) (m : OrderedMap α) : OrderedMap β :=
  ⟨m.entries.map fun entry => (entry.1, f entry.1 entry.2), by
    have hkeys :
        entryKeys (m.entries.map fun entry => (entry.1, f entry.1 entry.2)) =
          entryKeys m.entries := by
      rw [entryKeys, List.map_map]
      rfl
    rw [hkeys]
    exact m.distinct⟩

theorem get?_mapWithKey (f : String → α → β) (m : OrderedMap α) (key : String) :
    (m.mapWithKey f).get? key = (m.get? key).map (f key) := by
  have hlookup : ∀ entries : List (String × α),
      (entries.map fun entry => (entry.1, f entry.1 entry.2)).lookup key =
        (entries.lookup key).map (f key) := by
    intro entries
    induction entries with
    | nil => rfl
    | cons entry rest ih =>
        obtain ⟨other, value⟩ := entry
        by_cases hkey : key = other
        · subst hkey
          simp
        · have htest : (key == other) = false := by simpa using hkey
          simpa [List.lookup_cons, htest] using ih
  exact hlookup m.entries

theorem putEntry_map (f : α → β) (key : String) (value : α)
    (entries : List (String × α)) :
    putEntry key (f value) (entries.map fun entry => (entry.1, f entry.2)) =
      (putEntry key value entries).map fun entry => (entry.1, f entry.2) := by
  induction entries with
  | nil => rfl
  | cons entry rest ih =>
      obtain ⟨other, old⟩ := entry
      by_cases hkey : other = key
      · simp [putEntry, hkey]
      · simp [putEntry, hkey, ih]

/-- Values can be replaced before or after they are put in. -/
theorem ofList_map (f : α → β) (entries : List (String × α)) :
    ofList (entries.map fun entry => (entry.1, f entry.2)) =
      (ofList entries).mapValues f := by
  have hfrom : ∀ m : OrderedMap α,
      (entries.map fun entry => (entry.1, f entry.2)).foldl
        (fun m entry => m.insert entry.1 entry.2) (m.mapValues f) =
        (entries.foldl (fun m entry => m.insert entry.1 entry.2) m).mapValues
          f := by
    induction entries with
    | nil => exact fun _ => rfl
    | cons entry rest ih =>
        intro m
        have hinsert : (m.mapValues f).insert entry.1 (f entry.2) =
            (m.insert entry.1 entry.2).mapValues f :=
          ext (putEntry_map f entry.1 entry.2 m.entries)
        simp only [List.map_cons, List.foldl_cons, hinsert]
        exact ih _
  exact hfrom empty

end OrderedMap

namespace Document

/-! ## Cutting values down -/

/-- The keys of a node, in the order of its fields, each with what is read of a
value under it. -/
abbrev Parts : Type :=
  List (String × (Value → Value))

/-- The entries whose keys are listed, in their order, each cut down to what is
read of it. -/
def keepFields (parts : Parts) (fields : List (String × Value)) :
    List (String × Value) :=
  fields.filterMap fun entry => (parts.lookup entry.1).map fun keep =>
    (entry.1, keep entry.2)

/-- The items of an array that stands for a node, each cut down to what is read
of it. -/
def keepItems : Parts → List Value → List Value
  | part :: parts, item :: items => part.2 item :: keepItems parts items
  | _, items => items

/-- What is read of a value as a node with the given keys. -/
def keepParts (parts : Parts) : Value → Value
  | .object fields => .object (keepFields parts fields)
  | .array items => .array (keepItems parts items)
  | value => value

/-- What is read of a list, given what is read of an item. -/
def keepInItems (keep : Value → Value) : Value → Value
  | .array items => .array (items.map keep)
  | value => value

/-- What is read of a map, given what is read of a value in it. -/
def keepInEntries (keep : Value → Value) : Value → Value
  | .object fields => .object (fields.map fun entry => (entry.1, keep entry.2))
  | value => value

theorem keepFields_append (parts : Parts) (front back : List (String × Value)) :
    keepFields parts (front ++ back) =
      keepFields parts front ++ keepFields parts back :=
  List.filterMap_append

theorem keepFields_cons_of_none {parts : Parts} {entry : String × Value}
    (hkey : parts.lookup entry.1 = none) (rest : List (String × Value)) :
    keepFields parts (entry :: rest) = keepFields parts rest := by
  apply List.filterMap_cons_none
  rw [hkey, Option.map_none]

theorem keepFields_cons_of_some {parts : Parts} {entry : String × Value}
    {keep : Value → Value} (hkey : parts.lookup entry.1 = some keep)
    (rest : List (String × Value)) :
    keepFields parts (entry :: rest) =
      (entry.1, keep entry.2) :: keepFields parts rest := by
  apply List.filterMap_cons_some
  rw [hkey, Option.map_some]

/-- An entry under a key that is not listed leaves no trace, wherever it
stands. -/
theorem keepParts_unread {parts : Parts} {entry : String × Value}
    (hkey : parts.lookup entry.1 = none) (front back : List (String × Value)) :
    keepParts parts (.object (front ++ entry :: back)) =
      keepParts parts (.object (front ++ back)) := by
  rw [keepParts, keepParts, keepFields_append, keepFields_append,
    keepFields_cons_of_none hkey]

/-- The shape gives the same for a value and for what is kept of it, and only
null is cut down to null. -/
structure Overlooks {α : Type} (shape : Shape α) (keep : Value → Value) :
    Prop where
  shape_eq : ∀ value, shape (keep value) = shape value
  eq_null_iff : ∀ value, keep value = .null ↔ value = .null

namespace Overlooks

variable {α : Type} {shape : Shape α} {keep : Value → Value}

theorem id (shape : Shape α) : Overlooks shape id :=
  ⟨fun _ => rfl, fun _ => Iff.rfl⟩

theorem optional (hshape : Overlooks shape keep) :
    Overlooks (optional shape) keep where
  eq_null_iff := hshape.eq_null_iff
  shape_eq := by
    have hsome : ∀ value : Value, value ≠ .null →
        Document.optional shape value = (shape value).map some := by
      intro value hvalue
      cases value with
      | null => exact absurd rfl hvalue
      | _ => rfl
    intro value
    by_cases hnull : value = .null
    · have hkept : keep value = .null := (hshape.eq_null_iff value).mpr hnull
      rw [hkept, hnull]
    · have hkept : keep value ≠ .null := fun heq =>
        hnull ((hshape.eq_null_iff value).mp heq)
      rw [hsome _ hkept, hsome _ hnull, hshape.shape_eq]

theorem check (hshape : Overlooks shape keep) (value : Value) :
    Document.check shape (keep value) = Document.check shape value := by
  rw [Document.check, Document.check, hshape.shape_eq]

theorem listOf (hshape : Overlooks shape keep) :
    Overlooks (listOf shape) (keepInItems keep) where
  eq_null_iff := by
    intro value
    cases value <;> simp [keepInItems]
  shape_eq := by
    have hitems :
        ∀ items, readAll shape (items.map keep) = readAll shape items := by
      intro items
      induction items with
      | nil => rfl
      | cons item rest ih =>
          rw [List.map_cons, readAll, readAll, hshape.shape_eq, ih]
    intro value
    cases value with
    | array items => exact hitems items
    | _ => rfl

theorem mapOf (hshape : Overlooks shape keep) :
    Overlooks (mapOf shape) (keepInEntries keep) where
  eq_null_iff := by
    intro value
    cases value <;> simp [keepInEntries]
  shape_eq := by
    have hfields : ∀ fields,
        readEntries shape (fields.map fun entry => (entry.1, keep entry.2)) =
          readEntries shape fields := by
      intro fields
      induction fields with
      | nil => rfl
      | cons entry rest ih =>
          simp only [List.map_cons, readEntries, hshape.shape_eq, ih]
    intro value
    cases value with
    | object fields =>
        exact congrArg (Except.map OrderedMap.ofList) (hfields fields)
    | _ => rfl

theorem refOr (hshape : Overlooks shape keep) (name : String)
    (hreference : ∀ value, referencePath? (keep value) = referencePath? value) :
    Overlooks (RefOr.ofJson name shape) keep where
  eq_null_iff := hshape.eq_null_iff
  shape_eq := by
    intro value
    simp only [RefOr.ofJson, hreference, hshape.shape_eq]

theorem record {name : String}
    {ofFields : List (String × Value) → Except ShapeError α}
    {ofItems : List Value → Except ShapeError α} {parts : Parts}
    (hfields : ∀ fields, ofFields (keepFields parts fields) = ofFields fields)
    (hitems : ∀ items, ofItems (keepItems parts items) = ofItems items) :
    Overlooks (record name ofFields ofItems) (keepParts parts) where
  eq_null_iff := by
    intro value
    cases value <;> simp [keepParts]
  shape_eq := by
    intro value
    cases value with
    | object fields => exact hfields fields
    | array items => exact hitems items
    | _ => rfl

end Overlooks

/-! ## Fields and items that are kept -/

section Kept

variable {α : Type} {parts : Parts} {keep : Value → Value} {key : String}
    {shape : Shape α}

theorem lookup_keepFields (hpart : parts.lookup key = some keep)
    (fields : List (String × Value)) :
    (keepFields parts fields).lookup key = (fields.lookup key).map keep := by
  induction fields with
  | nil => rfl
  | cons entry rest ih =>
      obtain ⟨other, value⟩ := entry
      by_cases hkey : key = other
      · subst hkey
        rw [keepFields_cons_of_some hpart]
        simp
      · have htest : (key == other) = false := by simpa using hkey
        have hrest : ((other, value) :: rest).lookup key = rest.lookup key := by
          rw [List.lookup_cons, htest]
        rw [hrest, ← ih]
        cases hother : parts.lookup other with
        | none => rw [keepFields_cons_of_none hother]
        | some keepOther =>
            rw [keepFields_cons_of_some hother, List.lookup_cons, htest]

/-- The test of all entries finds the same fault if every tested key is kept
with what its test looks at. -/
theorem checkFields_keepFields {checks : List (String × Check)}
    (hchecks : ∀ entry ∈ checks, ∃ keep, parts.lookup entry.1 = some keep ∧
      ∀ value, entry.2 (keep value) = entry.2 value)
    (fields : List (String × Value)) :
    checkFields checks (keepFields parts fields) =
      checkFields checks fields := by
  have htested : ∀ key test, checks.lookup key = some test →
      ∃ keep, parts.lookup key = some keep ∧
        ∀ value, test (keep value) = test value := by
    intro key test htest
    obtain ⟨front, back, hsplit, -⟩ := List.lookup_eq_some_iff.mp htest
    exact hchecks (key, test) (by simp [hsplit])
  induction fields with
  | nil => rfl
  | cons entry rest ih =>
      obtain ⟨key, value⟩ := entry
      cases htest : checks.lookup key with
      | none =>
          have hrest : checkFields checks ((key, value) :: rest) =
              checkFields checks rest := by
            simp only [checkFields, htest]
          rw [hrest, ← ih]
          cases hpart : parts.lookup key with
          | none => rw [keepFields_cons_of_none hpart]
          | some keep =>
              rw [keepFields_cons_of_some hpart]
              simp only [checkFields, htest]
      | some test =>
          obtain ⟨keep, hpart, hsame⟩ := htested key test htest
          rw [keepFields_cons_of_some hpart]
          simp only [checkFields, htest, hsame, ih]

theorem required_keepFields (hpart : parts.lookup key = some keep)
    (hshape : Overlooks shape keep) (fields : List (String × Value)) :
    required (keepFields parts fields) key shape =
      required fields key shape := by
  rw [required, required, lookup_keepFields hpart]
  cases fields.lookup key with
  | none => rfl
  | some value => exact hshape.shape_eq value

theorem optionalField_keepFields (hpart : parts.lookup key = some keep)
    (hshape : Overlooks shape keep) (fields : List (String × Value)) :
    optionalField (keepFields parts fields) key shape =
      optionalField fields key shape := by
  rw [optionalField, optionalField, lookup_keepFields hpart]
  cases fields.lookup key with
  | none => rfl
  | some value => exact hshape.optional.shape_eq value

theorem fieldOr_keepFields (hpart : parts.lookup key = some keep)
    (hshape : Overlooks shape keep) (fallback : α)
    (fields : List (String × Value)) :
    fieldOr (keepFields parts fields) key fallback shape =
      fieldOr fields key fallback shape := by
  rw [fieldOr, fieldOr, lookup_keepFields hpart]
  cases fields.lookup key with
  | none => rfl
  | some value => exact hshape.shape_eq value

theorem length_keepItems (parts : Parts) (items : List Value) :
    (keepItems parts items).length = items.length := by
  induction items generalizing parts with
  | nil => cases parts <;> rfl
  | cons item rest ih =>
      cases parts with
      | nil => rfl
      | cons part parts =>
          rw [keepItems, List.length_cons, ih, List.length_cons]

theorem getElem?_keepItems {index : ℕ}
    (hpart : parts[index]? = some (key, keep)) (items : List Value) :
    (keepItems parts items)[index]? = items[index]?.map keep := by
  induction items generalizing parts index with
  | nil => cases parts <;> rfl
  | cons item rest ih =>
      cases parts with
      | nil => simp at hpart
      | cons part parts =>
          cases index with
          | zero =>
              obtain rfl : part = (key, keep) := by simpa using hpart
              rfl
          | succ index => exact ih (by simpa using hpart)

variable {index size : ℕ} {name : String}

theorem itemAt_keepItems (hpart : parts[index]? = some (key, keep))
    (hshape : Overlooks shape keep) (items : List Value) :
    itemAt (keepItems parts items) index name size shape =
      itemAt items index name size shape := by
  rw [itemAt, itemAt, getElem?_keepItems hpart]
  cases items[index]? with
  | none => rfl
  | some item => exact hshape.shape_eq item

theorem itemOr_keepItems (hpart : parts[index]? = some (key, keep))
    (hshape : Overlooks shape keep) (fallback : α) (items : List Value) :
    itemOr (keepItems parts items) index fallback shape =
      itemOr items index fallback shape := by
  rw [itemOr, itemOr, getElem?_keepItems hpart]
  cases items[index]? with
  | none => rfl
  | some item => exact hshape.shape_eq item

theorem noMoreThan_keepItems (items : List Value) :
    noMoreThan (keepItems parts items) size = noMoreThan items size := by
  rw [noMoreThan, noMoreThan, length_keepItems]

end Kept

/-! ## Schema objects -/

namespace SchemaObject

/-- What is read of a schema object: five keys, and everything under them. -/
def readParts : Parts :=
  [("$ref", id), ("type", id), ("description", id), ("enum", id),
    ("properties", id)]

theorem lookup_readParts :
    readParts.lookup "$ref" = some id ∧ readParts.lookup "type" = some id ∧
      readParts.lookup "description" = some id ∧
      readParts.lookup "enum" = some id ∧
      readParts.lookup "properties" = some id :=
  ⟨rfl, rfl, rfl, rfl, rfl⟩

theorem overlooks_ofJson : Overlooks ofJson (keepParts readParts) := by
  obtain ⟨href, htype, hdescription, henum, hproperties⟩ := lookup_readParts
  apply Overlooks.record
  · intro fields
    have hcheck : checkFields checks (keepFields readParts fields) =
        checkFields checks fields := by
      apply checkFields_keepFields
      simp only [checks, List.forall_mem_cons, List.not_mem_nil, false_implies,
        implies_true, and_true]
      exact ⟨⟨_, href, fun _ => rfl⟩, ⟨_, htype, fun _ => rfl⟩,
        ⟨_, hdescription, fun _ => rfl⟩, ⟨_, henum, fun _ => rfl⟩,
        ⟨_, hproperties, fun _ => rfl⟩⟩
    rw [ofFields_eq, ofFields_eq, hcheck, optionalField_keepFields href (.id _),
      optionalField_keepFields htype (.id _),
      optionalField_keepFields hdescription (.id _),
      optionalField_keepFields henum (.id _),
      fieldOr_keepFields hproperties (.id _)]
  · intro items
    have hsame : keepItems readParts items = items := by
      rcases items with _ | ⟨_, _ | ⟨_, _ | ⟨_, _ | ⟨_, _ | ⟨_, rest⟩⟩⟩⟩⟩ <;>
        rfl
    rw [hsame]

end SchemaObject

/-! ## Parameters and bodies -/

namespace ParameterObject

/-- What is read of a parameter object or of a reference in its place. -/
def readParts : Parts :=
  [("name", id), ("in", id), ("schema", keepParts SchemaObject.readParts),
    ("$ref", id)]

theorem overlooks_ofJson : Overlooks ofJson (keepParts readParts) := by
  have hname : readParts.lookup "name" = some id := rfl
  have hin : readParts.lookup "in" = some id := rfl
  have hschema :
      readParts.lookup "schema" = some (keepParts SchemaObject.readParts) := rfl
  have hschemaShape := SchemaObject.overlooks_ofJson
  apply Overlooks.record
  · intro fields
    have hcheck : checkFields checks (keepFields readParts fields) =
        checkFields checks fields := by
      apply checkFields_keepFields
      simp only [checks, List.forall_mem_cons, List.not_mem_nil, false_implies,
        implies_true, and_true]
      exact ⟨⟨_, hname, fun _ => rfl⟩, ⟨_, hin, fun _ => rfl⟩,
        ⟨_, hschema, hschemaShape.optional.check⟩⟩
    rw [ofFields, ofFields, hcheck, required_keepFields hname (.id _),
      optionalField_keepFields hin (.id _),
      optionalField_keepFields hschema hschemaShape]
  · intro items
    have hname : readParts[0]? = some ("name", id) := rfl
    have hin : readParts[1]? = some ("in", id) := rfl
    have hschema :
        readParts[2]? = some ("schema", keepParts SchemaObject.readParts) := rfl
    rw [ofItems, ofItems, itemAt_keepItems hname (.id _),
      itemAt_keepItems hin (.id _),
      itemAt_keepItems hschema hschemaShape.optional, noMoreThan_keepItems]

end ParameterObject

namespace MediaType

def readParts : Parts :=
  [("schema", keepParts SchemaObject.readParts)]

theorem overlooks_ofJson : Overlooks ofJson (keepParts readParts) := by
  have hschema :
      readParts.lookup "schema" = some (keepParts SchemaObject.readParts) := rfl
  have hschemaShape := SchemaObject.overlooks_ofJson
  apply Overlooks.record
  · intro fields
    have hcheck : checkFields checks (keepFields readParts fields) =
        checkFields checks fields := by
      apply checkFields_keepFields
      simp only [checks, List.forall_mem_cons, List.not_mem_nil, false_implies,
        implies_true, and_true]
      exact ⟨_, hschema, hschemaShape.optional.check⟩
    rw [ofFields, ofFields, hcheck,
      optionalField_keepFields hschema hschemaShape]
  · intro items
    have hschema :
        readParts[0]? = some ("schema", keepParts SchemaObject.readParts) := rfl
    rw [ofItems, ofItems, itemAt_keepItems hschema hschemaShape.optional,
      noMoreThan_keepItems]

end MediaType

namespace RequestBody

/-- What is read of a request body or of a reference in its place. -/
def readParts : Parts :=
  [("content", keepInEntries (keepParts MediaType.readParts)), ("$ref", id)]

theorem overlooks_ofJson : Overlooks ofJson (keepParts readParts) := by
  have hcontent : readParts.lookup "content" =
      some (keepInEntries (keepParts MediaType.readParts)) :=
    rfl
  have hcontentShape := MediaType.overlooks_ofJson.mapOf
  apply Overlooks.record
  · intro fields
    have hcheck : checkFields checks (keepFields readParts fields) =
        checkFields checks fields := by
      apply checkFields_keepFields
      simp only [checks, List.forall_mem_cons, List.not_mem_nil, false_implies,
        implies_true, and_true]
      exact ⟨_, hcontent, hcontentShape.check⟩
    rw [ofFields_eq, ofFields_eq, hcheck,
      fieldOr_keepFields hcontent hcontentShape]
  · intro items
    have hcontent : readParts[0]? =
        some ("content", keepInEntries (keepParts MediaType.readParts)) := rfl
    rw [ofItems, ofItems, itemOr_keepItems hcontent hcontentShape,
      noMoreThan_keepItems]

end RequestBody

theorem referencePath?_keepParts {parts : Parts}
    (href : parts.lookup "$ref" = some id) (value : Value) :
    referencePath? (keepParts parts value) = referencePath? value := by
  cases value with
  | object fields =>
      rw [keepParts, referencePath?, referencePath?, lookup_keepFields href,
        Option.map_id, id_eq]
  | _ => rfl

theorem overlooks_parameterOrRef :
    Overlooks parameterOrRef (keepParts ParameterObject.readParts) :=
  ParameterObject.overlooks_ofJson.refOr _ (referencePath?_keepParts rfl)

theorem overlooks_requestBodyOrRef :
    Overlooks requestBodyOrRef (keepParts RequestBody.readParts) :=
  RequestBody.overlooks_ofJson.refOr _ (referencePath?_keepParts rfl)

/-! ## Operation objects -/

namespace OperationObject

def readParts : Parts :=
  [("summary", id),
    ("parameters", keepInItems (keepParts ParameterObject.readParts)),
    ("requestBody", keepParts RequestBody.readParts), ("deprecated", id)]

theorem overlooks_ofJson : Overlooks ofJson (keepParts readParts) := by
  have hlist := overlooks_parameterOrRef.listOf
  have hbody := overlooks_requestBodyOrRef
  apply Overlooks.record
  · intro fields
    have hsummary : readParts.lookup "summary" = some id := rfl
    have hparameters : readParts.lookup "parameters" =
        some (keepInItems (keepParts ParameterObject.readParts)) := rfl
    have hrequestBody : readParts.lookup "requestBody" =
        some (keepParts RequestBody.readParts) := rfl
    have hdeprecated : readParts.lookup "deprecated" = some id := rfl
    have hcheck : checkFields checks (keepFields readParts fields) =
        checkFields checks fields := by
      apply checkFields_keepFields
      simp only [checks, List.forall_mem_cons, List.not_mem_nil, false_implies,
        implies_true, and_true]
      exact ⟨⟨_, hsummary, fun _ => rfl⟩,
        ⟨_, hparameters, hlist.optional.check⟩,
        ⟨_, hrequestBody, hbody.optional.check⟩, ⟨_, hdeprecated, fun _ => rfl⟩⟩
    rw [ofFields, ofFields, hcheck, optionalField_keepFields hsummary (.id _),
      optionalField_keepFields hparameters hlist,
      optionalField_keepFields hrequestBody hbody,
      optionalField_keepFields hdeprecated (.id _)]
  · intro items
    have hsummary : readParts[0]? = some ("summary", id) := rfl
    have hparameters : readParts[1]? =
        some ("parameters",
          keepInItems (keepParts ParameterObject.readParts)) := rfl
    have hrequestBody : readParts[2]? =
        some ("requestBody", keepParts RequestBody.readParts) := rfl
    have hdeprecated : readParts[3]? = some ("deprecated", id) := rfl
    rw [ofItems, ofItems, itemAt_keepItems hsummary (.id _),
      itemOr_keepItems hparameters hlist.optional,
      itemAt_keepItems hrequestBody hbody.optional,
      itemAt_keepItems hdeprecated (.id _), noMoreThan_keepItems]

end OperationObject

/-! ## Component schemas -/

theorem map_bind {ε α β γ : Type} (result : Except ε α) (next : α → Except ε β)
    (f : β → γ) :
    (result >>= next).map f = result >>= fun a => (next a).map f := by
  cases result <;> rfl

theorem bind_map {ε α β γ : Type} (result : Except ε α) (f : α → β)
    (next : β → Except ε γ) :
    result.map f >>= next = result >>= fun a => next (f a) := by
  cases result <;> rfl

def Properties.map (f : Value → Value) : Properties → Properties
  | .absent => .absent
  | .null => .null
  | .fields schemas => .fields (schemas.mapValues f)

theorem Properties.isPresent_map (f : Value → Value) (properties : Properties) :
    (properties.map f).isPresent = properties.isPresent := by
  cases properties <;> rfl

theorem Properties.toList_map (f : Value → Value) (properties : Properties) :
    (properties.map f).toList =
      properties.toList.map fun entry => (entry.1, f entry.2) := by
  cases properties <;> rfl

theorem properties_keepInEntries (keep : Value → Value) (value : Value) :
    properties (keepInEntries keep value) =
      (properties value).map (Properties.map keep) := by
  cases value with
  | object fields =>
      have hmap : ∀ entries, properties (.object entries) =
          .ok (.fields (OrderedMap.ofList entries)) := by
        intro entries
        have hread :
            mapOf raw (.object entries) = .ok (OrderedMap.ofList entries) := by
          rw [mapOf, readEntries_raw]
          rfl
        exact congrArg (Except.map Properties.fields) hread
      rw [keepInEntries, hmap, hmap, OrderedMap.ofList_map]
      rfl
  | _ => rfl

namespace SchemaObject

/-- What is read of a component schema: of its properties, each is read as a
schema object again. -/
def componentParts : Parts :=
  [("$ref", id), ("type", id), ("description", id), ("enum", id),
    ("properties", keepInEntries (keepParts readParts))]

def mapProperties (f : Value → Value) (schema : SchemaObject) : SchemaObject :=
  { schema with properties := schema.properties.map f }

/-- What is kept of a component schema reads as the same schema with cut
properties, and if it cannot be read then for the same reason. -/
theorem ofFields_keepFields (fields : List (String × Value)) :
    ofFields (keepFields componentParts fields) =
      (ofFields fields).map (mapProperties (keepParts readParts)) := by
  have href : componentParts.lookup "$ref" = some id := rfl
  have htype : componentParts.lookup "type" = some id := rfl
  have hdescription : componentParts.lookup "description" = some id := rfl
  have henum : componentParts.lookup "enum" = some id := rfl
  have hproperties : componentParts.lookup "properties" =
      some (keepInEntries (keepParts readParts)) := rfl
  have hcheck : checkFields checks (keepFields componentParts fields) =
      checkFields checks fields := by
    have hshape : ∀ value,
        check Document.properties (keepInEntries (keepParts readParts) value) =
          check Document.properties value := by
      intro value
      rw [check, check, properties_keepInEntries]
      cases Document.properties value <;> rfl
    apply checkFields_keepFields
    simp only [checks, List.forall_mem_cons, List.not_mem_nil, false_implies,
      implies_true, and_true]
    exact ⟨⟨_, href, fun _ => rfl⟩, ⟨_, htype, fun _ => rfl⟩,
      ⟨_, hdescription, fun _ => rfl⟩, ⟨_, henum, fun _ => rfl⟩,
      ⟨_, hproperties, hshape⟩⟩
  have hfield : fieldOr (keepFields componentParts fields) "properties" .absent
      Document.properties =
      (fieldOr fields "properties" .absent Document.properties).map
        (Properties.map (keepParts readParts)) := by
    rw [fieldOr, fieldOr, lookup_keepFields hproperties]
    cases fields.lookup "properties" with
    | none => rfl
    | some value => exact properties_keepInEntries _ value
  rw [ofFields_eq, ofFields_eq, hcheck, optionalField_keepFields href (.id _),
    optionalField_keepFields htype (.id _),
    optionalField_keepFields hdescription (.id _),
    optionalField_keepFields henum (.id _), hfield]
  simp only [map_bind, bind_map]
  rfl

end SchemaObject
end Document
end ApiClientGen
