/-!
# Maps that keep their order

A map from texts to values that remembers the order in which its keys were first
put in.  Putting a key a second time changes its value and leaves its place.  No
key occurs twice, which is part of the type.
-/

namespace ApiClientGen

/-- Puts a value under a key: in place of the old value if the key is there, and
at the end if not. -/
def putEntry {α : Type} (key : String) (value : α) :
    List (String × α) → List (String × α)
  | [] => [(key, value)]
  | (k, v) :: rest =>
    if k = key then (k, value) :: rest else (k, v) :: putEntry key value rest

/-- The keys of a list of entries, in order. -/
def entryKeys {α : Type} (entries : List (String × α)) : List String :=
  entries.map Prod.fst

theorem entryKeys_putEntry {α : Type} (key : String) (value : α)
    (entries : List (String × α)) :
    entryKeys (putEntry key value entries) =
      if key ∈ entryKeys entries then entryKeys entries
      else entryKeys entries ++ [key] := by
  induction entries with
  | nil => rfl
  | cons entry rest ih =>
    obtain ⟨k, v⟩ := entry
    by_cases hkey : k = key
    · simp [putEntry, entryKeys, hkey]
    · have hkey' : key ≠ k := Ne.symm hkey
      simp only [entryKeys] at ih
      simp only [putEntry, hkey, if_false, entryKeys, List.map_cons,
        List.mem_cons, hkey', false_or, ih]
      split <;> simp [*]

theorem nodup_putEntry {α : Type} (key : String) (value : α)
    {entries : List (String × α)} (hnodup : (entryKeys entries).Nodup) :
    (entryKeys (putEntry key value entries)).Nodup := by
  rw [entryKeys_putEntry]
  split
  · exact hnodup
  · rename_i hkey
    refine List.nodup_append.mpr
      ⟨hnodup, List.nodup_cons.mpr ⟨by simp, List.nodup_nil⟩, ?_⟩
    intro a ha b hb hab
    rw [List.mem_singleton] at hb
    exact hkey (by rw [← hb, ← hab]; exact ha)

/-- A map whose entries keep the order in which their keys came. -/
structure OrderedMap (α : Type) where
  entries : List (String × α)
  distinct : (entryKeys entries).Nodup

namespace OrderedMap

variable {α : Type}

def empty : OrderedMap α :=
  ⟨[], List.nodup_nil⟩

def insert (m : OrderedMap α) (key : String) (value : α) : OrderedMap α :=
  ⟨putEntry key value m.entries, nodup_putEntry key value m.distinct⟩

/-- The map made by putting in the given entries one after the other. -/
def ofList (entries : List (String × α)) : OrderedMap α :=
  entries.foldl (fun m entry => m.insert entry.1 entry.2) empty

def toList (m : OrderedMap α) : List (String × α) :=
  m.entries

def keys (m : OrderedMap α) : List String :=
  entryKeys m.entries

def get? (m : OrderedMap α) (key : String) : Option α :=
  m.entries.lookup key

def contains (m : OrderedMap α) (key : String) : Bool :=
  m.keys.contains key

@[ext]
theorem ext {m n : OrderedMap α} (hentries : m.entries = n.entries) :
    m = n := by
  cases m
  cases n
  cases hentries
  rfl

end OrderedMap
end ApiClientGen
