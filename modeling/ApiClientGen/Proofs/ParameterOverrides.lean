import ApiClientGen.Proofs.OperationParameters

/-!
# Which parameters are in force

The parameters of an operation go into the list of those of its path one after
the other, and the list is searched and changed while it grows: an item may take
the place of a shared one or of an earlier one of its own list, or come to stand
at the end.  What one step does to the keys and to each place says what a whole
merge does: the places of the shared items stay, the last own item of a key is
in force, and the keys that are new follow in order.
-/

namespace ApiClientGen
namespace Api

/-! ## One item -/

section MergeByKey

variable {α κ : Type} [BEq κ] {key : α → κ}

def lastOfKey (key : α → κ) (items : List α) (k : κ) : Option α :=
  items.reverse.find? (key · == k)

theorem lastOfKey_cons (item : α) (rest : List α) (k : κ) :
    lastOfKey key (item :: rest) k =
      (lastOfKey key rest k).or
        (if key item == k then some item else none) := by
  rw [lastOfKey, List.reverse_cons, List.find?_append, lastOfKey]
  cases hitem : key item == k <;> simp [hitem]

theorem mergeByKey_cons (shared : List α) (item : α) (rest : List α) :
    mergeByKey key shared (item :: rest) =
      mergeByKey key (putByKey key item shared) rest := by
  rfl

variable [LawfulBEq κ]

theorem find?_putByKey (item : α) (items : List α) (k : κ) :
    (putByKey key item items).find? (key · == k) =
      if key item == k then some item else items.find? (key · == k) := by
  induction items with
  | nil =>
      rw [putByKey, List.find?_cons]
      cases key item == k <;> rfl
  | cons other rest ih =>
      by_cases hother : key other = key item
      · rw [putByKey, if_pos (beq_iff_eq.mpr hother), List.find?_cons,
          List.find?_cons, hother]
        cases key item == k <;> rfl
      · rw [putByKey, if_neg (by simpa using hother), List.find?_cons,
          List.find?_cons, ih]
        by_cases hk : key other = k
        · have hitem : (key item == k) = false := by
            simpa [← hk] using Ne.symm hother
          simp [hk, hitem]
        · have hfirst : (key other == k) = false := by simpa using hk
          simp [hfirst]

/-- An item with a new key is put at the end, and no other item changes the
keys. -/
theorem map_key_putByKey (item : α) (items : List α) :
    (putByKey key item items).map key =
      if key item ∈ items.map key then items.map key
      else items.map key ++ [key item] := by
  induction items with
  | nil => rfl
  | cons other rest ih =>
      by_cases hother : key other = key item
      · simp [putByKey, hother]
      · rw [putByKey, if_neg (by simpa using hother), List.map_cons, ih]
        simp only [List.map_cons, List.mem_cons, Ne.symm hother, false_or]
        split <;> rfl

/-- The item changes a place only if that place holds the first of its key. -/
theorem getElem?_putByKey (next : α) {items : List α} {i : ℕ} {item : α}
    (hitem : items[i]? = some item) :
    (putByKey key next items)[i]? =
      some (if key item ∈ (items.take i).map key then item
        else if key item == key next then next else item) := by
  induction items generalizing i with
  | nil => simp at hitem
  | cons other rest ih =>
      cases i with
      | zero =>
          obtain rfl : other = item := by simpa using hitem
          by_cases hother : key other = key next <;> simp [putByKey, hother]
      | succ i =>
          rw [List.getElem?_cons_succ] at hitem
          by_cases hother : key other = key next
          · rw [putByKey, if_pos (beq_iff_eq.mpr hother),
              List.getElem?_cons_succ, hitem]
            by_cases hsame : key item = key next <;> simp [hother, hsame]
          · rw [putByKey, if_neg (by simpa using hother),
              List.getElem?_cons_succ, ih hitem]
            by_cases hsame : key item = key other
            · simp [hsame, hother]
            · simp [hsame]

/-! ## All items -/

/-- The last own item of a key is in force, and without one the first shared
item. -/
theorem find?_mergeByKey (shared own : List α) (k : κ) :
    (mergeByKey key shared own).find? (key · == k) =
      (lastOfKey key own k).or (shared.find? (key · == k)) := by
  induction own generalizing shared with
  | nil => rfl
  | cons item rest ih =>
      rw [mergeByKey_cons, ih, find?_putByKey, lastOfKey_cons, Option.or_assoc]
      cases key item == k <;> rfl

/-- The keys of a list that do not occur in another one, each at its first
appearance. -/
def newKeys (known keys : List κ) : List κ :=
  (keys.filter fun k => !known.contains k).eraseDups

theorem newKeys_cons_of_mem {known : List κ} {k : κ} (hk : k ∈ known)
    (keys : List κ) :
    newKeys known (k :: keys) = newKeys known keys := by
  rw [newKeys, List.filter_cons_of_neg (by simpa using hk), newKeys]

theorem newKeys_cons_of_not_mem {known : List κ} {k : κ} (hk : k ∉ known)
    (keys : List κ) :
    newKeys known (k :: keys) = k :: newKeys (known ++ [k]) keys := by
  rw [newKeys, List.filter_cons_of_pos (by simpa using hk), List.eraseDups_cons,
    List.filter_filter, newKeys]
  congr 3
  funext other
  rw [List.contains_append, List.contains_cons, List.contains_nil,
    Bool.or_false, Bool.not_or, Bool.and_comm]

/-- The keys of the shared items stay in their places, and the new keys
follow. -/
theorem map_key_mergeByKey (shared own : List α) :
    (mergeByKey key shared own).map key =
      shared.map key ++ newKeys (shared.map key) (own.map key) := by
  induction own generalizing shared with
  | nil => simp [mergeByKey, newKeys]
  | cons item rest ih =>
      rw [mergeByKey_cons, ih, map_key_putByKey, List.map_cons]
      by_cases hitem : key item ∈ shared.map key
      · rw [if_pos hitem, newKeys_cons_of_mem hitem]
      · rw [if_neg hitem, newKeys_cons_of_not_mem hitem, List.append_assoc,
          List.singleton_append]

/-- A shared item is replaced only where it is the first of its key, and then by
the last own one. -/
theorem getElem?_mergeByKey (own : List α) {shared : List α} {i : ℕ} {item : α}
    (hitem : shared[i]? = some item) :
    (mergeByKey key shared own)[i]? =
      some (if key item ∈ (shared.take i).map key then item
        else (lastOfKey key own (key item)).getD item) := by
  induction own generalizing shared item with
  | nil => simp [mergeByKey, lastOfKey, hitem]
  | cons next rest ih =>
      have hlength : i ≤ (shared.map key).length := by
        rw [List.length_map]
        exact Nat.le_of_lt (List.getElem?_eq_some_iff.mp hitem).1
      have hfront : ((putByKey key next shared).take i).map key =
          (shared.take i).map key := by
        rw [List.map_take, map_key_putByKey, List.map_take]
        split
        · rfl
        · exact List.take_append_of_le_length hlength
      have hnext : (putByKey key next shared)[i]? =
          some (if key item ∈ (shared.take i).map key then item
            else if key item == key next then next else item) :=
              getElem?_putByKey next hitem
      rw [mergeByKey_cons, lastOfKey_cons]
      by_cases hlater : key item ∈ (shared.take i).map key
      · rw [if_pos hlater] at hnext ⊢
        rw [ih hnext, hfront, if_pos hlater]
      · rw [if_neg hlater] at hnext ⊢
        by_cases hsame : key item = key next
        · rw [if_pos (beq_iff_eq.mpr hsame)] at hnext
          rw [ih hnext, hfront, if_neg (hsame ▸ hlater), hsame]
          cases lastOfKey key rest (key next) <;> simp
        · rw [if_neg (by simpa using hsame)] at hnext
          rw [ih hnext, hfront, if_neg hlater,
            if_neg (by simpa using Ne.symm hsame), Option.or_none]

end MergeByKey

/-! ## Parameters -/

/-- What is in force after merging.  The first parameter of a key is the last
one that the operation itself declares, and else the first one of the path.  The
parameters of the path keep their places and keys, and one is replaced only
where it is the first of its key.  Behind them come the keys that only the
operation has, each once and in order of appearance. -/
theorem mergeParameters_overrides_in_place (shared own : List Parameter) :
    let merged := mergeParameters shared own
    (∀ key, merged.find? (·.key == key) =
      (lastOfKey Parameter.key own key).or (shared.find? (·.key == key))) ∧
    (∀ i parameter, shared[i]? = some parameter →
      merged[i]? = some
        (if parameter.key ∈ (shared.take i).map Parameter.key then parameter
        else (lastOfKey Parameter.key own parameter.key).getD parameter)) ∧
    merged.map Parameter.key = shared.map Parameter.key ++
      newKeys (shared.map Parameter.key) (own.map Parameter.key) := by
  intro merged
  have hmerged : merged = mergeByKey Parameter.key shared own :=
    mergeParameters_eq_mergeByKey shared own
  rw [hmerged]
  exact ⟨find?_mergeByKey shared own,
    fun _ _ hparameter => getElem?_mergeByKey own hparameter,
    map_key_mergeByKey shared own⟩

/-- A path that declares a parameter twice, and an operation that declares it
twice as well, with another one of the same name and without a location in
between. -/
theorem mergeParameters_overrides_in_place_twice :
    let parameter (name : String) (location : Option Location) : Parameter :=
      ⟨name, "id", location, .any⟩
    let shared :=
      [parameter "first" (some .path), parameter "second" (some .path)]
    let own := [parameter "third" (some .path), parameter "fourth" none,
      parameter "fifth" (some .path)]
    shared[0]? = some (parameter "first" (some .path)) ∧
      (mergeParameters shared own)[0]? = some (parameter "fifth" (some .path)) ∧
      (mergeParameters shared own)[1]? =
        some (parameter "second" (some .path)) ∧
      (mergeParameters shared own).map Parameter.key =
        [("id", some .path), ("id", some .path), ("id", none)] := by
  intro parameter shared own
  obtain ⟨-, hplaces, hkeys⟩ := mergeParameters_overrides_in_place shared own
  refine ⟨rfl, ?_, ?_, ?_⟩
  · rw [hplaces 0 (parameter "first" (some .path)) rfl]
    decide
  · rw [hplaces 1 (parameter "second" (some .path)) rfl]
    decide
  · rw [hkeys]
    decide +kernel

end Api
end ApiClientGen
