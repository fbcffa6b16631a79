/-!
# Ordered maps

A map from names to values that remembers the order in which its names first came. Inserting under a
name that is present replaces the value and keeps the position. `keys` and `get?` are the two views
of a map: `keys_insert` and `get?_insert` say what an insertion does to them.
-/

namespace BotBindings

/-- A map from names to values in order of first insertion. -/
structure OrderedMap (α : Type) where
  /-- The names and their values, oldest name first. -/
  entries : List (String × α)
  /-- No name occurs twice. -/
  nodup_keys : (entries.map Prod.fst).Nodup

namespace OrderedMap

variable {α : Type}

/-- The map without entries. -/
def empty : OrderedMap α where
  entries := []
  nodup_keys := List.nodup_nil

instance : EmptyCollection (OrderedMap α) := ⟨empty⟩

instance : Inhabited (OrderedMap α) := ⟨empty⟩

/-- The names, oldest first. -/
def keys (m : OrderedMap α) : List String :=
  m.entries.map Prod.fst

/-- The values, in the order of their names. -/
def values (m : OrderedMap α) : List α :=
  m.entries.map Prod.snd

/-- The number of names. -/
def size (m : OrderedMap α) : Nat :=
  m.entries.length

/-- The value under a name. -/
def get? (m : OrderedMap α) (key : String) : Option α :=
  m.entries.lookup key

/-- Whether a name is present. -/
def contains (m : OrderedMap α) (key : String) : Bool :=
  (m.get? key).isSome

/-- The entries with the value under `key` replaced, or with a new last entry if there is none. -/
def put (key : String) (value : α) : List (String × α) → List (String × α)
  | [] => [(key, value)]
  | (k, v) :: rest => if k = key then (k, value) :: rest else (k, v) :: put key value rest

private theorem keys_put (key : String) (value : α) (entries : List (String × α)) :
    (put key value entries).map Prod.fst
      = if key ∈ entries.map Prod.fst then entries.map Prod.fst
        else entries.map Prod.fst ++ [key] := by
  induction entries with
  | nil => simp [put]
  | cons entry rest ih =>
    obtain ⟨k, v⟩ := entry
    by_cases h : k = key
    · simp [put, h]
    · have h' : key ≠ k := fun heq => h heq.symm
      simp only [put, h, if_false, List.map_cons, ih, List.mem_cons, h', false_or]
      split <;> simp

/-- Inserts a value, or replaces the value already under that name. -/
def insert (m : OrderedMap α) (key : String) (value : α) : OrderedMap α where
  entries := put key value m.entries
  nodup_keys := by
    have h := m.nodup_keys
    rw [keys_put]
    split
    · exact h
    · rename_i hkey
      rw [List.nodup_append]
      refine ⟨h, by simp, ?_⟩
      rintro a ha b hb rfl
      simp only [List.mem_singleton] at hb
      exact hkey (hb ▸ ha)

/-- Replaces the value under a name by its image, if the name is present. -/
def modify (m : OrderedMap α) (key : String) (f : α → α) : OrderedMap α where
  entries := m.entries.map fun (k, v) => (k, if k = key then f v else v)
  nodup_keys := by
    have h := m.nodup_keys
    simpa [List.map_map, Function.comp_def] using h

/-- The map of a list of entries. Of two entries with one name the later gives the value. -/
def ofList (entries : List (String × α)) : OrderedMap α :=
  entries.foldl (fun m (key, value) => m.insert key value) empty

/-- An empty map holds no names. -/
@[simp] theorem keys_empty : (empty : OrderedMap α).keys = [] := rfl

/-- Nothing is found in an empty map. -/
@[simp] theorem get?_empty (key : String) : (empty : OrderedMap α).get? key = none := rfl

/-- An insertion adds a new name at the end and moves no name that is present. -/
theorem keys_insert (m : OrderedMap α) (key : String) (value : α) :
    (m.insert key value).keys = if key ∈ m.keys then m.keys else m.keys ++ [key] :=
  keys_put key value m.entries

/-- An insertion changes what is found under its own name only. -/
theorem get?_insert (m : OrderedMap α) (key other : String) (value : α) :
    (m.insert key value).get? other = if other = key then some value else m.get? other := by
  simp only [get?, insert]
  generalize m.entries = entries
  induction entries with
  | nil =>
    by_cases h : other = key
    · simp [put, h]
    · simp [put, List.lookup_cons, beq_eq_false_iff_ne.mpr h, h]
  | cons entry rest ih =>
    obtain ⟨k, v⟩ := entry
    by_cases hk : k = key
    · subst hk
      by_cases h : other = k
      · simp [put, h]
      · simp [put, List.lookup_cons, beq_eq_false_iff_ne.mpr h, h]
    · by_cases h : other = k
      · subst h
        simp [put, hk]
      · have hb : (other == k) = false := by simpa using h
        simp only [put, hk, if_false, List.lookup_cons, hb, ih]

/-- A name under which something is found is a name of the map. -/
theorem mem_keys_of_get? {m : OrderedMap α} {key : String} {value : α}
    (h : m.get? key = some value) : key ∈ m.keys := by
  simp only [get?] at h
  simp only [keys]
  generalize m.entries = entries at h ⊢
  induction entries with
  | nil => simp at h
  | cons entry rest ih =>
    obtain ⟨k, v⟩ := entry
    by_cases hk : key = k
    · simp [hk]
    · simp only [List.lookup_cons, beq_eq_false_iff_ne.mpr hk] at h
      simpa [hk] using ih h

/-- A map contains the names that are listed as its keys, and no others. -/
theorem contains_iff {m : OrderedMap α} {key : String} : m.contains key = true ↔ key ∈ m.keys := by
  simp [contains, get?, keys]

/-- Modifying an entry changes neither the names of a map nor their order. -/
@[simp] theorem keys_modify (m : OrderedMap α) (key : String) (f : α → α) :
    (m.modify key f).keys = m.keys := by
  simp [keys, modify, List.map_map, Function.comp_def]

/-- An entry that is modified to what it was leaves the map as it was. -/
@[simp] theorem modify_id (m : OrderedMap α) (key : String) : m.modify key (fun v => v) = m := by
  simp [modify]

/-- A modification changes what is found under its name only. -/
theorem get?_modify (m : OrderedMap α) (key other : String) (f : α → α) :
    (m.modify key f).get? other = if other = key then (m.get? key).map f else m.get? other := by
  simp only [get?, modify]
  generalize m.entries = entries
  induction entries with
  | nil => simp
  | cons entry rest ih =>
    obtain ⟨k, v⟩ := entry
    by_cases h : other = k
    · subst h
      by_cases hk : other = key <;> simp [hk]
    · have hb : (other == k) = false := by simpa using h
      simp only [List.map_cons, List.lookup_cons, hb, ih]
      by_cases hk : other = key
      · subst hk
        simp [hb]
      · simp [hk]

end OrderedMap

end BotBindings
