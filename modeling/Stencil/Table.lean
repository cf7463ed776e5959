set_option autoImplicit false

/-!
Tables of entries by key, in the order in which the keys were first put. `find?_put_self` and
`find?_put_of_ne` say what a table holds after `put`, and `keys_put` in which order.
-/

namespace Stencil

/-- Entries by key; a new value of a key takes the place of the old one. -/
structure Table (κ α : Type) where
  entries : List (κ × α)

namespace Table

variable {κ α : Type} [DecidableEq κ]

def empty : Table κ α := ⟨[]⟩

def findIn (key : κ) : List (κ × α) → Option α
  | [] => none
  | (other, value) :: entries => if key = other then some value else findIn key entries

def putIn (key : κ) (value : α) : List (κ × α) → List (κ × α)
  | [] => [(key, value)]
  | (other, old) :: entries =>
    if key = other then (key, value) :: entries else (other, old) :: putIn key value entries

def find? (table : Table κ α) (key : κ) : Option α := findIn key table.entries

def put (table : Table κ α) (key : κ) (value : α) : Table κ α := ⟨putIn key value table.entries⟩

def erase (table : Table κ α) (key : κ) : Table κ α :=
  ⟨table.entries.filter fun entry => decide (entry.1 ≠ key)⟩

def contains (table : Table κ α) (key : κ) : Bool := (table.find? key).isSome

def keys (table : Table κ α) : List κ := table.entries.map Prod.fst

def size (table : Table κ α) : Nat := table.entries.length

/-- Puts entries in turn. -/
def putAll (table : Table κ α) (entries : List (κ × α)) : Table κ α :=
  entries.foldl (fun table entry => table.put entry.1 entry.2) table

/-- Changes every value. -/
def map {β : Type} (f : α → β) (table : Table κ α) : Table κ β :=
  ⟨table.entries.map fun entry => (entry.1, f entry.2)⟩

theorem findIn_putIn_self (key : κ) (value : α) (entries : List (κ × α)) :
    findIn key (putIn key value entries) = some value := by
  induction entries with
  | nil => simp [putIn, findIn]
  | cons entry entries ih =>
    obtain ⟨other, old⟩ := entry
    by_cases same : key = other <;> simp [putIn, findIn, same, ih]

theorem findIn_putIn_of_ne {key other : κ} (differs : other ≠ key) (value : α)
    (entries : List (κ × α)) : findIn other (putIn key value entries) = findIn other entries := by
  induction entries with
  | nil => simp [putIn, findIn, differs]
  | cons entry entries ih =>
    obtain ⟨name, old⟩ := entry
    by_cases same : key = name
    · subst same
      simp [putIn, findIn, differs]
    · by_cases found : other = name <;> simp [putIn, findIn, same, found, ih]

theorem findIn_filter_self (key : κ) (entries : List (κ × α)) :
    findIn key (entries.filter fun entry => decide (entry.1 ≠ key)) = none := by
  induction entries with
  | nil => rfl
  | cons entry entries ih =>
    obtain ⟨other, value⟩ := entry
    by_cases same : other = key
    · simpa [List.filter, same] using ih
    · simpa [List.filter, same, findIn, Ne.symm same] using ih

theorem findIn_filter_of_ne {key other : κ} (differs : other ≠ key) (entries : List (κ × α)) :
    findIn other (entries.filter fun entry => decide (entry.1 ≠ key)) = findIn other entries := by
  induction entries with
  | nil => rfl
  | cons entry entries ih =>
    obtain ⟨name, value⟩ := entry
    by_cases same : name = key
    · subst same
      simpa [List.filter, findIn, differs] using ih
    · by_cases found : other = name <;> simp_all [List.filter, findIn]

@[simp] theorem find?_put_self (table : Table κ α) (key : κ) (value : α) :
    (table.put key value).find? key = some value :=
  findIn_putIn_self key value table.entries

theorem find?_put_of_ne (table : Table κ α) {key other : κ} (differs : other ≠ key) (value : α) :
    (table.put key value).find? other = table.find? other :=
  findIn_putIn_of_ne differs value table.entries

@[simp] theorem find?_erase_self (table : Table κ α) (key : κ) :
    (table.erase key).find? key = none :=
  findIn_filter_self key table.entries

theorem find?_erase_of_ne (table : Table κ α) {key other : κ} (differs : other ≠ key) :
    (table.erase key).find? other = table.find? other :=
  findIn_filter_of_ne differs table.entries

theorem keys_put (table : Table κ α) (key : κ) (value : α) :
    (table.put key value).keys =
      if key ∈ table.keys then table.keys else table.keys ++ [key] := by
  obtain ⟨entries⟩ := table
  simp only [put, keys]
  induction entries with
  | nil => simp [putIn]
  | cons entry entries ih =>
    obtain ⟨other, old⟩ := entry
    by_cases same : key = other
    · simp [putIn, same]
    · by_cases listed : key ∈ entries.map Prod.fst <;> simp_all [putIn]

/-! ### Entries -/

theorem mem_of_find? {table : Table κ α} {key : κ} {value : α}
    (found : table.find? key = some value) : (key, value) ∈ table.entries := by
  obtain ⟨entries⟩ := table
  simp only [find?] at found
  induction entries with
  | nil => cases found
  | cons entry entries ih =>
    obtain ⟨other, old⟩ := entry
    simp only [findIn] at found
    split at found
    · rename_i same
      cases found
      rw [same]
      exact List.mem_cons_self
    · exact List.mem_cons_of_mem _ (ih found)

/-- Every entry of a table without repeated keys is found. -/
theorem find?_of_mem {table : Table κ α} (nodup : table.keys.Nodup) {key : κ} {value : α}
    (member : (key, value) ∈ table.entries) : table.find? key = some value := by
  obtain ⟨entries⟩ := table
  simp only [find?]
  induction entries with
  | nil => cases member
  | cons entry entries ih =>
    obtain ⟨other, old⟩ := entry
    simp only [keys, List.map_cons, List.nodup_cons] at nodup
    rcases List.mem_cons.mp member with same | further
    · cases same
      simp [findIn]
    · have differs : key ≠ other := by
        rintro rfl
        exact nodup.1 (List.mem_map.mpr ⟨(key, value), further, rfl⟩)
      simp only [findIn, if_neg differs]
      exact ih nodup.2 further

theorem findIn_eq_none_iff (key : κ) (entries : List (κ × α)) :
    findIn key entries = none ↔ key ∉ entries.map Prod.fst := by
  induction entries with
  | nil => simp [findIn]
  | cons entry entries ih =>
    obtain ⟨other, value⟩ := entry
    by_cases same : key = other <;> simp [findIn, same, ih]

theorem find?_eq_none_iff (table : Table κ α) (key : κ) :
    table.find? key = none ↔ key ∉ table.keys :=
  findIn_eq_none_iff key table.entries

theorem findIn_append (key : κ) (first second : List (κ × α)) :
    findIn key (first ++ second) = (findIn key first).or (findIn key second) := by
  induction first with
  | nil => rfl
  | cons entry first ih =>
    obtain ⟨other, value⟩ := entry
    by_cases same : key = other
    · simp [findIn, same]
    · simp [findIn, same, ih]

/-- Entries that are chosen by their keys. -/
theorem findIn_filter_key (keeps : κ → Bool) (key : κ) (entries : List (κ × α)) :
    findIn key (entries.filter fun entry => keeps entry.1) =
      if keeps key then findIn key entries else none := by
  induction entries with
  | nil => simp [findIn]
  | cons entry entries ih =>
    obtain ⟨other, value⟩ := entry
    by_cases kept : keeps other = true
    · by_cases same : key = other
      · subst same
        simp [findIn, kept]
      · simp [findIn, kept, same, ih]
    · by_cases same : key = other
      · subst same
        simp [kept, ih]
      · simp [findIn, kept, same, ih]

/-- Putting what is there changes nothing. -/
theorem put_of_find? {table : Table κ α} {key : κ} {value : α}
    (found : table.find? key = some value) : table.put key value = table := by
  obtain ⟨entries⟩ := table
  simp only [find?] at found
  simp only [put, mk.injEq]
  induction entries with
  | nil => cases found
  | cons entry entries ih =>
    obtain ⟨other, old⟩ := entry
    by_cases same : key = other
    · subst same
      simp only [findIn, if_pos, Option.some.injEq] at found
      simp only [putIn, if_pos, found]
    · simp only [findIn, if_neg same] at found
      simp only [putIn, if_neg same, ih found]

/-- Entries that are put in turn come before those of the table. -/
theorem find?_putAll (table : Table κ α) {entries : List (κ × α)}
    (distinct : (entries.map Prod.fst).Nodup) (key : κ) :
    (table.putAll entries).find? key = (findIn key entries).or (table.find? key) := by
  induction entries generalizing table with
  | nil => rfl
  | cons entry entries ih =>
    obtain ⟨other, value⟩ := entry
    simp only [List.map_cons, List.nodup_cons] at distinct
    have rest := ih (table.put other value) distinct.2
    have first : (table.putAll ((other, value) :: entries)).find? key =
        ((table.put other value).putAll entries).find? key := rfl
    rw [first, rest]
    by_cases same : key = other
    · subst same
      have absent := (findIn_eq_none_iff key entries).mpr distinct.1
      rw [absent, find?_put_self, findIn, if_pos rfl]
      rfl
    · rw [find?_put_of_ne table same, findIn, if_neg same]

theorem nodup_put {table : Table κ α} (nodup : table.keys.Nodup) (key : κ) (value : α) :
    (table.put key value).keys.Nodup := by
  rw [keys_put]
  split
  · exact nodup
  · rename_i fresh
    rw [List.nodup_append]
    refine ⟨nodup, by simp, ?_⟩
    intro other member last same
    obtain rfl := List.mem_singleton.mp same
    rintro rfl
    exact fresh member

theorem nodup_erase {table : Table κ α} (nodup : table.keys.Nodup) (key : κ) :
    (table.erase key).keys.Nodup :=
  List.Nodup.sublist (List.Sublist.map _ List.filter_sublist) nodup

/-! ### Changed values -/

section

variable {β : Type} (f : α → β)

theorem find?_map (table : Table κ α) (key : κ) :
    (table.map f).find? key = (table.find? key).map f := by
  obtain ⟨entries⟩ := table
  simp only [map, find?]
  induction entries with
  | nil => rfl
  | cons entry entries ih =>
    simp only [List.map_cons, findIn]
    split
    · rfl
    · exact ih

theorem map_put (table : Table κ α) (key : κ) (value : α) :
    (table.put key value).map f = (table.map f).put key (f value) := by
  obtain ⟨entries⟩ := table
  simp only [map, put, mk.injEq]
  induction entries with
  | nil => rfl
  | cons entry entries ih =>
    simp only [List.map_cons, putIn]
    split
    · rfl
    · rw [List.map_cons, ih]

theorem map_erase (table : Table κ α) (key : κ) :
    (table.erase key).map f = (table.map f).erase key := by
  simp only [map, erase, List.filter_map]
  rfl

end

end Table

end Stencil
