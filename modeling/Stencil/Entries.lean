namespace Stencil

/-- Keyed values in strictly increasing key order. The order is an invariant that every operation
keeps (`Sorted`), not part of the type, so that trees can nest such lists. -/
abbrev Entries (α : Type) := List (String × α)

namespace Entries

variable {α β : Type}

def Sorted (entries : Entries α) : Prop :=
  entries.Pairwise fun a b => a.1 < b.1

def find? (key : String) : Entries α → Option α
  | [] => none
  | (held, value) :: rest => if held = key then some value else find? key rest

/-- Puts a value at its place in the key order; what the key held before is replaced. -/
def insert (key : String) (value : α) : Entries α → Entries α
  | [] => [(key, value)]
  | (held, old) :: rest =>
    if key < held then (key, value) :: (held, old) :: rest
    else if key = held then (key, value) :: rest
    else (held, old) :: insert key value rest

def erase (key : String) : Entries α → Entries α
  | [] => []
  | (held, value) :: rest => if held = key then rest else (held, value) :: erase key rest

/-- Adds all pairs of a list from left to right, so the last one with a key stays. -/
def insertAll (entries : Entries α) (pairs : List (String × α)) : Entries α :=
  pairs.foldl (fun held pair => held.insert pair.1 pair.2) entries

def ofInsertions (pairs : List (String × α)) : Entries α :=
  insertAll [] pairs

def keys (entries : Entries α) : List String :=
  entries.map (·.1)

theorem sorted_nil : Sorted ([] : Entries α) := List.Pairwise.nil

theorem find?_insert_self (key : String) (value : α) (entries : Entries α) :
    (entries.insert key value).find? key = some value := by
  induction entries with
  | nil => simp [insert, find?]
  | cons pair rest ih =>
    obtain ⟨held, old⟩ := pair
    rw [insert]
    split
    · simp [find?]
    · split
      · simp [find?]
      · next differs => simp [find?, Ne.symm differs, ih]

theorem find?_insert_of_ne {key other : String} (differs : key ≠ other) (value : α)
    (entries : Entries α) : (entries.insert key value).find? other = entries.find? other := by
  induction entries with
  | nil => simp [insert, find?, differs]
  | cons pair rest ih =>
    obtain ⟨held, old⟩ := pair
    rw [insert]
    split
    · simp [find?, differs]
    · split
      · next same => subst same; simp [find?, differs]
      · simp [find?, ih]

theorem find?_insert (key other : String) (value : α) (entries : Entries α) :
    (entries.insert key value).find? other =
      if key = other then some value else entries.find? other := by
  by_cases same : key = other
  · subst same; simp [find?_insert_self]
  · simp [same, find?_insert_of_ne same]

theorem mem_insert {key : String} {value : α} {pair : String × α} {entries : Entries α}
    (member : pair ∈ entries.insert key value) : pair = (key, value) ∨ pair ∈ entries := by
  induction entries with
  | nil => simpa [insert] using member
  | cons head rest ih =>
    obtain ⟨held, old⟩ := head
    rw [insert] at member
    split at member
    · simpa using member
    · split at member
      · rcases List.mem_cons.1 member with same | inRest
        · exact .inl same
        · exact .inr (List.mem_cons_of_mem _ inRest)
      · rcases List.mem_cons.1 member with same | inRest
        · exact .inr (by simp [same])
        · exact (ih inRest).imp id (List.mem_cons_of_mem _)

theorem Sorted.insert {entries : Entries α} (sorted : entries.Sorted) (key : String) (value : α) :
    (entries.insert key value).Sorted := by
  induction entries with
  | nil => exact List.pairwise_singleton _ _
  | cons pair rest ih =>
    obtain ⟨held, old⟩ := pair
    obtain ⟨before, sortedRest⟩ := List.pairwise_cons.1 sorted
    rw [Entries.insert]
    split
    · next less =>
      refine List.pairwise_cons.2 ⟨fun other member => ?_, sorted⟩
      rcases List.mem_cons.1 member with same | inRest
      · exact same ▸ less
      · exact String.lt_trans less (before other inRest)
    · split
      · next same => exact List.pairwise_cons.2 ⟨fun other member => same ▸ before other member, sortedRest⟩
      · next notLess differs =>
        have greater : held < key :=
          Std.lt_of_le_of_ne (String.not_lt.1 notLess) fun same => differs same.symm
        refine List.pairwise_cons.2 ⟨fun other member => ?_, ih sortedRest⟩
        rcases mem_insert member with same | inRest
        · exact same ▸ greater
        · exact before other inRest

theorem sorted_insertAll {entries : Entries α} (sorted : entries.Sorted) (pairs : List (String × α)) :
    (entries.insertAll pairs).Sorted := by
  induction pairs generalizing entries with
  | nil => exact sorted
  | cons pair rest ih => exact ih (sorted.insert pair.1 pair.2)

end Stencil.Entries
