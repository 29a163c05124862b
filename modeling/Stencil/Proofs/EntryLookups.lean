import Mathlib.Data.List.Induction
import Mathlib.Data.List.Nodup
import Mathlib.Data.List.Sort
import Stencil.Entries

namespace Stencil.Entries

variable {α : Type} {entries other : Entries α} {pairs : List (String × α)} {key : String} {value : α}

/-- The value that a key is given last. -/
def last? (key : String) (pairs : List (String × α)) : Option α :=
  find? key pairs.reverse

theorem last?_concat (pairs : List (String × α)) (given key : String) (value : α) :
    last? key (pairs ++ [(given, value)]) = if given = key then some value else last? key pairs := by
  rw [last?, List.reverse_append]
  rfl

theorem find?_eq_none : find? key pairs = none ↔ key ∉ pairs.map Prod.fst := by
  induction pairs with
  | nil => simp [find?]
  | cons pair rest ih =>
    by_cases same : pair.1 = key
    · simp [find?, same]
    · simp [find?, same, ih, Ne.symm same]

theorem mem_of_find? (found : find? key pairs = some value) : (key, value) ∈ pairs := by
  induction pairs with
  | nil => cases found
  | cons pair rest ih =>
    rw [find?] at found
    split at found
    · next same =>
      rw [← same, ← Option.some.inj found]
      exact List.mem_cons_self
    · exact List.mem_cons_of_mem _ (ih found)

/-- Where no key stands twice, a key has the value that it stands with. -/
theorem find?_eq_some_iff (nodup : (pairs.map Prod.fst).Nodup) :
    find? key pairs = some value ↔ (key, value) ∈ pairs := by
  refine ⟨mem_of_find?, fun member => ?_⟩
  cases found : find? key pairs with
  | none => exact absurd (List.mem_map_of_mem member) (find?_eq_none.mp found)
  | some held =>
    have same := List.inj_on_of_nodup_map nodup (mem_of_find? found) member rfl
    exact congrArg some (Prod.mk.inj same).2

theorem last?_eq_find? (nodup : (pairs.map Prod.fst).Nodup) : last? key pairs = find? key pairs := by
  have reversed : (pairs.reverse.map Prod.fst).Nodup := by
    rw [List.map_reverse]
    exact List.nodup_reverse.mpr nodup
  ext value
  rw [last?, find?_eq_some_iff reversed, find?_eq_some_iff nodup, List.mem_reverse]

theorem last?_eq_none : last? key pairs = none ↔ key ∉ pairs.map Prod.fst := by
  rw [last?, find?_eq_none, List.map_reverse, List.mem_reverse]

theorem Sorted.nodup (sorted : entries.Sorted) : (entries.map Prod.fst).Nodup := by
  refine List.pairwise_map.mpr (sorted.imp fun {a b} less same => ?_)
  rw [same] at less
  exact String.lt_irrefl _ less

/-- Entries are known from what their keys have. -/
theorem Sorted.ext (sorted : entries.Sorted) (otherSorted : other.Sorted)
    (same : ∀ key, entries.find? key = other.find? key) : entries = other := by
  have : Std.Irrefl fun a b : String × α => a.1 < b.1 := ⟨fun a => String.lt_irrefl a.1⟩
  have : Std.Antisymm fun a b : String × α => a.1 < b.1 :=
    ⟨fun _ _ less greater => absurd greater (String.lt_asymm less)⟩
  refine sorted.eq_of_mem_iff otherSorted ?_
  rintro ⟨key, value⟩
  rw [← find?_eq_some_iff sorted.nodup, ← find?_eq_some_iff otherSorted.nodup, same]

theorem find?_insertAll (entries : Entries α) (pairs : List (String × α)) (key : String) :
    (entries.insertAll pairs).find? key = (last? key pairs).or (entries.find? key) := by
  induction pairs using List.reverseRecOn with
  | nil => rfl
  | append_singleton pairs pair ih =>
    rw [insertAll, List.foldl_append, List.foldl_cons, List.foldl_nil, find?_insert, last?_concat]
    split
    · rfl
    · exact ih

theorem find?_ofInsertions (pairs : List (String × α)) (key : String) :
    (ofInsertions pairs).find? key = last? key pairs := by
  rw [ofInsertions, find?_insertAll]
  exact Option.or_none

theorem sorted_ofInsertions (pairs : List (String × α)) : (ofInsertions pairs).Sorted :=
  sorted_insertAll sorted_nil pairs

/-- Where no key is given twice, nothing that is inserted is lost. -/
theorem perm_ofInsertions (nodup : (pairs.map Prod.fst).Nodup) : (ofInsertions pairs).Perm pairs := by
  have distinct := (sorted_ofInsertions pairs).nodup
  refine (List.perm_ext_iff_of_nodup distinct.of_map nodup.of_map).mpr ?_
  rintro ⟨key, value⟩
  rw [← find?_eq_some_iff distinct, find?_ofInsertions, last?_eq_find? nodup, find?_eq_some_iff nodup]

/-- What is inserted under names by a function is found under each of them. -/
theorem find?_ofInsertions_map {names : List String} {name : String} (member : name ∈ names)
    (value : String → α) :
    find? name (ofInsertions (names.map fun name => (name, value name))) = some (value name) := by
  rw [find?_ofInsertions]
  cases found : last? name (names.map fun name => (name, value name)) with
  | none =>
    rw [last?_eq_none, List.map_map] at found
    exact absurd (List.mem_map.mpr ⟨name, member, rfl⟩) found
  | some held =>
    obtain ⟨other, _, same⟩ := List.mem_map.mp (List.mem_reverse.mp (mem_of_find? found))
    obtain ⟨rfl, rfl⟩ := Prod.mk.inj same
    rfl

end Stencil.Entries

namespace Stencil

/-- A search finds what it asks for where nothing else can be meant. -/
theorem find?_of_unique {α : Type} {p : α → Bool} {items : List α} {item : α} (member : item ∈ items)
    (holds : p item = true) (unique : ∀ other, p other = true → other = item) :
    items.find? p = some item := by
  cases found : items.find? p with
  | none => exact absurd holds (List.find?_eq_none.mp found item member)
  | some other => rw [unique other (List.find?_some found)]

end Stencil
