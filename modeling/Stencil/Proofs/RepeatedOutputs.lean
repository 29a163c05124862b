import Mathlib.Data.List.Induction
import Mathlib.Data.List.Nodup
import Mathlib.Data.List.Sort
import Stencil.Proofs.OutputTallies

namespace Stencil

section

variable {κ : Type} [BEq κ] [LawfulBEq κ]

/-- Without their repetitions keys stand in the order of their first occurrences. -/
theorem pairwise_idxOf_eraseDups (keys : List κ) :
    keys.eraseDups.Pairwise fun a b => keys.idxOf a < keys.idxOf b := by
  induction keys using List.reverseRecOn with
  | nil => exact .nil
  | append_singleton keys key ih =>
    have kept {a : κ} (known : a ∈ keys.eraseDups) : (keys ++ [key]).idxOf a = keys.idxOf a :=
      List.idxOf_append_of_mem (List.mem_eraseDups.mp known)
    have earlier : keys.eraseDups.Pairwise fun a b =>
        (keys ++ [key]).idxOf a < (keys ++ [key]).idxOf b := by
      refine ih.imp_of_mem fun {a b} knownA knownB less => ?_
      rwa [kept knownA, kept knownB]
    rw [eraseDups_concat]
    split
    · exact earlier
    · next new =>
      refine List.pairwise_append.mpr ⟨earlier, List.pairwise_singleton _ _, fun a known last atEnd => ?_⟩
      rw [List.mem_singleton.mp atEnd, kept known, List.idxOf_append_of_notMem new]
      exact Nat.lt_of_lt_of_le (List.idxOf_lt_length_iff.mpr (List.mem_eraseDups.mp known))
        (Nat.le_add_right _ _)

/-- Counts in a hash table, and beside it the keys in the order in which they were first counted. -/
structure Counts (κ : Type) [BEq κ] [Hashable κ] where
  table : Std.HashMap κ Nat := ∅
  order : List κ := []

namespace Counts

variable [Hashable κ] {counts : Counts κ} {keys : List κ}

def add (counts : Counts κ) (key : κ) : Counts κ where
  table := counts.table.insert key (counts.table.getD key 0 + 1)
  order := if counts.table.getD key 0 = 0 then counts.order ++ [key] else counts.order

/-- Every key has come into the order when its count left zero. -/
structure Tells (counts : Counts κ) (keys : List κ) : Prop where
  count : ∀ key, counts.table.getD key 0 = keys.count key
  order : counts.order = keys.eraseDups

theorem Tells.next (tells : counts.Tells keys) (key : κ) : (counts.add key).Tells (keys ++ [key]) where
  count other := by
    rw [add, Std.HashMap.getD_insert, tells.count, tells.count, List.count_append, List.count_singleton]
    by_cases same : key = other
    · simp [same]
    · simp [same]
  order := by
    have uncounted : counts.table.getD key 0 = 0 ↔ key ∉ keys := by
      rw [tells.count, List.count_eq_zero]
    rw [add, eraseDups_concat, tells.order]
    by_cases known : key ∈ keys
    · rw [if_neg fun zero => uncounted.mp zero known, if_pos known]
    · rw [if_pos (uncounted.mpr known), if_neg known]

theorem tells_foldl (keys : List κ) : (keys.foldl add {}).Tells keys := by
  induction keys using List.reverseRecOn with
  | nil => exact ⟨fun _ => Std.HashMap.getD_empty, rfl⟩
  | append_singleton keys key ih =>
    rw [List.foldl_append]
    exact ih.next key

end Counts

end

def DuplicateOutput.key (output : DuplicateOutput) : String × String :=
  (output.namespaceName, output.outputName)

theorem Namespace.count_outputKeys (ns : Namespace) (key : String × String) :
    (ns.declarations.map Declaration.outputKey).count key =
      if ns.name = key.1 then ns.directives.countP fun directive => directive.outputName = key.2 else 0 := by
  unfold declarations
  rw [List.map_map, List.count, List.countP_map]
  split
  · next same =>
    refine List.countP_congr fun directive _ => ?_
    simp [Declaration.outputKey, Prod.ext_iff, same]
  · next differs =>
    refine List.countP_eq_zero.mpr fun directive _ => ?_
    simp [Declaration.outputKey, Prod.ext_iff, differs]

namespace Task

variable {task : Task} {outputs others : List DuplicateOutput}

/-- How many directives are declared under a key, over all namespaces of the name. -/
def occurrences (task : Task) (key : String × String) : Nat :=
  ((task.namespaces.filter fun ns => ns.name = key.1).map fun ns =>
    ns.directives.countP fun directive => directive.outputName = key.2).sum

theorem count_outputKeys (task : Task) (key : String × String) :
    task.outputKeys.count key = task.occurrences key := by
  unfold outputKeys declarations occurrences
  induction task.namespaces with
  | nil => rfl
  | cons ns rest ih =>
    rw [List.flatMap_cons, List.map_append, List.count_append, ih, ns.count_outputKeys, List.filter_cons]
    by_cases same : ns.name = key.1
    · simp [same]
    · simp [same]

/-- Each key that is declared at least twice, once, with the number of its declarations, in the order
of the first ones. -/
structure Repeats (task : Task) (outputs : List DuplicateOutput) : Prop where
  several : ∀ key, key ∈ outputs.map DuplicateOutput.key ↔ 2 ≤ task.occurrences key
  once : (outputs.map DuplicateOutput.key).Nodup
  counted : ∀ output ∈ outputs, output.occurrences = task.occurrences output.key
  ordered : outputs.Pairwise fun a b => task.outputKeys.idxOf a.key < task.outputKeys.idxOf b.key

theorem Repeats.ordered_keys (repeats : task.Repeats outputs) :
    (outputs.map DuplicateOutput.key).Pairwise fun a b =>
      task.outputKeys.idxOf a < task.outputKeys.idxOf b :=
  repeats.ordered.map _ fun _ _ less => less

/-- No two lists do so. -/
theorem Repeats.unique (repeats : task.Repeats outputs) (again : task.Repeats others) :
    outputs = others := by
  have made {outputs : List DuplicateOutput} (repeats : task.Repeats outputs) :
      outputs = (outputs.map DuplicateOutput.key).map fun key => ⟨key.1, key.2, task.occurrences key⟩ := by
    rw [List.map_map]
    refine (List.map_id outputs).symm.trans (List.map_congr_left fun output member => ?_)
    rw [Function.comp_apply, ← repeats.counted output member]
    rfl
  have : Std.Irrefl fun a b => task.outputKeys.idxOf a < task.outputKeys.idxOf b :=
    ⟨fun _ => Nat.lt_irrefl _⟩
  have : Std.Antisymm fun a b => task.outputKeys.idxOf a < task.outputKeys.idxOf b :=
    ⟨fun _ _ less greater => absurd greater (Nat.lt_asymm less)⟩
  have keys : outputs.map DuplicateOutput.key = others.map DuplicateOutput.key :=
    repeats.ordered_keys.eq_of_mem_iff again.ordered_keys fun key => by
      rw [repeats.several, again.several]
  rw [made repeats, made again, keys]

/-- The keys that are told are those that occur several times, in their order. -/
theorem keys_duplicateOutputs (task : Task) :
    task.duplicateOutputs.map DuplicateOutput.key =
      task.outputKeys.eraseDups.filter fun key => 2 ≤ task.occurrences key := by
  rw [duplicateOutputs_eq, List.map_filterMap, ← List.filterMap_eq_filter]
  refine List.filterMap_congr fun key _ => ?_
  rw [duplicate?, count_outputKeys]
  by_cases several : 2 ≤ task.occurrences key
  · have more : task.occurrences key > 1 := several
    simp [more, several, Option.guard, DuplicateOutput.key]
  · have single : ¬ task.occurrences key > 1 := several
    simp [single, several, Option.guard]

theorem repeats_duplicateOutputs (task : Task) : task.Repeats task.duplicateOutputs where
  several key := by
    rw [keys_duplicateOutputs, List.mem_filter, List.mem_eraseDups, decide_eq_true_iff]
    refine and_iff_right_of_imp fun several => ?_
    rw [← count_outputKeys] at several
    exact List.count_pos_iff.mp (Nat.lt_of_lt_of_le Nat.zero_lt_two several)
  once := by
    rw [keys_duplicateOutputs]
    exact (nodup_eraseDups task.outputKeys).filter _
  counted output member := by
    rw [duplicateOutputs_eq] at member
    obtain ⟨key, _, told⟩ := List.mem_filterMap.mp member
    rw [duplicate?, count_outputKeys] at told
    split at told
    · cases told
      rfl
    · cases told
  ordered := by
    have ordered := (pairwise_idxOf_eraseDups task.outputKeys).filter fun key => 2 ≤ task.occurrences key
    rw [← keys_duplicateOutputs] at ordered
    exact ordered.of_map DuplicateOutput.key fun _ _ less => less

/-- The outputs declared several times, from counts in a hash table with a hash function of any kind. -/
def tabledOutputs (task : Task) (hash : Hashable (String × String)) : List DuplicateOutput :=
  let counts : Counts (String × String) := task.outputKeys.foldl Counts.add {}
  counts.order.filterMap fun key =>
    let occurrences := counts.table.getD key 0
    if occurrences > 1 then some ⟨key.1, key.2, occurrences⟩ else none

theorem tabledOutputs_eq (task : Task) (hash : Hashable (String × String)) :
    task.tabledOutputs hash = task.duplicateOutputs := by
  have tells := Counts.tells_foldl task.outputKeys
  rw [tabledOutputs, duplicateOutputs_eq, tells.order]
  simp only [tells.count]
  rfl

/-- A list has each key that is declared at least twice, once, with the number of its declarations, in
the order of the first ones, if and only if it is what is told. Nothing of it depends on how a hash
table would order the keys. -/
theorem duplicateOutputs_reference (task : Task) :
    (∀ outputs, task.Repeats outputs ↔ outputs = task.duplicateOutputs) ∧
    ∀ hash, task.tabledOutputs hash = task.duplicateOutputs := by
  refine ⟨fun outputs => ⟨fun repeats => repeats.unique task.repeats_duplicateOutputs, ?_⟩,
    task.tabledOutputs_eq⟩
  rintro rfl
  exact task.repeats_duplicateOutputs

end Task

end Stencil
