import Mathlib.Algebra.GroupWithZero.Nat
import Mathlib.Data.List.Induction
import Mathlib.Data.List.Nodup
import Stencil.Proofs.OutputPaths
import Stencil.Task

namespace Stencil

section

variable {κ : Type} [DecidableEq κ]

theorem tally_of_not_mem {key : κ} {counts : List (κ × Nat)}
    (absent : key ∉ counts.map Prod.fst) : tally key counts = counts ++ [(key, 1)] := by
  induction counts with
  | nil => rfl
  | cons first rest ih =>
    obtain ⟨counted, n⟩ := first
    simp only [List.map_cons, List.mem_cons, not_or] at absent
    have differs : counted ≠ key := fun same => absent.1 same.symm
    rw [tally, if_neg differs, ih absent.2, List.cons_append]

theorem tally_of_mem {key : κ} {distinct : List κ} (nodup : distinct.Nodup)
    (member : key ∈ distinct) (count : κ → Nat) :
    tally key (distinct.map fun counted => (counted, count counted)) =
      distinct.map fun counted => (counted, count counted + if counted = key then 1 else 0) := by
  induction distinct with
  | nil => cases member
  | cons first rest ih =>
    obtain ⟨notAgain, nodupRest⟩ := List.nodup_cons.mp nodup
    rw [List.map_cons, List.map_cons, tally]
    by_cases here : first = key
    · subst here
      have others : rest.map (fun counted => (counted, count counted)) =
          rest.map fun counted => (counted, count counted + if counted = first then 1 else 0) := by
        apply List.map_congr_left
        intro counted inRest
        have differs : counted ≠ first := fun same => notAgain (same ▸ inRest)
        simp [differs]
      rw [if_pos rfl, if_pos rfl, others]
    · have later : key ∈ rest := (List.mem_cons.mp member).resolve_left fun same => here same.symm
      rw [if_neg here, if_neg here, ih nodupRest later, Nat.add_zero]

theorem sum_tally (key : κ) (counts : List (κ × Nat)) :
    ((tally key counts).map Prod.snd).sum = (counts.map Prod.snd).sum + 1 := by
  induction counts with
  | nil => rfl
  | cons first rest ih =>
    rw [tally]
    split
    · simp only [List.map_cons, List.sum_cons]
      omega
    · simp only [List.map_cons, List.sum_cons, ih]
      omega

end

section

variable {κ : Type} [BEq κ] [LawfulBEq κ]

theorem eraseDups_concat (keys : List κ) (key : κ) :
    (keys ++ [key]).eraseDups =
      if key ∈ keys then keys.eraseDups else keys.eraseDups ++ [key] := by
  rw [List.eraseDups_append]
  by_cases known : key ∈ keys <;> simp [List.removeAll, known, List.eraseDups_cons]

theorem nodup_eraseDups (keys : List κ) : keys.eraseDups.Nodup := by
  induction keys using List.reverseRecOn with
  | nil => exact .nil
  | append_singleton keys key ih =>
    rw [eraseDups_concat]
    split
    · exact ih
    · next new =>
      refine List.nodup_append.mpr ⟨ih, List.nodup_singleton key, ?_⟩
      rintro other member _ last rfl
      exact new (List.mem_eraseDups.mp (List.mem_singleton.mp last ▸ member))

/-- Names that are equal where others are, are as many as these without their repetitions. -/
theorem length_eraseDups_map_congr {α γ : Type} [BEq γ] [LawfulBEq γ] {items : List α} {f : α → κ}
    {g : α → γ} (same : ∀ a ∈ items, ∀ b ∈ items, f a = f b ↔ g a = g b) :
    (items.map f).eraseDups.length = (items.map g).eraseDups.length := by
  induction items using List.reverseRecOn with
  | nil => rfl
  | append_singleton items last ih =>
    have earlier := ih fun a inFront b alsoInFront =>
      same a (List.mem_append_left _ inFront) b (List.mem_append_left _ alsoInFront)
    have known : f last ∈ items.map f ↔ g last ∈ items.map g := by
      rw [List.mem_map, List.mem_map]
      exact exists_congr fun a => and_congr_right fun inFront =>
        same a (List.mem_append_left _ inFront) last (List.mem_append_right _ List.mem_cons_self)
    rw [List.map_append, List.map_append, List.map_singleton, List.map_singleton, eraseDups_concat,
      eraseDups_concat]
    by_cases there : f last ∈ items.map f
    · rw [if_pos there, if_pos (known.mp there), earlier]
    · rw [if_neg there, if_neg fun inFront => there (known.mpr inFront), List.length_append,
        List.length_append, earlier, List.length_singleton, List.length_singleton]

variable [DecidableEq κ]

/-- Keys that are tallied one after the other stand in the order of their first occurrences, each
with the number of all its occurrences. -/
theorem foldl_tally (keys : List κ) :
    keys.foldl (fun counts key => tally key counts) [] =
      keys.eraseDups.map fun key => (key, keys.count key) := by
  induction keys using List.reverseRecOn with
  | nil => rfl
  | append_singleton keys key ih =>
    have counted (other : κ) :
        (keys ++ [key]).count other = keys.count other + if other = key then 1 else 0 := by
      rw [List.count_append, List.count_singleton]
      by_cases same : other = key
      · simp [same]
      · have differs : key ≠ other := fun equal => same equal.symm
        simp [same, differs]
    rw [List.foldl_append, List.foldl_cons, List.foldl_nil, ih, eraseDups_concat]
    simp only [counted]
    by_cases known : key ∈ keys
    · rw [if_pos known, tally_of_mem (nodup_eraseDups keys) (List.mem_eraseDups.mpr known)]
    · have absent : key ∉ (keys.eraseDups.map fun key => (key, keys.count key)).map Prod.fst := by
        simpa [List.mem_eraseDups] using known
      rw [if_neg known, tally_of_not_mem absent, List.map_append, List.map_singleton]
      congr 1
      · apply List.map_congr_left
        intro other member
        have differs : other ≠ key := fun same => known (same ▸ List.mem_eraseDups.mp member)
        simp [differs]
      · simp [List.count_eq_zero_of_not_mem known]

theorem sum_count_eraseDups (keys : List κ) :
    (keys.eraseDups.map fun key => keys.count key).sum = keys.length := by
  have total : ∀ counts : List (κ × Nat),
      ((keys.foldl (fun counts key => tally key counts) counts).map Prod.snd).sum =
        (counts.map Prod.snd).sum + keys.length := by
    induction keys with
    | nil => exact fun _ => rfl
    | cons key rest ih =>
      intro counts
      rw [List.foldl_cons, ih, sum_tally, List.length_cons]
      omega
  have tallied := total []
  rw [foldl_tally, List.map_map] at tallied
  simpa [Function.comp_def] using tallied

end

namespace Declaration

/-- The names under which an output is declared. -/
def outputKey (declaration : Declaration) : String × String :=
  (declaration.namespaceName, declaration.directive.outputName)

theorem sameOutput_iff {declaration other : Declaration} :
    declaration.SameOutput other ↔ declaration.outputKey = other.outputKey := by
  simp [SameOutput, outputKey]

end Declaration

namespace Task

variable {task : Task}

def outputKeys (task : Task) : List (String × String) :=
  task.declarations.map Declaration.outputKey

/-- What is told of names if they are declared several times. -/
def duplicate? (task : Task) (key : String × String) : Option DuplicateOutput :=
  if task.outputKeys.count key > 1 then some ⟨key.1, key.2, task.outputKeys.count key⟩ else none

theorem duplicateOutputs_eq (task : Task) :
    task.duplicateOutputs = task.outputKeys.eraseDups.filterMap task.duplicate? := by
  have counts : task.declarations.foldl (fun counts declaration =>
      tally (declaration.namespaceName, declaration.directive.outputName) counts) [] =
        task.outputKeys.foldl (fun counts key => tally key counts) [] := by
    rw [outputKeys, List.foldl_map]
    rfl
  unfold duplicateOutputs
  simp only [counts, foldl_tally, List.filterMap_map]
  rfl

theorem duplicateOutputs_eq_nil : task.duplicateOutputs = [] ↔ task.outputKeys.Nodup := by
  rw [duplicateOutputs_eq, List.filterMap_eq_nil_iff, List.nodup_iff_count_le_one]
  constructor
  · intro single key
    by_cases known : key ∈ task.outputKeys
    · simpa [duplicate?] using single key (List.mem_eraseDups.mpr known)
    · simp [List.count_eq_zero_of_not_mem known]
  · intro single key _
    simpa [duplicate?] using single key

/-- No output is declared several times if no two directives are declared under the same names. -/
theorem duplicateOutputs_eq_nil_iff_pairwise :
    task.duplicateOutputs = [] ↔
      task.declarations.Pairwise fun declaration other => ¬ declaration.SameOutput other := by
  rw [duplicateOutputs_eq_nil, outputKeys, List.Nodup, List.pairwise_map]
  simp only [Declaration.sameOutput_iff, ne_eq]

theorem sum_duplicates {keys : List (String × String)} (known : ∀ key ∈ keys, key ∈ task.outputKeys) :
    keys.length + ((keys.filterMap task.duplicate?).map fun output => output.occurrences - 1).sum =
      (keys.map fun key => task.outputKeys.count key).sum := by
  induction keys with
  | nil => rfl
  | cons key rest ih =>
    have occurs := List.count_pos_iff.mpr (known key List.mem_cons_self)
    have later := ih fun other member => known other (List.mem_cons_of_mem _ member)
    rw [List.length_cons, List.map_cons, List.sum_cons, ← later]
    by_cases several : task.outputKeys.count key > 1
    · have told : task.duplicate? key = some _ := if_pos several
      simp only [List.filterMap_cons_some told, List.map_cons, List.sum_cons]
      omega
    · have untold : task.duplicate? key = none := if_neg several
      rw [List.filterMap_cons_none untold]
      omega

/-- All directives are the first ones under their names and those that are counted besides. -/
theorem length_eraseDups_add_sum (task : Task) :
    task.outputKeys.eraseDups.length +
      (task.duplicateOutputs.map fun output => output.occurrences - 1).sum = task.directiveCount := by
  rw [duplicateOutputs_eq, sum_duplicates fun key member => List.mem_eraseDups.mp member,
    sum_count_eraseDups, outputKeys, List.length_map, length_declarations]

end Task

end Stencil
