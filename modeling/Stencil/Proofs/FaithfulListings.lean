import Mathlib.Data.List.Induction
import Mathlib.Data.List.Sort
import Stencil.Proofs.PathOrder
import Stencil.Task

namespace Stencil

namespace Path

variable {paths others : List Path} {path last : Path}

/-- The path that was declared last is listed; another one still is unless it has the same components. -/
theorem mem_listing_concat (listed : path ∈ listing (paths ++ [last])) :
    path = last ∨ path ∈ listing paths ∧ path.components ≠ last.components := by
  have distinct := nodup_components_listing (paths ++ [last])
  obtain ⟨entry, held, rfl⟩ := List.mem_map.mp listed
  rw [List.foldl_append, List.foldl_cons, List.foldl_nil] at held
  have lastListed : last ∈ listing (paths ++ [last]) := by
    rw [listing, List.foldl_append, List.foldl_cons, List.foldl_nil]
    exact List.mem_map_of_mem (mem_insertInto_self last.components last _)
  rcases of_mem_insertInto held with rfl | before
  · exact .inl rfl
  · by_cases same : entry.2.components = last.components
    · exact .inl (List.inj_on_of_nodup_map distinct listed lastListed same)
    · exact .inr ⟨List.mem_map_of_mem before, same⟩

/-- Of the paths with the same components, the one that is declared last is listed. -/
theorem last_of_mem_listing (listed : path ∈ listing paths) :
    ∃ before after, paths = before ++ path :: after ∧
      ∀ other ∈ after, other.components ≠ path.components := by
  induction paths using List.reverseRecOn with
  | nil => cases listed
  | append_singleton paths last ih =>
    rcases mem_listing_concat listed with rfl | ⟨earlier, differs⟩
    · exact ⟨paths, [], rfl, fun _ member => nomatch member⟩
    · obtain ⟨before, after, rfl, none⟩ := ih earlier
      refine ⟨before, after ++ [last], by rw [List.append_assoc, List.cons_append], ?_⟩
      intro other member
      rcases List.mem_append.mp member with inside | atEnd
      · exact none other inside
      · rw [List.mem_singleton.mp atEnd]
        exact differs.symm

/-- The components that are listed depend on the components that are declared only, and not on their
order. -/
theorem components_listing_congr
    (same : ∀ key, key ∈ paths.map components ↔ key ∈ others.map components) :
    (listing paths).map components = (listing others).map components := by
  have irreflexive (key : List Component) : Component.compareList key key ≠ .lt := by
    rw [Component.compareList_self]
    nofun
  have : Std.Irrefl fun a b => Component.compareList a b = .lt := ⟨irreflexive⟩
  have : Std.Antisymm fun a b => Component.compareList a b = .lt :=
    ⟨fun a _ less greater => absurd (Std.TransCmp.lt_trans less greater) (irreflexive a)⟩
  have increasing (paths : List Path) :
      ((listing paths).map components).Pairwise fun a b => Component.compareList a b = .lt :=
    List.pairwise_map.mpr (pairwise_compare_listing paths)
  refine (increasing paths).eq_of_mem_iff (increasing others) fun key => ?_
  rw [mem_components_listing, mem_components_listing, same]

/-- A listing of declared paths: strictly increasing, with one path for all spellings of a declared
one, which is the spelling that is declared last. -/
structure Faithful (listed declared : List Path) : Prop where
  increasing : listed.Pairwise fun a b => compare a b = .lt
  distinct : (listed.map components).Nodup
  every : ∀ path ∈ declared, ∃ other ∈ listed, other.components = path.components
  spelled : ∀ path ∈ listed, ∃ before after, declared = before ++ path :: after ∧
    ∀ other ∈ after, other.components ≠ path.components

theorem faithful_listing (paths : List Path) : Faithful (listing paths) paths where
  increasing := pairwise_compare_listing paths
  distinct := nodup_components_listing paths
  every _ member := exists_mem_listing member
  spelled _ listed := last_of_mem_listing listed

/-- What two lists list together is what either of them lists. -/
theorem mem_components_listing_append {key : List Component} :
    key ∈ (listing (paths ++ others)).map components ↔
      key ∈ (listing paths).map components ∨ key ∈ (listing others).map components := by
  rw [mem_components_listing, mem_components_listing, mem_components_listing, List.map_append,
    List.mem_append]

theorem components_listing_perm (reordered : others.Perm paths) :
    (listing others).map components = (listing paths).map components :=
  components_listing_congr fun _ => (reordered.map components).mem_iff

end Path

namespace Task

/-- The same directives in the same namespaces, both in any order. -/
def Reordered (task other : Task) : Prop :=
  other.declarations.Perm task.declarations

theorem reordered_of_namespaces {task other : Task} (reordered : other.namespaces.Perm task.namespaces) :
    task.Reordered other :=
  reordered.flatMap_right _

/-- Both listings of a task are faithful. A task that goes on with another one lists what either of
them lists, and the order of a task makes no difference to what is listed but for its spelling. -/
theorem files_faithful (task : Task) (root : Path) :
    Path.Faithful (task.inputFiles root) (task.declarations.map (·.templateFile root)) ∧
    Path.Faithful (task.outputFiles root) (task.declarations.map (·.outputFile root)) ∧
    (∀ other key,
      (key ∈ ((task ++ other).inputFiles root).map Path.components ↔
        key ∈ (task.inputFiles root).map Path.components ∨
          key ∈ (other.inputFiles root).map Path.components) ∧
      (key ∈ ((task ++ other).outputFiles root).map Path.components ↔
        key ∈ (task.outputFiles root).map Path.components ∨
          key ∈ (other.outputFiles root).map Path.components)) ∧
    ∀ other, task.Reordered other →
      (other.inputFiles root).map Path.components = (task.inputFiles root).map Path.components ∧
      (other.outputFiles root).map Path.components = (task.outputFiles root).map Path.components := by
  refine ⟨Path.faithful_listing _, Path.faithful_listing _, fun other key => ?_, fun other reordered => ?_⟩
  · unfold inputFiles outputFiles
    rw [declarations_append, List.map_append, List.map_append]
    exact ⟨Path.mem_components_listing_append, Path.mem_components_listing_append⟩
  · exact ⟨Path.components_listing_perm (reordered.map _), Path.components_listing_perm (reordered.map _)⟩

/-- Two spellings of one template are listed as one file, in each order of the namespaces. -/
theorem files_faithful_respelled :
    let first : Namespace := ⟨"b", [⟨"A", .single .int, "X"⟩, ⟨"B", .single .int, ".//X"⟩]⟩
    let second : Namespace := ⟨"a", [⟨"A", .single .long, "X"⟩]⟩
    Task.inputFiles ⟨[first, second]⟩ ⟨"t"⟩ = [⟨"t/a/X.java.ftl"⟩, ⟨"t/b/.//X.java.ftl"⟩] ∧
      (Task.inputFiles ⟨[second, first]⟩ ⟨"t"⟩).map Path.components =
        (Task.inputFiles ⟨[first, second]⟩ ⟨"t"⟩).map Path.components := by
  intro first second
  have reordered : Task.Reordered ⟨[first, second]⟩ ⟨[second, first]⟩ :=
    reordered_of_namespaces (.swap _ _ [])
  exact ⟨by decide +kernel, ((files_faithful ⟨[first, second]⟩ ⟨"t"⟩).2.2.2 _ reordered).1⟩

end Task

end Stencil
