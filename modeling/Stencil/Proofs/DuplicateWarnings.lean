import Stencil.Proofs.FailureAtomicity
import Stencil.Proofs.OutputTallies
import Stencil.Proofs.PathOrder
import Stencil.Proofs.RestartLaw

namespace Stencil

namespace Declaration

variable {declaration other : Declaration}

theorem SameOutput.outputFile (same : declaration.SameOutput other) (root : Path) :
    declaration.outputFile root = other.outputFile root := by
  unfold Declaration.outputFile directory segments
  rw [same.1, same.2]

theorem components_outputFile (contained : declaration.isContained = true) (root : Path) :
    (declaration.outputFile root).components =
      root.components ++ (declaration.segments ++ [declaration.fileName]).map .name := by
  rw [outputFile_components contained, List.map_append, List.append_assoc]
  rfl

/-- The components of an output's path tell the names under which it is declared. -/
theorem components_outputFile_iff (contained : declaration.isContained = true)
    (otherContained : other.isContained = true) (root : Path) :
    (declaration.outputFile root).components = (other.outputFile root).components ↔
      declaration.SameOutput other := by
  refine ⟨fun same => ?_, fun same => by rw [same.outputFile]⟩
  rw [components_outputFile contained, components_outputFile otherContained] at same
  have injective : Function.Injective Path.Component.name := fun _ _ => Path.Component.name.inj
  exact sameOutput_of_names (injective.list_map (List.append_cancel_left same))

theorem place_outputFile_iff (contained : declaration.isContained = true)
    (otherContained : other.isContained = true) (files : FileSystem .linkFree) (root : Path) :
    files.place (declaration.outputFile root) = files.place (other.outputFile root) ↔
      declaration.SameOutput other :=
  ⟨sameOutput_of_place contained otherContained, fun same => by rw [same.outputFile]⟩

end Declaration

namespace Task

variable {task : Task}

/-- There is one output file for each name that is declared. -/
theorem length_outputFiles (contained : ∀ declaration ∈ task.declarations, declaration.isContained = true)
    (root : Path) : (task.outputFiles root).length = task.outputKeys.eraseDups.length := by
  have paths : ((task.outputFiles root).map Path.components).Perm
      (task.declarations.map fun declaration => (declaration.outputFile root).components).eraseDups := by
    refine (List.perm_ext_iff_of_nodup (Path.nodup_components_listing _) (nodup_eraseDups _)).mpr ?_
    intro key
    rw [List.mem_eraseDups, Path.mem_components_listing, List.map_map]
    rfl
  rw [← List.length_map Path.components, paths.length_eq]
  refine length_eraseDups_map_congr fun declaration member other alsoMember => ?_
  rw [← Declaration.sameOutput_iff]
  exact Declaration.components_outputFile_iff (contained declaration member)
    (contained other alsoMember) root

/-- Whatever tells outputs apart as their names do has no repetitions if and only if none are told. -/
theorem nodup_outputs_iff {α : Type} {output : Declaration → α}
    (apart : ∀ declaration ∈ task.declarations, ∀ other ∈ task.declarations,
      output declaration = output other ↔ declaration.SameOutput other) :
    (task.declarations.map output).Nodup ↔ task.duplicateOutputs = [] := by
  rw [duplicateOutputs_eq_nil_iff_pairwise, List.Nodup, List.pairwise_map]
  exact List.Pairwise.iff_of_mem fun {declaration other} member alsoMember =>
    not_congr (apart declaration member other alsoMember)

end Task

namespace Expansion.Expander

variable {τ : Type}

/-- Each path that a pass which went through has written is that of a file, the one of the directive
in its place. -/
theorem written_places {expander : Expander τ} {files : FileSystem .linkFree} {task : Task} {report : Report}
    (succeeded : (expander.expand files task).result = .ok report) :
    report.written.map (expander.expand files task).files.resolve =
        task.declarations.map (fun declaration => .ok <|
          (expander.expand files task).files.place (declaration.outputFile expander.config.outputRoot)) ∧
      ∀ path ∈ report.written, (expander.expand files task).files.isFile path = true := by
  obtain ⟨ready, roots, reach, rfl⟩ := reach_of_ok succeeded
  have held : ∀ declaration ∈ task.declarations, (expander.expand files task).files.isFile
      (declaration.outputFile expander.config.outputRoot) = true :=
    reach.isFile_output (Pass.createRoots_ok roots).2
  have marked := (Report.pending task expander.config.outputRoot).marked_markWritten task.directiveCount
  rw [marked.pending_complete.2, List.map_map]
  refine ⟨List.map_congr_left fun declaration member => ?_, fun path member => ?_⟩
  · obtain ⟨location, _, found, _⟩ := FileSystem.isFile_iff.mp (held declaration member)
    rw [Function.comp_apply, ← FileSystem.resolve_eq_place found]
    exact found
  · obtain ⟨declaration, inTask, rfl⟩ := List.mem_map.mp member
    exact held declaration inTask

/-- Duplicate outputs are exactly files that are written several times. Two directives have one output
path if and only if they are declared under the same names, so that there are as many output files as
directives, but for the repetitions that are told; and none is told if and only if a pass that goes
through writes all its files under different paths, which are different places where no links lead
from one to another. -/
theorem duplicateOutputs_exact (task : Task) (root : Path)
    (contained : ∀ declaration ∈ task.declarations, declaration.isContained = true) :
    (∀ declaration ∈ task.declarations, ∀ other ∈ task.declarations,
      (declaration.outputFile root).components = (other.outputFile root).components ↔
        declaration.namespaceName = other.namespaceName ∧
          declaration.directive.outputName = other.directive.outputName) ∧
    (task.outputFiles root).length +
      (task.duplicateOutputs.map fun output => output.occurrences - 1).sum = task.directiveCount ∧
    (∀ {links : Linkage} (expander : Expander τ) (files : FileSystem links) (report : Report),
      expander.config.outputRoot = root → (expander.expand files task).result = .ok report →
      (task.duplicateOutputs = [] ↔ (report.written.map Path.components).Nodup)) ∧
    ∀ (expander : Expander τ) (files : FileSystem .linkFree) (report : Report),
      expander.config.outputRoot = root → (expander.expand files task).result = .ok report →
      ∃ places : List Location,
        report.written.map (expander.expand files task).files.resolve = places.map .ok ∧
        (∀ path ∈ report.written, (expander.expand files task).files.isFile path = true) ∧
        (task.duplicateOutputs = [] ↔ places.Nodup) := by
  have tells (declaration) (member : declaration ∈ task.declarations) (other)
      (alsoMember : other ∈ task.declarations) :
      (declaration.outputFile root).components = (other.outputFile root).components ↔
        declaration.SameOutput other :=
    Declaration.components_outputFile_iff (contained declaration member) (contained other alsoMember) root
  refine ⟨tells, ?_, fun expander files report sameRoot succeeded => ?_,
    fun expander files report _ succeeded => ?_⟩
  · rw [Task.length_outputFiles contained, Task.length_eraseDups_add_sum]
  · obtain ⟨ready, _, _, rfl⟩ := reach_of_ok succeeded
    have marked :=
      (Report.pending task expander.config.outputRoot).marked_markWritten task.directiveCount
    rw [marked.pending_complete.2, sameRoot, List.map_map]
    exact (Task.nodup_outputs_iff tells).symm
  · obtain ⟨resolved, held⟩ := written_places succeeded
    refine ⟨task.declarations.map fun declaration => (expander.expand files task).files.place
      (declaration.outputFile expander.config.outputRoot), ?_, held, ?_⟩
    · rw [resolved, List.map_map]
      rfl
    · refine (Task.nodup_outputs_iff fun declaration member other alsoMember => ?_).symm
      exact Declaration.place_outputFile_iff (contained declaration member)
        (contained other alsoMember) _ _

/-- A class that is declared twice in one namespace, under another class, is written twice. -/
theorem duplicateOutputs_exact_redeclared :
    let task : Task := ⟨[⟨"model", [⟨"A", .single .int, "Class"⟩]⟩,
      ⟨"model", [⟨"B", .single .int, "Class"⟩, ⟨"A", .single .long, "Class"⟩]⟩]⟩
    task.duplicateOutputs = [⟨"model", "A", 2⟩] ∧ (task.outputFiles ⟨"generated"⟩).length = 2 ∧
      ∃ (report : Report) (places : List Location),
        (sampleExpander.expand (sampleFiles .linkFree) task).result = .ok report ∧
        report.written.map (sampleExpander.expand (sampleFiles .linkFree) task).files.resolve =
          places.map .ok ∧
        ¬ places.Nodup := by
  intro task
  have contained : ∀ declaration ∈ task.declarations, declaration.isContained = true := by decide +kernel
  have succeeded : (sampleExpander.expand (sampleFiles .linkFree) task).result =
      .ok (sampleExpander.expand (sampleFiles .linkFree) task).report :=
    Pass.result_eq_ok.mpr ⟨by decide +kernel, rfl⟩
  have told : task.duplicateOutputs = [⟨"model", "A", 2⟩] := by decide +kernel
  obtain ⟨_, count, _, written⟩ := duplicateOutputs_exact task ⟨"generated"⟩ contained
  obtain ⟨places, resolved, _, distinct⟩ := written sampleExpander (sampleFiles .linkFree) _ rfl succeeded
  have directives : task.directiveCount = 3 := rfl
  rw [told, directives] at count
  rw [told] at distinct
  refine ⟨told, Nat.add_right_cancel count, _, places, succeeded, resolved, fun nodup => ?_⟩
  cases distinct.mpr nodup

end Expansion.Expander

end Stencil
