import Stencil.Proofs.RestartLaw

namespace Stencil

/-- No template is changed where only outputs are written. -/
theorem Growth.keeps_template {before after : FileSystem .linkFree} {made written : Location → Prop}
    (growth : Growth before after made written)
    (outputs : ∀ location, written location → ∃ (other : Declaration) (outputRoot : Path),
      other.isContained = true ∧ location = before.place (other.outputFile outputRoot))
    {declaration : Declaration} {root : Path} {location : Location} {content : Content}
    (found : before.resolve (declaration.templateFile root) = .ok location)
    (held : before.get? location = some (.file content)) :
    after.resolve (declaration.templateFile root) = .ok location ∧
      after.get? location = some (.file content) := by
  refine ⟨growth.resolve found, (growth.get?_file (fun isWritten => ?_) content).mpr held⟩
  obtain ⟨other, outputRoot, contained, here⟩ := outputs location isWritten
  exact declaration.place_templateFile_ne contained before root outputRoot
    ((FileSystem.resolve_eq_place found).symm.trans here)

namespace Expansion

variable {τ : Type}

/-- The written entries of a fresh report are those of the directives that succeeded. -/
theorem Report.Marked.exists_written {task : Task} {root : Path} {after : Report} {succeeded : Nat}
    (marked : (pending task root).Marked after succeeded task.directiveCount) {entry : Entry}
    (member : entry ∈ after.entries) (written : entry.state = .written) :
    ∃ declaration ∈ task.declarations.take succeeded, entry.output = declaration.outputFile root := by
  obtain ⟨i, bound, rfl⟩ := List.getElem_of_mem member
  have inTask : i < task.declarations.length := by
    rwa [marked.length, length_pending, ← task.length_declarations] at bound
  have old : (pending task root).entries[i]? = some ⟨task.declarations[i].namespaceName,
      task.declarations[i].outputFile root, .pending⟩ := by
    simp [pending, inTask]
  have now := marked.entry i _ old
  rw [List.getElem?_eq_getElem bound, Option.some.injEq] at now
  rw [now] at written ⊢
  simp only [State.reached] at written
  split at written
  · next before =>
    exact ⟨_, List.mem_take_iff_getElem.mpr ⟨i, Nat.lt_min.mpr ⟨before, inTask⟩, rfl⟩, rfl⟩
  · split at written <;> cases written

theorem Reach.contained {expander current : Expander τ} {files tree : FileSystem .linkFree}
    {done : List Declaration} (reach : Reach expander files done current tree) :
    ∀ declaration ∈ done, declaration.isContained = true := by
  induction reach with
  | start => exact fun _ member => nomatch member
  | next _ step ih =>
    intro declaration member
    rcases List.mem_append.mp member with earlier | new
    · exact ih declaration earlier
    · rw [List.mem_singleton.mp new]
      exact (Expander.expandDirective_ok step).1

namespace Expander

/-- Also where a pass stops early, what its report calls written is there. -/
theorem exists_written_output (expander : Expander τ) (files : FileSystem .linkFree) (task : Task)
    {entry : Entry} (member : entry ∈ (expander.expand files task).report.entries)
    (written : entry.state = .written) :
    ∃ declaration ∈ task.declarations, declaration.isContained = true ∧
      entry.output = declaration.outputFile expander.config.outputRoot ∧
      (expander.expand files task).files.isFile entry.output = true := by
  have course := expander.expand_course files task
  generalize expander.expand files task = pass at course member ⊢
  cases course with
  | blocked roots =>
    obtain ⟨declaration, _, rfl⟩ := List.mem_map.mp member
    cases written
  | finished roots reach =>
    have marked := (Report.pending task expander.config.outputRoot).marked_markWritten
      task.directiveCount
    obtain ⟨declaration, within, output⟩ := marked.exists_written member written
    have inTask := List.mem_of_mem_take within
    have held := reach.isFile_output (Pass.createRoots_ok roots).2 declaration inTask
    exact ⟨declaration, inTask, reach.contained declaration inTask, output, output ▸ held⟩
  | @stopped ready done declaration rest current tree cause after left log roots split reach fails =>
    have count := task.length_declarations
    rw [split, List.length_append, List.length_cons] at count
    have marked := (Report.pending task expander.config.outputRoot).marked_mark_aborted
      (by omega : done.length < task.directiveCount)
    obtain ⟨other, within, output⟩ := marked.exists_written member written
    have inDone : other ∈ done := by
      rwa [split, List.take_left] at within
    have held := reach.isFile_output (Pass.createRoots_ok roots).2 other inDone
    have growth := current.expandDirective_growth tree declaration
    rw [fails] at growth
    exact ⟨other, List.mem_of_mem_take within, reach.contained other inDone, output,
      output ▸ growth.isFile held⟩

/-- A pass leaves every template as it is, wherever the roots are and whatever the names are. The
template may be that of any directive below any root. What is written is never a template, as the last
letters of their names differ. -/
theorem expand_keeps_templates (expander : Expander τ) (files : FileSystem .linkFree) (task : Task) :
    (∀ (declaration : Declaration) (root : Path) (location : Location) (content : Content),
      files.resolve (declaration.templateFile root) = .ok location →
      files.get? location = some (.file content) →
        (expander.expand files task).files.resolve (declaration.templateFile root) = .ok location ∧
        (expander.expand files task).files.get? location = some (.file content)) ∧
    ∀ entry ∈ (expander.expand files task).report.entries, entry.state = .written →
      ∃ location, (expander.expand files task).files.resolve entry.output = .ok location ∧
        ∀ (declaration : Declaration) (root : Path),
          (expander.expand files task).files.resolve (declaration.templateFile root) ≠
            .ok location := by
  have growth := (expander.expand_course files task).growth
  refine ⟨fun declaration root location content found held => ?_, fun entry member written => ?_⟩
  · refine growth.keeps_template ?_ found held
    rintro written ⟨other, _, contained, there⟩
    rw [FileSystem.resolve_eq_place there, growth.place]
    exact ⟨other, _, contained, rfl⟩
  · obtain ⟨other, _, contained, output, isFile⟩ :=
      expander.exists_written_output files task member written
    obtain ⟨location, _, found, _⟩ := FileSystem.isFile_iff.mp isFile
    refine ⟨location, found, fun declaration root template => ?_⟩
    rw [output] at found
    have same := (FileSystem.resolve_eq_place template).symm.trans (FileSystem.resolve_eq_place found)
    exact declaration.place_templateFile_ne contained _ root _ same

end Expander

end Expansion

end Stencil
