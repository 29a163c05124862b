import Stencil.Proofs.OutputTallies
import Stencil.Proofs.PassOutcome
import Stencil.Proofs.RestartLaw

namespace Stencil.Expansion

variable {τ : Type}

namespace Settled

variable {expander current after : Expander τ} {ready tree written : FileSystem .linkFree}
  {done : List Declaration} {declaration : Declaration}

/-- What is settled stays so in a tree in which the same stands, whatever has been loaded since. -/
theorem of_same (settled : Settled expander ready done current tree) (alike : expander.Alike after)
    (holds : after.Holds (expander.load ready))
    (kept : written.workingDirectory = tree.workingDirectory)
    (same : ∀ location, written.item? location = tree.item? location) :
    Settled expander ready done after written where
  alike := alike
  holds := holds
  growth := settled.growth.trans (.of_same kept same)
  expanded other member := (settled.expanded other member).later
    (Growth.of_same kept same : Growth tree written (fun _ => False) fun _ => False)
  last earlier other later split notAgain := by
    obtain ⟨text, evaluated, held⟩ := settled.last earlier other later split notAgain
    exact ⟨text, evaluated, (same _).trans held⟩

/-- The names that a settled directive asks for are known, and relative. -/
theorem relative_again (settled : Settled expander ready done current tree)
    (roots : expander.config.Ready ready) (member : declaration ∈ done) :
    ∀ name ∈ current.directiveRequests tree declaration, Path.isAbsolute ⟨name⟩ = false := by
  have expanded := settled.expanded declaration member
  have requested := Expander.requests_eq_asked settled.holds fun name asked =>
    settled.load roots (expanded.relative name asked)
  unfold Expander.directiveRequests
  rw [settled.alike.config, settled.alike.rendering, if_pos ⟨expanded.contained, expanded.present⟩,
    requested]
  exact expanded.relative

/-- A settled directive succeeds again and changes nothing, if no other one is declared under its
names: the text that is stored is there already. -/
theorem again (settled : Settled expander ready done current tree)
    (roots : expander.config.Ready ready)
    (distinct : done.Pairwise fun declaration other => ¬ declaration.SameOutput other)
    (member : declaration ∈ done) :
    ∃ path after written,
      current.expandDirective tree declaration = (.ok path, after, written) ∧
      Settled expander ready done after written ∧
      ∀ location, written.item? location = tree.item? location := by
  have expanded := settled.expanded declaration member
  obtain ⟨earlier, later, split⟩ := List.append_of_mem member
  rw [split, List.pairwise_append, List.pairwise_cons] at distinct
  obtain ⟨text, evaluated, held⟩ := settled.last earlier declaration later split distinct.2.1.1
  have rendered : current.render tree declaration =
      (.ok text, (current.render tree declaration).2) :=
    Prod.ext ((settled.render_again roots member).trans evaluated) rfl
  have holds := (settled.render_ok roots (settled.relative_again roots member) expanded.contained
    rendered).2.2.1
  have isFile := FileSystem.isFile_iff.mpr ⟨_, _, expanded.found, held⟩
  obtain ⟨written, ended, stored⟩ := store_again expanded.contained isFile text
  have same (location : Location) : written.item? location = tree.item? location := by
    rw [stored.item, settled.growth.place]
    split
    · next here => rw [here, held]
    · rfl
  have step := Expander.expandDirective_of_ok expanded.contained rendered
    (settled.alike.config ▸ ended)
  have alike := settled.alike.trans (current.render_alike tree declaration)
  exact ⟨_, _, written, step, settled.of_same alike holds stored.workingDirectory same, same⟩

/-- Settled directives succeed again in any order and any number. -/
theorem again_all (settled : Settled expander ready done current tree)
    (roots : expander.config.Ready ready)
    (distinct : done.Pairwise fun declaration other => ¬ declaration.SameOutput other)
    {others : List Declaration} (within : ∀ declaration ∈ others, declaration ∈ done) :
    ∃ after written, Reach current tree others after written ∧
      (∀ location, written.item? location = tree.item? location) ∧
      ∀ name ∈ current.requestsFrom tree others, Path.isAbsolute ⟨name⟩ = false := by
  induction others generalizing current tree with
  | nil => exact ⟨current, tree, .start, fun _ => rfl, fun _ asked => nomatch asked⟩
  | cons declaration rest ih =>
    have member := within declaration List.mem_cons_self
    obtain ⟨path, after, written, step, still, same⟩ := settled.again roots distinct member
    obtain ⟨last, final, reach, sameAfter, relative⟩ :=
      ih still fun other inRest => within other (List.mem_cons_of_mem _ inRest)
    have first : Reach current tree [declaration] after written := .next .start step
    refine ⟨last, final, first.append reach, fun location => (sameAfter location).trans (same location),
      fun name asked => ?_⟩
    rw [Expander.requestsFrom, step] at asked
    rcases List.mem_append.mp asked with now | later
    · exact settled.relative_again roots member name now
    · exact relative name later

end Settled

namespace Expander

/-- The order of directives does not matter if no two of them are declared under the same names. If a
pass over them goes through, it does so in any other order and over any other namespaces with the
same directives, and leaves the same files and directories; each directive has the same entry in both
reports. -/
theorem expand_reordered (expander : Expander τ) {files : FileSystem .linkFree} {task other : Task}
    {report : Report} (apart : expander.config.Apart files)
    (relative : ∀ name ∈ expander.requested files task, Path.isAbsolute ⟨name⟩ = false)
    (reordered : task.declarations.Perm other.declarations) (single : task.duplicateOutputs = [])
    (succeeded : (expander.expand files task).result = .ok report) :
    ∃ otherReport, (expander.expand files other).result = .ok otherReport ∧
      (task.declarations.zip report.entries).Perm (other.declarations.zip otherReport.entries) ∧
      report.entries.Perm otherReport.entries ∧
      ∀ location, (expander.expand files other).files.item? location =
        (expander.expand files task).files.item? location := by
  obtain ⟨ready, roots, reach, rfl⟩ := reach_of_ok succeeded
  rw [requested_of_ready roots] at relative
  have isReady := apart.ready roots
  have distinct := Task.duplicateOutputs_eq_nil_iff_pairwise.mp single
  -- The other pass first runs where this one has ended, and nothing changes there.
  have settled : Settled expander.clear ready task.declarations expander.clear
      (expander.expand files task).files :=
    (reach.settled isReady relative).of_same ⟨rfl, rfl⟩ (expander.holds_clear _) rfl fun _ => rfl
  obtain ⟨current, tree, again, same, relativeAgain⟩ := settled.again_all isReady distinct
    fun declaration member => reordered.mem_iff.mpr member
  have growth : Growth ready (expander.expand files task).files
      (other.Needs ready expander.config.outputRoot) (other.Writes ready expander.config.outputRoot) := by
    refine (reach.growth_below isReady.output).mono ?_ ?_
    · rintro location ⟨declaration, member, needed⟩
      exact ⟨declaration, reordered.mem_iff.mp member, needed⟩
    · rintro location ⟨declaration, member, written⟩
      exact ⟨declaration, reordered.mem_iff.mp member, written⟩
  obtain ⟨less, otherReach, sameLess⟩ := again.restored isReady growth relativeAgain
  refine ⟨_, result_of_reach roots otherReach, ?_, ?_, fun location => ?_⟩
  · rw [Report.entries_written, Report.entries_written, ← List.map_prod_left_eq_zip,
      ← List.map_prod_left_eq_zip]
    exact reordered.map _
  · rw [Report.entries_written, Report.entries_written]
    exact reordered.map _
  · rw [(expand_of_reach roots otherReach).2.2, sameLess, same]

/-- A link from one output directory to another makes the order count, although no output is declared
twice: the file that both directives come to has the text of the last one. -/
theorem expand_reordered_crossed :
    let task : Task := ⟨[⟨"a", [⟨"A", .single .int, "Class"⟩]⟩, ⟨"b", [⟨"A", .single .int, "Class"⟩]⟩]⟩
    let other : Task := ⟨[⟨"b", [⟨"A", .single .int, "Class"⟩]⟩, ⟨"a", [⟨"A", .single .int, "Class"⟩]⟩]⟩
    let pass := sampleExpander.expand crossedFiles task
    let otherPass := sampleExpander.expand crossedFiles other
    crossedFiles.resolve sampleExpander.config.templateRoot = .ok ["templates"] ∧
      crossedFiles.resolve sampleExpander.config.outputRoot = .ok ["generated"] ∧
      (∀ name ∈ sampleExpander.requested crossedFiles task, Path.isAbsolute ⟨name⟩ = false) ∧
      task.declarations.Perm other.declarations ∧ task.duplicateOutputs = [] ∧
      pass.failure = none ∧ otherPass.failure = none ∧
      pass.files.readText ⟨"generated/a/A.java"⟩ = .ok "two" ∧
      otherPass.files.readText ⟨"generated/a/A.java"⟩ = .ok "one" := by
  decide +kernel

/-- Two classes of one namespace, and the same two in the other order and in a namespace each. -/
theorem expand_reordered_classes :
    let task : Task := ⟨[⟨"model", [⟨"A", .single .int, "Class"⟩, ⟨"B", .single .long, "Class"⟩]⟩]⟩
    let other : Task := ⟨[⟨"model", [⟨"B", .single .long, "Class"⟩]⟩,
      ⟨"model", [⟨"A", .single .int, "Class"⟩]⟩]⟩
    ∃ report otherReport : Report, (sampleExpander.expand (sampleFiles .linkFree) task).result = .ok report ∧
      (sampleExpander.expand (sampleFiles .linkFree) other).result = .ok otherReport ∧
      report.entries.Perm otherReport.entries ∧
      ∀ location, (sampleExpander.expand (sampleFiles .linkFree) other).files.item? location =
        (sampleExpander.expand (sampleFiles .linkFree) task).files.item? location := by
  intro task other
  have succeeded : (sampleExpander.expand (sampleFiles .linkFree) task).result =
      .ok (sampleExpander.expand (sampleFiles .linkFree) task).report :=
    Pass.result_eq_ok.mpr ⟨by decide +kernel, rfl⟩
  obtain ⟨otherReport, went, _, entries, same⟩ := expand_reordered sampleExpander
    (by decide +kernel) (by decide +kernel) (by decide +kernel : task.declarations.Perm other.declarations)
    (by decide +kernel) succeeded
  exact ⟨_, otherReport, succeeded, went, entries, same⟩

end Expander

end Stencil.Expansion
