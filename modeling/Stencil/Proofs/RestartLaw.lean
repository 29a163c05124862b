import Stencil.Proofs.FailureAtomicity
import Stencil.Proofs.RestoredTrees
import Stencil.Proofs.TemplateFiles

namespace Stencil.Expansion

variable {τ : Type} {config : Config} {task : Task} {declaration : Declaration} {text : String}
  {small big after : FileSystem .linkFree}

/-- Of two trees, in both of which the same directives have been expanded, the first one lacks at most
directories that are needed for outputs, and has other contents at most in outputs that are still to
be written. -/
structure CaughtUp (config : Config) (task : Task) (start : FileSystem .linkFree) (done : List Declaration)
    (small big : FileSystem .linkFree) : Prop where
  growth : Growth small big (task.Needs start config.outputRoot)
    (fun location => task.Writes start config.outputRoot location ∧
      ∀ declaration ∈ done, location ≠ start.place (declaration.outputFile config.outputRoot))
  directories : ∀ declaration ∈ done, ∀ location,
    OnWay (start.place config.outputRoot) declaration location →
    small.item? location = some .directory

namespace CaughtUp

/-- Where no directive has been expanded. -/
theorem start (growth : Growth small big (task.Needs small config.outputRoot)
    (task.Writes small config.outputRoot)) : CaughtUp config task small [] small big :=
  ⟨growth.mono (fun _ needed => needed) fun _ writes => ⟨writes, fun _ member => nomatch member⟩,
    fun _ member => nomatch member⟩

variable {expander current : Expander τ} {start : FileSystem .linkFree} {done : List Declaration}

/-- When all directives are done, nothing is left in which the trees could differ. -/
theorem complete (caught : CaughtUp config task start task.declarations small big)
    (location : Location) : small.item? location = big.item? location := by
  rcases caught.growth.item location with same | ⟨free, _, needed⟩ | ⟨_, _, writes, elsewhere⟩
  · exact same.symm
  · obtain ⟨declaration, member, _, onWay⟩ := needed
    rw [caught.directories declaration member location onWay] at free
    cases free
  · obtain ⟨declaration, member, _, here⟩ := writes
    exact absurd here (elsewhere declaration member)

/-- Neither what the trees differ in, nor what has been written so far, is below the template
root. -/
theorem load (caught : CaughtUp expander.config task start done small big)
    (ready : expander.config.Ready start) (smallReach : Reach expander.clear start done current small)
    {name : String} (relative : Path.isAbsolute ⟨name⟩ = false) :
    current.load big name = current.load small name := by
  have growth := smallReach.growth
  have leads := growth.leads ready.templates
  refine Expander.load_congr ?_
  rw [smallReach.alike.config]
  refine caught.growth.loadSource leads relative fun location below => ?_
  rw [growth.place] at below
  exact ⟨fun needed => ready.apart.below below needed.below.1,
    fun writes => ready.apart.below below writes.1.below.1⟩

/-- A template can be anywhere, but it is never an output. -/
theorem isFile (caught : CaughtUp expander.config task start done small big)
    (ready : expander.config.Ready start) (smallReach : Reach expander.clear start done current small)
    (contained : declaration.isContained = true)
    (stays : ".." ∉ Path.pieces ⟨declaration.templateKey⟩) :
    big.isFile (declaration.templateFile current.config.templateRoot) =
      small.isFile (declaration.templateFile current.config.templateRoot) := by
  have growth := smallReach.growth
  have leads := growth.leads ready.templates
  rw [smallReach.alike.config]
  refine caught.growth.isFile_templateFile contained stays leads ?_
  rintro location ⟨⟨other, _, otherContained, here⟩, _⟩
  rw [← growth.place] at here
  exact ⟨other, _, otherContained, here⟩

theorem render_small (caught : CaughtUp expander.config task start done small big)
    (ready : expander.config.Ready start) (smallReach : Reach expander.clear start done current small)
    (contained : declaration.isContained = true)
    (relative : ∀ name ∈ current.directiveRequests big declaration, Path.isAbsolute ⟨name⟩ = false)
    {later : Expander τ} (rendered : current.render big declaration = (.ok text, later)) :
    current.render small declaration = (.ok text, later) := by
  have stays := smallReach.rooted.stays rendered
  have present := caught.isFile ready smallReach contained stays
  rw [← rendered]
  exact Expander.render_congr contained present.symm fun name asked =>
    (caught.load ready smallReach (relative name asked)).symm

theorem render_big (caught : CaughtUp expander.config task start done small big)
    (ready : expander.config.Ready start) (smallReach : Reach expander.clear start done current small)
    (contained : declaration.isContained = true)
    (relative : ∀ name ∈ current.directiveRequests small declaration, Path.isAbsolute ⟨name⟩ = false)
    {later : Expander τ} (rendered : current.render small declaration = (.ok text, later)) :
    current.render big declaration = (.ok text, later) ∧
      current.directiveRequests big declaration = current.directiveRequests small declaration := by
  have stays := smallReach.rooted.stays rendered
  have present := caught.isFile ready smallReach contained stays
  have loads : ∀ name ∈ current.directiveRequests small declaration,
      current.load big name = current.load small name :=
    fun name asked => caught.load ready smallReach (relative name asked)
  rw [← rendered]
  exact ⟨Expander.render_congr contained present loads, Expander.directiveRequests_congr present loads⟩

/-- What succeeds in the second tree succeeds in the first one. -/
theorem next (caught : CaughtUp expander.config task start done small big)
    (ready : expander.config.Ready start)
    (smallReach : Reach expander.clear start done current small)
    (relative : ∀ name ∈ current.directiveRequests big declaration, Path.isAbsolute ⟨name⟩ = false)
    {path : Path} {later : Expander τ}
    (step : current.expandDirective big declaration = (.ok path, later, after)) :
    ∃ less, current.expandDirective small declaration = (.ok path, later, less) ∧
      CaughtUp expander.config task start (done ++ [declaration]) less after := by
  obtain ⟨contained, text, rendered, stored⟩ := Expander.expandDirective_ok step
  have config : current.config = expander.config := smallReach.alike.config
  have growth := smallReach.growth
  have leads := growth.leads ready.output
  rw [config] at stored
  have notNeeded : ¬ task.Needs start expander.config.outputRoot
      (small.place expander.config.outputRoot) := by
    intro needed
    rw [growth.place] at needed
    exact needed.below.2 rfl
  obtain ⟨less, smallStored, growthLess, directories⟩ :=
    store_restored contained caught.growth notNeeded leads stored
  have same := Expander.expandDirective_of_ok contained
    (caught.render_small ready smallReach contained relative rendered) (config ▸ smallStored)
  rw [Expander.expandDirective_of_ok contained rendered (config ▸ stored), Prod.mk.injEq] at step
  -- What is written now is the same in both trees, and what was written before stays so.
  refine ⟨less, step.1 ▸ same, ⟨growthLess.mono (fun _ needed => needed) ?_, ?_⟩⟩
  · rintro location ⟨⟨writes, before⟩, elsewhere⟩
    refine ⟨writes, fun other member => ?_⟩
    rcases List.mem_append.mp member with earlier | new
    · exact before other earlier
    · rwa [List.mem_singleton.mp new, ← growth.place]
  · intro other member location onWay
    rcases List.mem_append.mp member with earlier | new
    · have kept := store_onWay contained text leads
      rw [smallStored] at kept
      exact kept.directory (caught.directories other earlier location onWay)
    · rw [List.mem_singleton.mp new, ← growth.place] at onWay
      exact directories location onWay

/-- What succeeds in the first tree succeeds in the second one, if its output is there. -/
theorem next_again (caught : CaughtUp expander.config task start done small big)
    (ready : expander.config.Ready start)
    (smallReach : Reach expander.clear start done current small)
    (relative : ∀ name ∈ current.directiveRequests small declaration, Path.isAbsolute ⟨name⟩ = false)
    (held : big.isFile (declaration.outputFile expander.config.outputRoot) = true)
    {path : Path} {later : Expander τ}
    (step : current.expandDirective small declaration = (.ok path, later, after)) :
    ∃ more, current.expandDirective big declaration = (.ok path, later, more) ∧
      CaughtUp expander.config task start (done ++ [declaration]) after more := by
  obtain ⟨contained, text, rendered, stored⟩ := Expander.expandDirective_ok step
  have config : current.config = expander.config := smallReach.alike.config
  obtain ⟨bigRendered, sameRequests⟩ :=
    caught.render_big ready smallReach contained relative rendered
  obtain ⟨more, bigStored, _⟩ := store_again contained held text
  have bigStep := Expander.expandDirective_of_ok contained bigRendered (config ▸ bigStored)
  obtain ⟨less, smallStep, nextCaught⟩ :=
    caught.next ready smallReach (fun name asked => relative name (sameRequests ▸ asked)) bigStep
  rw [step, Prod.mk.injEq, Prod.mk.injEq] at smallStep
  obtain ⟨samePath, _, rfl⟩ := smallStep
  exact ⟨more, samePath ▸ bigStep, nextCaught⟩

end CaughtUp

variable {expander current : Expander τ} {files start fresh ready freshReady tree : FileSystem .linkFree}
  {done : List Declaration}

/-- Every directive that has been expanded has its output in place. -/
theorem Reach.isFile_output (reach : Reach expander files done current tree)
    (leads : files.follow (files.start expander.config.outputRoot) expander.config.outputRoot.stem =
      .ok (files.place expander.config.outputRoot)) :
    ∀ declaration ∈ done, tree.isFile (declaration.outputFile expander.config.outputRoot) = true := by
  induction reach with
  | start => exact fun _ member => nomatch member
  | @next done current tree declaration path after written previous step ih =>
    have leadsNow := previous.growth.leads leads
    obtain ⟨contained, text, _, stored⟩ := Expander.expandDirective_ok step
    rw [previous.alike.config] at stored
    obtain ⟨grown, found, held⟩ := store_ok contained leadsNow stored
    intro other member
    rcases List.mem_append.mp member with earlier | new
    · exact grown.isFile (ih other earlier)
    · rw [List.mem_singleton.mp new]
      exact FileSystem.isFile_iff.mpr ⟨_, _, found, held⟩

/-- Directives that succeed in the second one of two trees succeed in the first one, and leave no
difference. -/
theorem Reach.restored (reach : Reach expander.clear ready task.declarations current tree)
    (isReady : expander.config.Ready freshReady)
    (growth : Growth freshReady ready (task.Needs freshReady expander.config.outputRoot)
      (task.Writes freshReady expander.config.outputRoot))
    (relative : ∀ name ∈ expander.clear.requestsFrom ready task.declarations,
      Path.isAbsolute ⟨name⟩ = false) :
    ∃ less, Reach expander.clear freshReady task.declarations current less ∧
      ∀ location, less.item? location = tree.item? location := by
  obtain ⟨less, freshReach, caught⟩ := reach.alongside
    (fun done big small => CaughtUp expander.config task freshReady done small big) (.start growth) <| by
      intro done declaration current big small path after written within bigReach smallReach caught step
      refine caught.next isReady smallReach (fun name asked => ?_) step
      exact relative name (bigReach.directiveRequests_mem within asked)
  exact ⟨less, freshReach, caught.complete⟩

/-- Directives that have succeeded succeed again in the tree that they have left, and leave it as
it is. -/
theorem Reach.again (reach : Reach expander.clear ready task.declarations current tree)
    (isReady : expander.config.Ready ready)
    (relative : ∀ name ∈ expander.clear.requestsFrom ready task.declarations,
      Path.isAbsolute ⟨name⟩ = false) :
    ∃ more, Reach expander.clear tree task.declarations current more ∧
      ∀ location, more.item? location = tree.item? location := by
  have growth : Growth ready tree (task.Needs ready expander.config.outputRoot)
      (task.Writes ready expander.config.outputRoot) := reach.growth_below isReady.output
  -- All outputs are there from the start, which is why each of them can be stored again.
  have held : ∀ declaration ∈ task.declarations,
      tree.isFile (declaration.outputFile expander.config.outputRoot) = true :=
    reach.isFile_output isReady.output
  obtain ⟨more, again, caught, _⟩ := reach.alongside
    (fun done small big => CaughtUp expander.config task ready done small big ∧
      ∀ declaration ∈ task.declarations,
        big.isFile (declaration.outputFile expander.config.outputRoot) = true)
    ⟨.start growth, held⟩ <| by
      rintro done declaration current small big path after written within smallReach bigReach
        ⟨caught, there⟩ step
      have member : declaration ∈ task.declarations := within.subset (by simp)
      obtain ⟨later, bigStep, nextCaught⟩ := caught.next_again isReady smallReach
        (fun name asked => relative name (smallReach.directiveRequests_mem within asked))
        (there declaration member) step
      have grown := current.expandDirective_growth big declaration
      rw [bigStep] at grown
      exact ⟨later, bigStep, nextCaught, fun other known => grown.isFile (there other known)⟩
  exact ⟨more, again, fun location => (caught.complete location).symm⟩

namespace Expander

theorem result_of_reach (roots : Pass.createRoots files expander.config = (.ok (), ready))
    (reach : Reach expander.clear ready task.declarations current tree) :
    (expander.expand files task).result =
      .ok ((Report.pending task expander.config.outputRoot).markWritten task.directiveCount) := by
  obtain ⟨log, run⟩ := expandInto_of_reach roots reach (.pending task expander.config.outputRoot)
  exact Pass.result_eq_ok.mpr ⟨by rw [expand, run], by rw [expand, run]⟩

/-- Passes can be repeated and taken up again. Whatever earlier passes of a task have left, and
whatever was edited at the template root and below it between them: if one more pass succeeds, then a
single one with the same templates succeeds from the first outputs, with the same report, and leaves
the same files and directories. So does another one from what the pass has left. -/
theorem expand_restart (expander : Expander τ) {start files : FileSystem .linkFree} {task : Task}
    {report : Report} (earlier : Earlier expander task start files)
    (apart : expander.config.Apart start)
    (relative : ∀ name ∈ expander.requested files task, Path.isAbsolute ⟨name⟩ = false)
    (succeeded : (expander.expand files task).result = .ok report) :
    (∀ fresh, Restored expander.config start files fresh →
      (expander.expand fresh task).result = .ok report ∧
      ∀ location, (expander.expand fresh task).files.item? location =
        (expander.expand files task).files.item? location) ∧
    (expander.expand (expander.expand files task).files task).result = .ok report ∧
    ∀ location, (expander.expand (expander.expand files task).files task).files.item? location =
      (expander.expand files task).files.item? location := by
  obtain ⟨ready, roots, reach, rfl⟩ := reach_of_ok succeeded
  rw [requested_of_ready roots] at relative
  refine ⟨fun fresh restored => ?_, ?_⟩
  · have growth := restored.growth earlier.growth
    rw [← Config.makes_congr restored.workingDirectory, ← writes_congr restored.workingDirectory,
      ← FileSystem.place_congr restored.workingDirectory] at growth
    have freshApart := apart.of_workingDirectory restored.workingDirectory
    obtain ⟨freshReady, freshRoots, readyGrowth⟩ := createRoots_restored freshApart growth roots
    obtain ⟨less, freshReach, same⟩ :=
      reach.restored (freshApart.ready freshRoots) readyGrowth relative
    have left := (expand_of_reach freshRoots freshReach).2.2
    exact ⟨result_of_reach freshRoots freshReach, fun location => by rw [left, same]⟩
  · have isReady := (apart.of_workingDirectory earlier.growth.workingDirectory).ready roots
    obtain ⟨more, again, same⟩ := reach.again isReady relative
    have rootsAgain := createRoots_again roots reach.growth
    have left := (expand_of_reach rootsAgain again).2.2
    exact ⟨result_of_reach rootsAgain again, fun location => by rw [left, same]⟩

/-- Two templates, of which one includes the other, and a link by which its output leads to that other
one. -/
def rewrittenFiles : FileSystem where
  root := .directory [("generated", .directory [("model", .directory
      [("A.java", .link rfl ⟨"../../templates/model/Record.java.ftl"⟩)])]),
    ("templates", .directory [("model", .directory
      [("Class.java.ftl", .file (.text "new \x7b% include 'model/Record.java.ftl' %\x7d")),
        ("Record.java.ftl", .file (.text "old"))])])]

/-- Where an output is a link to a template, the next pass finds another template, although the roots
are apart. -/
theorem expand_restart_rewritten :
    let task : Task := ⟨[⟨"model", [⟨"B", .single .int, "Record"⟩, ⟨"A", .single .int, "Class"⟩]⟩]⟩
    let pass := sampleExpander.expand rewrittenFiles task
    let again := sampleExpander.expand pass.files task
    rewrittenFiles.resolve sampleExpander.config.templateRoot = .ok ["templates"] ∧
      rewrittenFiles.resolve sampleExpander.config.outputRoot = .ok ["generated"] ∧
      (∀ name ∈ sampleExpander.requested rewrittenFiles task ++
        sampleExpander.requested pass.files task, Path.isAbsolute ⟨name⟩ = false) ∧
      pass.failure = none ∧ again.failure = none ∧
      pass.files.readText ⟨"generated/model/B.java"⟩ = .ok "old" ∧
      again.files.readText ⟨"generated/model/B.java"⟩ = .ok "new old" := by
  decide +kernel

/-- The sample with a second template. -/
def recordFiles (template : String) : FileSystem .linkFree :=
  (sampleFiles .linkFree).put ["templates", "model", "Record.java.ftl"] (.file (.text template))

/-- A pass fails at its second directive, whose template has an open tag, and goes through once the
template is repaired. -/
theorem expand_restart_repaired :
    let task : Task := ⟨[⟨"model", [⟨"A", .single .int, "Class"⟩, ⟨"B", .single .int, "Record"⟩]⟩]⟩
    let start := recordFiles "\x7b\x7b"
    let files := (sampleExpander.expand start task).files.put
      ["templates", "model", "Record.java.ftl"] (.file (.text "record"))
    (sampleExpander.expand start task).failure.isSome = true ∧
      ∃ templates, files.get? ["templates"] = some templates ∧
        (sampleExpander.expand files task).failure = none ∧
        (sampleExpander.expand (start.put ["templates"] templates) task).result =
          (sampleExpander.expand files task).result ∧
        ∀ location,
          (sampleExpander.expand (start.put ["templates"] templates) task).files.item? location =
            (sampleExpander.expand files task).files.item? location := by
  intro task start files
  have failed : Earlier sampleExpander task start (sampleExpander.expand start task).files :=
    .passed .start ⟨rfl, rfl⟩
  have growth : Growth start (sampleExpander.expand start task).files _ _ :=
    sampleExpander.expandInto_makes start task _
  have opens : (sampleExpander.expand start task).files.item? ["templates", "model"] =
      some .directory := growth.directory rfl
  have place : start.place sampleExpander.config.templateRoot = ["templates"] := by decide +kernel
  have below : (sampleExpander.expand start task).files.place sampleExpander.config.templateRoot <+:
      ["templates", "model"] ++ ["Record.java.ftl"] := by
    rw [growth.place, place]
    decide
  have edited := failed.put "Record.java.ftl" (.file (.text "record")) opens below
  have beside : ¬ ["templates", "model"] ++ ["Record.java.ftl"] <+: ["templates"] := by decide
  have kept := FileSystem.item?_put_beside (.file (.text "record")) opens beside
  rw [List.cons_append, List.cons_append, List.nil_append] at edited kept
  have there : files.item? ["templates"] = some .directory := kept.trans (growth.directory rfl)
  obtain ⟨children, held⟩ := FileSystem.item?_eq_directory.mp there
  have top : start.item? [] = some .directory := rfl
  have restored : Restored sampleExpander.config start files
      (start.put ["templates"] (.directory children)) :=
    .of_put place top held
  have went : (sampleExpander.expand files task).failure = none := by decide +kernel
  have succeeded : (sampleExpander.expand files task).result =
      .ok (sampleExpander.expand files task).report := Pass.result_eq_ok.mpr ⟨went, rfl⟩
  obtain ⟨fromStart, _⟩ := expand_restart sampleExpander edited (by decide +kernel)
    (by decide +kernel) succeeded
  obtain ⟨result, same⟩ := fromStart _ restored
  exact ⟨by decide +kernel, _, held, went, result.trans succeeded.symm, same⟩

end Expander

end Stencil.Expansion
