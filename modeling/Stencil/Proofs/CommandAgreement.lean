import Stencil.CommandLine.Commands
import Stencil.Proofs.CatalogNames
import Stencil.Proofs.DeclaredInputs
import Stencil.Proofs.IntactTemplates
import Stencil.Proofs.LoopedDirectories

namespace Stencil

namespace Expansion

variable {τ : Type} {expander current : Expander τ} {files tree : FileSystem .linkFree}
  {done : List Declaration}

theorem Expander.isFile_of_render {declaration : Declaration} {text : String} {after : Expander τ}
    (rendered : expander.render files declaration = (.ok text, after)) :
    files.isFile (declaration.templateFile expander.config.templateRoot) = true := by
  rw [render_eq] at rendered
  split at rendered
  · assumption
  · cases (Prod.mk.inj rendered).1

/-- The template of every directive that succeeds is there before the first of them is tried. -/
theorem Reach.isFile_input (reach : Reach expander.clear files done current tree)
    (templates : files.follow (files.start expander.config.templateRoot)
      expander.config.templateRoot.stem = .ok (files.place expander.config.templateRoot))
    (output : files.follow (files.start expander.config.outputRoot)
      expander.config.outputRoot.stem = .ok (files.place expander.config.outputRoot)) :
    ∀ declaration ∈ done,
      files.isFile (declaration.templateFile expander.config.templateRoot) = true := by
  induction reach with
  | start => exact fun _ member => nomatch member
  | @next done current tree declaration path after written previous step ih =>
    intro other member
    rcases List.mem_append.mp member with earlier | new
    · exact ih other earlier
    · rw [List.mem_singleton.mp new]
      obtain ⟨contained, text, rendered, _⟩ := Expander.expandDirective_ok step
      have stays := previous.rooted.stays rendered
      have config : current.config = expander.config := previous.alike.config
      have kept : tree.isFile (declaration.templateFile expander.config.templateRoot) =
          files.isFile (declaration.templateFile expander.config.templateRoot) :=
        previous.isFile_templateFile templates output contained stays
      rw [← kept, ← config]
      exact Expander.isFile_of_render rendered

/-- A listed input is what it was when the first directive was tried. -/
theorem Expander.read_input {ready : FileSystem .linkFree} {task : Task} {report : Report}
    (roots : Pass.createRoots files expander.config = (.ok (), ready))
    (succeeded : (expander.expand files task).result = .ok report) {path : Path}
    (listed : path ∈ task.inputFiles expander.config.templateRoot) :
    ∃ content, ready.read path = .ok content ∧
      (expander.expand files task).files.read path = .ok content := by
  obtain ⟨started, sameRoots, reach, _⟩ := reach_of_ok succeeded
  rw [roots, Prod.mk.injEq] at sameRoots
  obtain ⟨_, rfl⟩ := sameRoots
  obtain ⟨templates, output⟩ := Pass.createRoots_ok roots
  obtain ⟨declaration, member, rfl⟩ := List.mem_map.mp (Path.mem_of_mem_listing listed)
  have present := reach.isFile_input templates output declaration member
  obtain ⟨location, content, found, held⟩ := FileSystem.isFile_iff.mp present
  have growth : Growth ready (expander.expand files task).files _ _ := reach.growth_below output
  obtain ⟨remains, still⟩ := growth.keeps_template
    (fun _ ⟨other, _, contained, here⟩ => ⟨other, _, contained, here⟩) found
    (FileSystem.item?_eq_file.mp held)
  exact ⟨content, FileSystem.read_of_item found held,
    FileSystem.read_of_item remains (FileSystem.item?_eq_file.mpr still)⟩

end Expansion

namespace CommandLine

variable {τ : Type}

/-- The line that is told at the end changes nothing else. -/
theorem generate_eq {links : Linkage} (engine : Engine τ) (tree : FileSystem links) (roots : Roots) :
    (generate engine tree roots).result = (Expansion.expand engine ⟨roots.templates, roots.output, {}⟩
        tree roots.plan.task).result ∧
      (generate engine tree roots).files = (Expansion.expand engine
        ⟨roots.templates, roots.output, {}⟩ tree roots.plan.task).files := by
  unfold generate
  dsimp only
  split <;> exact ⟨rfl, rfl⟩

theorem unlines_append (lines others : List String) :
    unlines (lines ++ others) = unlines lines ++ unlines others := by
  simp [unlines, String.join_append]

/-- The two commands agree. What is listed as the outputs of a plan are the files that a pass over it
writes, each of them once, and what is listed as its inputs are files that the pass leaves as they
are; both lists are in the order of their bytes. -/
theorem files_agree_with_generate (engine : Engine τ) (roots : Roots) :
    let inputs := roots.plan.task.inputFiles roots.templates
    let outputs := roots.plan.task.outputFiles roots.output
    files roots true false = unlines (inputs.map Path.spelling) ∧
    files roots false true = unlines (outputs.map Path.spelling) ∧
    files roots false false = files roots true false ++ files roots false true ∧
    (inputs.map (Text.bytes ·.spelling)).Pairwise (· < ·) ∧ inputs.Nodup ∧
    (outputs.map (Text.bytes ·.spelling)).Pairwise (· < ·) ∧ outputs.Nodup ∧
    outputs.Perm (roots.plan.task.declarations.map (·.outputFile roots.output)) ∧
    outputs.length = roots.plan.task.directiveCount ∧
    ∀ (tree : FileSystem .linkFree) report, (generate engine tree roots).result = .ok report →
      outputs.Perm report.written ∧
      (∀ path ∈ outputs, (generate engine tree roots).files.isFile path = true) ∧
      ∀ path ∈ inputs, ∃ content,
        (Expansion.Pass.createRoots tree ⟨roots.templates, roots.output, {}⟩).2.read path = .ok content ∧
          (generate engine tree roots).files.read path = .ok content := by
  intro inputs outputs
  have named := roots.plan.isNamed
  have perm := named.perm_outputFiles roots.output
  refine ⟨by simp [files, inputs], by simp [files, outputs], ?_,
    List.pairwise_map.mpr (named.sorted_inputFiles _), (Path.nodup_components_listing _).of_map,
    List.pairwise_map.mpr (named.sorted_outputFiles _), (Path.nodup_components_listing _).of_map, perm,
    ?_, fun tree report succeeded => ?_⟩
  · simp [files, unlines_append]
  · rw [perm.length_eq, List.length_map, Task.length_declarations]
  · obtain ⟨sameResult, sameFiles⟩ := generate_eq engine tree roots
    rw [sameResult] at succeeded
    rw [sameFiles]
    obtain ⟨ready, created, _, rfl⟩ := Expansion.Expander.reach_of_ok succeeded
    have marked := (Expansion.Report.pending roots.plan.task roots.output).marked_markWritten
      roots.plan.task.directiveCount
    have same := perm.trans (.of_eq marked.pending_complete.2.symm)
    refine ⟨same, fun path listed => ?_, fun path listed => ?_⟩
    · exact (Expansion.Expander.written_places succeeded).2 path (same.mem_iff.mp listed)
    · obtain ⟨content, before, after⟩ := Expansion.Expander.read_input created succeeded listed
      exact ⟨content, by rwa [created], after⟩

/-- Where all outputs are links to the one text of all templates, this is written over. -/
theorem files_agree_with_generate_looped :
    let names := Plan.base.task.declarations.flatMap Declaration.stepNames
    let tree := loopedFiles names "\x7b##\x7dx"
    let roots : Roots := ⟨⟨"/files"⟩, ⟨"/files"⟩, .base⟩
    (generate Template.engine tree roots).failure = none ∧
      ∃ path ∈ roots.plan.task.inputFiles roots.templates,
        (Expansion.Pass.createRoots tree ⟨roots.templates, roots.output, {}⟩).2.read path =
            .ok (.text "\x7b##\x7dx") ∧
          (generate Template.engine tree roots).files.read path = .ok (.text "x") := by
  intro names tree roots
  have short : ∀ ns ∈ Plan.base.task.namespaces,
      (∀ segment ∈ Text.pieces '.' ns.name, segment.utf8ByteSize ≤ FileSystem.maxNameBytes) ∧
      ∀ directive ∈ ns.directives,
        (directive.outputName ++ outputSuffix).utf8ByteSize ≤ FileSystem.maxNameBytes ∧
        (directive.templateName ++ templateSuffix).utf8ByteSize ≤ FileSystem.maxNameBytes := by
    decide +kernel
  have looped := Expansion.Looped.of_isNamed Plan.base.isNamed short
  have notNil : Plan.base.task.declarations ≠ [] := by decide +kernel
  -- a comment is gone from what is printed, and nothing else is
  have prints : Expansion.PrintsAs Template.engine {} "\x7b##\x7dx" "x" :=
    fun _ => ⟨_, rfl, fun _ => rfl⟩
  have settled : Expansion.PrintsAs Template.engine {} "x" "x" := fun _ => ⟨_, rfl, fun _ => rfl⟩
  let expander : Expansion.Expander Template := ⟨Template.engine, ⟨⟨"/files"⟩, ⟨"/files"⟩, {}⟩, []⟩
  obtain ⟨went, leaves⟩ : (expander.expand tree roots.plan.task).failure = none ∧
      (expander.expand tree roots.plan.task).files = loopedFiles names "x" :=
    Expansion.Looped.expand looped rfl prints settled notNil
  obtain ⟨declaration, member⟩ := List.exists_mem_of_ne_nil _ notNil
  obtain ⟨sameResult, sameFiles⟩ := generate_eq Template.engine tree roots
  obtain ⟨path, listed, resolves⟩ := Task.exists_inputFile member roots.templates
  have found (text : String) : (loopedFiles names text).read path = .ok (.text text) :=
    FileSystem.read_of_item ((resolves _ _).trans ((looped declaration member).resolve_template text))
      FileSystem.looped_text
  refine ⟨?_, path, listed, ?_, ?_⟩
  · have succeeded := sameResult.trans (Expansion.Pass.result_eq_ok.mpr ⟨went, rfl⟩)
    exact (Expansion.Pass.result_eq_ok.mp succeeded).1
  · rw [Expansion.Looped.createRoots]
    exact found _
  · rw [sameFiles]
    refine (congrArg (FileSystem.read · path) leaves).trans ?_
    exact found _

end CommandLine

end Stencil
