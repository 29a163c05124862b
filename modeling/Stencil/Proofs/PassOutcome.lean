import Stencil.Proofs.FailureAtomicity
import Stencil.Proofs.SettledOutputs

namespace Stencil.Expansion

variable {τ : Type}

/-- Rendering a directive once more gives the text that its output was written with. -/
theorem Settled.render_again {expander current : Expander τ} {ready tree : FileSystem .linkFree}
    {done : List Declaration} {declaration : Declaration}
    (settled : Settled expander ready done current tree) (roots : expander.config.Ready ready)
    (member : declaration ∈ done) :
    (current.render tree declaration).1 =
      (expander.rendering declaration).eval (expander.load ready) := by
  have again := settled.expanded declaration member
  have loads : ∀ name ∈ (expander.rendering declaration).asked (expander.load ready),
      current.load tree name = expander.load ready name :=
    fun name asked => settled.load roots (again.relative name asked)
  have requested := Expander.requests_eq_asked settled.holds loads
  rw [Expander.render_eq, settled.alike.config, if_pos again.present,
    settled.alike.rendering]
  rw [← requested] at loads
  exact (Expander.run_of_holds settled.holds loads).1

namespace Expander

variable {expander : Expander τ} {files : FileSystem .linkFree} {task : Task}

/-- What a pass leaves behind that went through. Its report is complete, of all directives declared
under the same names the last one has its output in place, with the text that rendering it again
gives, and no file is touched that is not an output. -/
theorem expand_outcome (expander : Expander τ) (files : FileSystem .linkFree) (task : Task) {report : Report}
    (apart : expander.config.Apart files)
    (relative : ∀ name ∈ expander.requested files task, Path.isAbsolute ⟨name⟩ = false)
    (succeeded : (expander.expand files task).result = .ok report) :
    report.isComplete = true ∧
      report.written = task.declarations.map (·.outputFile expander.config.outputRoot) ∧
      (∀ earlier declaration later, task.declarations = earlier ++ declaration :: later →
        (∀ other ∈ later, ¬ declaration.SameOutput other) →
        ∃ text,
          ((expander.expand files task).expander.render (expander.expand files task).files
            declaration).1 = .ok text ∧
          (expander.expand files task).files.read
            (declaration.outputFile expander.config.outputRoot) = .ok (.text text)) ∧
      ∀ location,
        (∀ declaration ∈ task.declarations, (expander.expand files task).files.resolve
          (declaration.outputFile expander.config.outputRoot) ≠ .ok location) →
        ∀ content, (expander.expand files task).files.get? location = some (.file content) ↔
          files.get? location = some (.file content) := by
  obtain ⟨ready, roots, reach, rfl⟩ := reach_of_ok succeeded
  rw [requested_of_ready roots] at relative
  have isReady := apart.ready roots
  have settled := reach.settled isReady relative
  have marked := (Report.pending task expander.config.outputRoot).marked_markWritten task.directiveCount
  obtain ⟨complete, outputs⟩ := marked.pending_complete
  refine ⟨complete, outputs, fun earlier declaration later split notAgain => ?_,
    fun location notOutput content => ?_⟩
  · have member : declaration ∈ task.declarations := by simp [split]
    obtain ⟨text, evaluated, held⟩ := settled.last earlier declaration later split notAgain
    refine ⟨text, (settled.render_again isReady member).trans evaluated, ?_⟩
    have found : (expander.expand files task).files.resolve
        (declaration.outputFile expander.config.outputRoot) = .ok _ :=
      (settled.expanded declaration member).found
    rw [FileSystem.read_eq, found, Except.bind, held]
  · refine (expander.expand_course files task).growth.get?_file ?_ content
    rintro ⟨declaration, member, _, found⟩
    exact notOutput declaration member found

/-- Two templates of one name, and a link by which the output directory of the one leads to that of the
other. -/
def crossedFiles : FileSystem where
  root := .directory [("generated", .directory [("a", .empty), ("b", .link rfl ⟨"a"⟩)]),
    ("templates", .directory [("a", .directory [("Class.java.ftl", .file (.text "one"))]),
      ("b", .directory [("Class.java.ftl", .file (.text "two"))])])]

/-- Where there are links, the last directive of its names may find its output replaced by that of
another one, although the roots are apart. -/
theorem expand_outcome_crossed :
    let task : Task := ⟨[⟨"a", [⟨"A", .single .int, "Class"⟩]⟩, ⟨"b", [⟨"A", .single .int, "Class"⟩]⟩]⟩
    let pass := sampleExpander.expand crossedFiles task
    crossedFiles.resolve sampleExpander.config.templateRoot = .ok ["templates"] ∧
      crossedFiles.resolve sampleExpander.config.outputRoot = .ok ["generated"] ∧
      (∀ name ∈ sampleExpander.requested crossedFiles task, Path.isAbsolute ⟨name⟩ = false) ∧
      pass.failure = none ∧
      ¬ Declaration.SameOutput ⟨"a", ⟨"A", .single .int, "Class"⟩⟩ ⟨"b", ⟨"A", .single .int, "Class"⟩⟩ ∧
      (pass.expander.render pass.files ⟨"a", ⟨"A", .single .int, "Class"⟩⟩).1 = .ok "one" ∧
      pass.files.readText ⟨"generated/a/A.java"⟩ = .ok "two" := by
  decide +kernel

/-- Of two classes that are declared under one name, in two namespaces of one name, the second one
is found after the pass. -/
theorem expand_outcome_redeclared :
    let task : Task := ⟨[⟨"model", [⟨"A", .single .int, "Class"⟩]⟩,
      ⟨"model", [⟨"B", .single .int, "Class"⟩, ⟨"A", .single .long, "Class"⟩]⟩]⟩
    ∃ report text, (sampleExpander.expand (sampleFiles .linkFree) task).result = .ok report ∧
      report.written =
        [⟨"generated/model/A.java"⟩, ⟨"generated/model/B.java"⟩, ⟨"generated/model/A.java"⟩] ∧
      ((sampleExpander.expand (sampleFiles .linkFree) task).expander.render
        (sampleExpander.expand (sampleFiles .linkFree) task).files
        ⟨"model", ⟨"A", .single .long, "Class"⟩⟩).1 = .ok text ∧
      (sampleExpander.expand (sampleFiles .linkFree) task).files.read ⟨"generated/model/A.java"⟩ =
        .ok (.text text) := by
  intro task
  have succeeded : (sampleExpander.expand (sampleFiles .linkFree) task).result =
      .ok (sampleExpander.expand (sampleFiles .linkFree) task).report :=
    Pass.result_eq_ok.mpr ⟨by decide +kernel, rfl⟩
  obtain ⟨_, written, last, _⟩ := expand_outcome sampleExpander (sampleFiles .linkFree) task
    (by decide +kernel) (by decide +kernel) succeeded
  obtain ⟨text, rendered, held⟩ := last
    [⟨"model", ⟨"A", .single .int, "Class"⟩⟩, ⟨"model", ⟨"B", .single .int, "Class"⟩⟩]
    ⟨"model", ⟨"A", .single .long, "Class"⟩⟩ [] rfl (fun _ member => nomatch member)
  have outputs : task.declarations.map (·.outputFile sampleExpander.config.outputRoot) =
      [⟨"generated/model/A.java"⟩, ⟨"generated/model/B.java"⟩, ⟨"generated/model/A.java"⟩] := by
    decide +kernel
  have path : Declaration.outputFile ⟨"model", ⟨"A", .single .long, "Class"⟩⟩
      sampleExpander.config.outputRoot = ⟨"generated/model/A.java"⟩ := by
    decide +kernel
  rw [path] at held
  exact ⟨_, text, succeeded, written.trans outputs, rendered, held⟩

end Expander

end Stencil.Expansion
