import Stencil.Proofs.ExpanderHistory
import Stencil.Proofs.RestartLaw
import Stencil.Proofs.SettledOutputs

namespace Stencil.Expansion

variable {τ : Type}

namespace Expander

variable {current other : Expander τ} {tree : FileSystem .linkFree} {declaration : Declaration}
  {answer : String → Except Template.Error τ}

/-- What two expanders have loaded cannot be told from how they expand directives either, whether these
succeed or fail. -/
theorem expandDirective_of_holds (alike : current.Alike other) (held : current.Holds answer)
    (otherHeld : other.Holds answer)
    (loads : ∀ name ∈ current.directiveRequests tree declaration, current.load tree name = answer name) :
    (other.expandDirective tree declaration).1 = (current.expandDirective tree declaration).1 ∧
      (other.expandDirective tree declaration).2.2 = (current.expandDirective tree declaration).2.2 ∧
      (other.expandDirective tree declaration).2.1.Holds answer := by
  have renders := current.render_alike tree declaration
  have otherRenders := other.render_alike tree declaration
  unfold expandDirective
  split
  · next contained =>
    rw [directiveRequests_of_contained contained] at loads
    obtain ⟨same, _, holds⟩ := render_of_holds alike held otherHeld loads
    rcases rendered : current.render tree declaration with ⟨result, after⟩
    rcases otherRendered : other.render tree declaration with ⟨otherResult, otherAfter⟩
    rw [rendered] at renders same
    rw [otherRendered] at otherRenders same holds
    have config : otherAfter.config = after.config := by
      rw [otherRenders.config, renders.config, alike.config]
    simp only at same
    subst same
    cases otherResult with
    | error cause => exact ⟨rfl, rfl, holds⟩
    | ok text =>
      simp only [config]
      rcases store tree (declaration.outputFile after.config.outputRoot) text with ⟨ended, left⟩
      cases ended <;> exact ⟨rfl, rfl, holds⟩
  · exact ⟨rfl, rfl, otherHeld⟩

end Expander

variable {expander current after fresh : Expander τ} {files ready tree written : FileSystem .linkFree}
  {front done later declarations : List Declaration} {declaration : Declaration}

theorem Reach.settled_within (reach : Reach expander.clear ready done current tree)
    (roots : expander.config.Ready ready) (within : done <+: declarations)
    (relative : ∀ name ∈ expander.clear.requestsFrom ready declarations,
      Path.isAbsolute ⟨name⟩ = false) :
    Settled expander.clear ready done current tree := by
  obtain ⟨rest, rfl⟩ := within
  refine reach.settled roots fun name asked => relative name ?_
  rw [reach.requestsFrom]
  exact List.mem_append_left _ asked

/-- A directive that is come to with templates loaded is expanded as by an expander that has loaded
none of them, or only some. -/
theorem Reach.expandDirective_fresh (reach : Reach expander.clear ready done current tree)
    (roots : expander.config.Ready ready) (within : done ++ [declaration] <+: declarations)
    (relative : ∀ name ∈ expander.clear.requestsFrom ready declarations,
      Path.isAbsolute ⟨name⟩ = false)
    (alike : expander.clear.Alike fresh) (held : fresh.Holds (expander.load ready)) :
    (fresh.expandDirective tree declaration).1 = (current.expandDirective tree declaration).1 ∧
      (fresh.expandDirective tree declaration).2.2 = (current.expandDirective tree declaration).2.2 ∧
      (fresh.expandDirective tree declaration).2.1.Holds (expander.load ready) := by
  have settled := reach.settled_within roots ((List.prefix_append _ _).trans within) relative
  have same : current.Alike fresh :=
    ⟨alike.engine.trans settled.alike.engine.symm, alike.config.trans settled.alike.config.symm⟩
  exact Expander.expandDirective_of_holds same settled.holds held fun name asked =>
    settled.load roots (relative name (reach.directiveRequests_mem within asked))

/-- The second part of some directives that succeed also succeeds with nothing loaded before, and
leaves the same. -/
theorem Reach.forgetting (reach : Reach expander.clear ready front current tree)
    (rest : Reach current tree later after written) (roots : expander.config.Ready ready)
    (within : front ++ later <+: declarations)
    (relative : ∀ name ∈ expander.clear.requestsFrom ready declarations,
      Path.isAbsolute ⟨name⟩ = false) :
    ∃ fresh, Reach expander.clear tree later fresh written ∧ fresh.Holds (expander.load ready) := by
  induction rest with
  | start => exact ⟨expander.clear, .start, expander.holds_clear _⟩
  | @next done between place declaration path last final previous step ih =>
    rw [← List.append_assoc] at within
    obtain ⟨fresh, again, held⟩ := ih ((List.prefix_append _ _).trans within)
    obtain ⟨result, same, holds⟩ := (reach.append previous).expandDirective_fresh roots within relative
      again.alike held
    rw [step] at result same
    have freshStep : fresh.expandDirective place declaration =
        (.ok path, (fresh.expandDirective place declaration).2.1, final) :=
      Prod.ext result (Prod.ext rfl same)
    exact ⟨_, .next again freshStep, holds⟩

namespace Expander

/-- From where the directives of a first task have come to, those of a second one go on as in a pass
of their own. -/
theorem expand_append_of_reach {first second : Task} (isReady : expander.config.Ready ready)
    (roots : Pass.createRoots files expander.config = (.ok (), ready))
    (reach : Reach expander.clear ready first.declarations current tree)
    (relative : ∀ name ∈ expander.clear.requestsFrom ready (first ++ second).declarations,
      Path.isAbsolute ⟨name⟩ = false) :
    (expander.expand files (first ++ second)).files = (expander.expand tree second).files ∧
      (expander.expand files (first ++ second)).result =
        (expander.expand tree second).result.map fun later =>
          ⟨((Report.pending first expander.config.outputRoot).markWritten first.directiveCount).entries ++
            later.entries⟩ := by
  have rootsAgain := createRoots_again roots reach.growth
  have joined := first.declarations_append second
  rcases Reach.complete_or_first_failure current tree second.declarations with ⟨last, final, rest⟩ |
    ⟨done, declaration, rest, between, place, cause, after, left, split, previous, fails⟩
  · obtain ⟨fresh, again, _⟩ := reach.forgetting rest isReady (joined ▸ List.prefix_refl _) relative
    have whole := reach.append rest
    rw [← joined] at whole
    rw [(expand_of_reach roots whole).2.2, (expand_of_reach rootsAgain again).2.2,
      result_of_reach roots whole, result_of_reach rootsAgain again]
    refine ⟨rfl, congrArg (fun entries => Except.ok (Report.mk entries)) ?_⟩
    rw [Report.entries_written, Report.entries_written, Report.entries_written, joined, List.map_append]
  · rw [split, ← List.append_assoc] at joined
    have within : first.declarations ++ done ++ [declaration] <+: (first ++ second).declarations :=
      ⟨rest, by rw [joined, List.append_assoc, List.singleton_append]⟩
    -- The directive that fails has the same tree before it in both passes, and true templates loaded.
    obtain ⟨fresh, again, held⟩ :=
      reach.forgetting previous isReady ((List.prefix_append _ _).trans within) relative
    obtain ⟨result, same, _⟩ :=
      (reach.append previous).expandDirective_fresh isReady within relative again.alike held
    rw [fails] at result same
    have freshFails : fresh.expandDirective place declaration =
        (.error cause, (fresh.expandDirective place declaration).2.1, left) :=
      Prod.ext result (Prod.ext rfl same)
    obtain ⟨failed, _, whole⟩ := expand_of_failure roots joined (reach.append previous) fails
    obtain ⟨failedAgain, _, after⟩ := expand_of_failure rootsAgain split again freshFails
    rw [whole, after, Pass.result_eq_error.mpr failed, Pass.result_eq_error.mpr failedAgain]
    exact ⟨rfl, rfl⟩

/-- A pass over two tasks, one after the other, is a pass over the first one and another pass over the
second one, by any expander with the same engine and configuration: it ends with the same error or
with the entries of both reports, and leaves the same files. If the first pass fails, it is as this
one. -/
theorem expand_append (expander : Expander τ) {files : FileSystem .linkFree} {first second : Task}
    (apart : expander.config.Apart files)
    (relative : ∀ name ∈ expander.requested files (first ++ second), Path.isAbsolute ⟨name⟩ = false) :
    (∀ report, (expander.expand files first).result = .ok report →
      ∀ worker : Expander τ, expander.Alike worker →
        (expander.expand files (first ++ second)).files =
            (worker.expand (expander.expand files first).files second).files ∧
          (expander.expand files (first ++ second)).result =
            (worker.expand (expander.expand files first).files second).result.map fun later =>
              ⟨report.entries ++ later.entries⟩) ∧
      ∀ cause, (expander.expand files first).result = .error cause →
        (expander.expand files (first ++ second)).files = (expander.expand files first).files ∧
          (expander.expand files (first ++ second)).result = .error cause := by
  cases roots : Pass.createRoots files expander.config with
  | mk ended ready =>
  cases ended with
  | error cause =>
    have blocked (task : Task) : expander.expand files task =
        ⟨expander.clear, ready, .pending task expander.config.outputRoot, [], some cause⟩ :=
      expandInto_of_blocked roots _
    rw [blocked, blocked]
    exact ⟨nofun, fun _ failed => ⟨rfl, failed⟩⟩
  | ok =>
    rw [requested_of_ready roots] at relative
    rcases Reach.complete_or_first_failure expander.clear ready first.declarations with
      ⟨current, tree, reach⟩ |
      ⟨done, declaration, rest, current, tree, cause, after, left, split, reach, fails⟩
    · rw [result_of_reach roots reach]
      refine ⟨fun report succeeded worker alike => ?_, nofun⟩
      injection succeeded with entries
      subst entries
      rw [alike.expand, (expand_of_reach roots reach).2.2]
      exact expand_append_of_reach (apart.ready roots) roots reach relative
    · have joined : (first ++ second).declarations =
          done ++ declaration :: (rest ++ second.declarations) := by
        rw [Task.declarations_append, split, List.append_assoc, List.cons_append]
      obtain ⟨failed, _, final⟩ := expand_of_failure roots split reach fails
      obtain ⟨failedJoined, _, finalJoined⟩ := expand_of_failure roots joined reach fails
      rw [Pass.result_eq_error.mpr failed, Pass.result_eq_error.mpr failedJoined]
      exact ⟨nofun, fun _ same => ⟨finalJoined.trans final.symm, same⟩⟩

/-- Where an output is a link to a template, the second part of a joined pass has the template as it was
loaded for the first one, and a pass of its own as it was written since. -/
theorem expand_append_rewritten :
    let first : Task := ⟨[⟨"model", [⟨"A", .single .int, "Class"⟩]⟩]⟩
    let second : Task := ⟨[⟨"model", [⟨"B", .single .int, "Record"⟩]⟩]⟩
    let before := sampleExpander.expand rewrittenFiles first
    let joined := sampleExpander.expand rewrittenFiles (first ++ second)
    let apart := before.expander.expand before.files second
    rewrittenFiles.resolve sampleExpander.config.templateRoot = .ok ["templates"] ∧
      rewrittenFiles.resolve sampleExpander.config.outputRoot = .ok ["generated"] ∧
      (∀ name ∈ sampleExpander.requested rewrittenFiles (first ++ second),
        Path.isAbsolute ⟨name⟩ = false) ∧
      before.failure = none ∧ joined.failure = none ∧ apart.failure = none ∧
      joined.files.readText ⟨"generated/model/B.java"⟩ = .ok "old" ∧
      apart.files.readText ⟨"generated/model/B.java"⟩ = .ok "new old" := by
  decide +kernel

/-- The second one of two tasks asks for a template that does not exist, with which the pass over both
fails as well. -/
theorem expand_append_missing_template :
    let first : Task := ⟨[⟨"model", [⟨"A", .single .int, "Class"⟩]⟩]⟩
    let second : Task := ⟨[⟨"model", [⟨"B", .single .long, "Class"⟩, ⟨"C", .single .int, "Record"⟩]⟩]⟩
    let before := sampleExpander.expand (sampleFiles .linkFree) first
    before.failure = none ∧
      (before.expander.expand before.files second).result =
        .error (.templateNotFound ⟨"templates/model/Record.java.ftl"⟩) ∧
      (sampleExpander.expand (sampleFiles .linkFree) (first ++ second)).result =
        .error (.templateNotFound ⟨"templates/model/Record.java.ftl"⟩) ∧
      (sampleExpander.expand (sampleFiles .linkFree) (first ++ second)).files =
        (before.expander.expand before.files second).files := by
  intro first second before
  have went : before.failure = none := by decide +kernel
  have failed : (before.expander.expand before.files second).result =
      .error (.templateNotFound ⟨"templates/model/Record.java.ftl"⟩) :=
    Pass.result_eq_error.mpr (by decide +kernel)
  have succeeded : before.result = .ok before.report := Pass.result_eq_ok.mpr ⟨went, rfl⟩
  have relative : ∀ name ∈ sampleExpander.requested (sampleFiles .linkFree) (first ++ second),
      Path.isAbsolute ⟨name⟩ = false := by decide +kernel
  obtain ⟨same, result⟩ := (expand_append sampleExpander (by decide +kernel) relative).1
    before.report succeeded before.expander (sampleExpander.expandInto_alike (sampleFiles .linkFree) first _)
  rw [failed] at result
  exact ⟨went, failed, result, same⟩

end Expander

end Stencil.Expansion
