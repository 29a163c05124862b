import Stencil.Proofs.Containment
import Stencil.Proofs.RequestedTemplates
import Stencil.Proofs.TemplateLoading

namespace Stencil.Expansion

variable {τ : Type}

/-- Neither root leads to the other one, nor to a place below it. -/
def Config.Apart (config : Config) (files : FileSystem .linkFree) : Prop :=
  ¬ files.place config.templateRoot <+: files.place config.outputRoot ∧
    ¬ files.place config.outputRoot <+: files.place config.templateRoot

instance (config : Config) (files : FileSystem .linkFree) : Decidable (config.Apart files) :=
  inferInstanceAs (Decidable (_ ∧ _))

theorem Config.Apart.below {config : Config} {files : FileSystem .linkFree} (apart : config.Apart files)
    {location : Location} (below : files.place config.templateRoot <+: location) :
    ¬ files.place config.outputRoot <+: location := fun belowOutput =>
  (List.prefix_or_prefix_of_prefix below belowOutput).elim apart.1 apart.2

theorem Config.Apart.of_workingDirectory {config : Config} {files other : FileSystem .linkFree}
    (apart : config.Apart files) (kept : other.workingDirectory = files.workingDirectory) :
    config.Apart other := by
  unfold Apart
  rw [FileSystem.place_congr kept, FileSystem.place_congr kept]
  exact apart

/-- A tree in which both roots are there, apart from each other. -/
structure Config.Ready (config : Config) (ready : FileSystem .linkFree) : Prop where
  apart : config.Apart ready
  templates : ready.follow (ready.start config.templateRoot) config.templateRoot.stem =
    .ok (ready.place config.templateRoot)
  output : ready.follow (ready.start config.outputRoot) config.outputRoot.stem =
    .ok (ready.place config.outputRoot)

theorem Config.Apart.ready {config : Config} {files ready : FileSystem .linkFree} (apart : config.Apart files)
    (roots : Pass.createRoots files config = (.ok (), ready)) : config.Ready ready := by
  have growth := Pass.createRoots_growth files config
  rw [roots] at growth
  obtain ⟨templates, output⟩ := Pass.createRoots_ok roots
  exact ⟨apart.of_workingDirectory growth.workingDirectory, templates, output⟩

/-- A directive that has been expanded. Its template is there, the names it asks for are known, and
its output has its place. -/
structure Expanded (expander : Expander τ) (ready tree : FileSystem .linkFree) (declaration : Declaration) :
    Prop where
  contained : declaration.isContained = true
  present : tree.isFile (declaration.templateFile expander.config.templateRoot) = true
  relative : ∀ name ∈ (expander.rendering declaration).asked (expander.load ready),
    Path.isAbsolute ⟨name⟩ = false
  found : tree.resolve (declaration.outputFile expander.config.outputRoot) =
    .ok (ready.place (declaration.outputFile expander.config.outputRoot))

theorem Expanded.later {expander : Expander τ} {ready tree after : FileSystem .linkFree}
    {declaration : Declaration} {made written : Location → Prop}
    (expanded : Expanded expander ready tree declaration) (growth : Growth tree after made written) :
    Expanded expander ready after declaration :=
  ⟨expanded.contained, growth.isFile expanded.present, expanded.relative,
    growth.resolve expanded.found⟩

/-- What is true of a pass after some directives: what they asked for, and what asking again would
give, is settled by the tree in which the first of them started. Of the directives that are declared
under the same names, the last one has its text in place. -/
structure Settled (expander : Expander τ) (ready : FileSystem .linkFree) (done : List Declaration)
    (current : Expander τ) (tree : FileSystem .linkFree) : Prop where
  alike : expander.Alike current
  holds : current.Holds (expander.load ready)
  growth : Growth ready tree (ready.place expander.config.outputRoot <+: ·)
    (ready.place expander.config.outputRoot <+: ·)
  expanded : ∀ declaration ∈ done, Expanded expander ready tree declaration
  last : ∀ earlier declaration later, done = earlier ++ declaration :: later →
    (∀ other ∈ later, ¬ declaration.SameOutput other) →
    ∃ text, (expander.rendering declaration).eval (expander.load ready) = .ok text ∧
      tree.item? (ready.place (declaration.outputFile expander.config.outputRoot)) =
        some (.file (.text text))

namespace Settled

variable {expander current after : Expander τ} {ready tree written : FileSystem .linkFree}
  {done : List Declaration} {declaration : Declaration} {path : Path}

theorem start (expander : Expander τ) (ready : FileSystem .linkFree) :
    Settled expander.clear ready [] expander.clear ready where
  alike := ⟨rfl, rfl⟩
  holds := expander.holds_clear _
  growth := .refl ..
  expanded _ member := nomatch member
  last earlier declaration later split := by simp at split

/-- Outputs that are written below the output root do not change what is loaded. -/
theorem load (settled : Settled expander ready done current tree)
    (roots : expander.config.Ready ready) {name : String}
    (relative : Path.isAbsolute ⟨name⟩ = false) :
    current.load tree name = expander.load ready name := by
  rw [settled.alike.load]
  exact Expander.load_congr <| settled.growth.loadSource roots.templates relative
    fun location below => ⟨roots.apart.below below, roots.apart.below below⟩

theorem render_ok (settled : Settled expander ready done current tree)
    (roots : expander.config.Ready ready)
    (relative : ∀ name ∈ current.directiveRequests tree declaration, Path.isAbsolute ⟨name⟩ = false)
    (contained : declaration.isContained = true) {text : String}
    (rendered : current.render tree declaration = (.ok text, after)) :
    tree.isFile (declaration.templateFile expander.config.templateRoot) = true ∧
      (expander.rendering declaration).eval (expander.load ready) = .ok text ∧
      after.Holds (expander.load ready) ∧
      ∀ name ∈ (expander.rendering declaration).asked (expander.load ready),
        Path.isAbsolute ⟨name⟩ = false := by
  rw [Expander.render_eq, settled.alike.rendering, settled.alike.config] at rendered
  unfold Expander.directiveRequests at relative
  rw [settled.alike.rendering, settled.alike.config] at relative
  split at rendered
  · next present =>
    rw [if_pos ⟨contained, present⟩] at relative
    obtain ⟨result, holds, asked⟩ := Expander.run_of_holds settled.holds fun name member =>
      settled.load roots (relative name member)
    rw [rendered] at result holds
    rw [asked] at relative
    exact ⟨present, result.symm, holds, relative⟩
  · simp at rendered

/-- One more directive that succeeds. It is the last one under its names, and takes the place of one
that was so before; the texts of all others stay. -/
theorem next (settled : Settled expander ready done current tree)
    (roots : expander.config.Ready ready)
    (relative : ∀ name ∈ current.directiveRequests tree declaration, Path.isAbsolute ⟨name⟩ = false)
    (step : current.expandDirective tree declaration = (.ok path, after, written)) :
    Settled expander ready (done ++ [declaration]) after written := by
  obtain ⟨contained, text, rendered, stored⟩ := Expander.expandDirective_ok step
  obtain ⟨present, evaluated, holds, asked⟩ := settled.render_ok roots relative contained rendered
  have alike := current.expandDirective_alike tree declaration
  rw [step] at alike
  rw [settled.alike.config] at stored
  have leads := settled.growth.leads roots.output
  obtain ⟨grown, found, held⟩ := store_ok contained leads stored
  rw [settled.growth.place] at found held
  rw [settled.growth.place, settled.growth.place] at grown
  have inside : ready.place expander.config.outputRoot <+:
      ready.place (declaration.outputFile expander.config.outputRoot) := by
    rw [Declaration.place_outputFile contained, List.append_assoc]
    exact List.prefix_append _ _
  refine ⟨settled.alike.trans alike, holds, settled.growth.trans (grown.mono (fun _ made => made) ?_),
    fun other member => ?_, fun earlier other later split notAgain => ?_⟩
  · rintro location rfl
    exact inside
  · rcases List.mem_append.mp member with before | new
    · exact (settled.expanded other before).later grown
    · rw [List.mem_singleton.mp new]
      exact ⟨contained, grown.isFile present, asked, found⟩
  -- Either this directive is the new one, or it was the last one before and is not overwritten now.
  · rcases List.eq_nil_or_concat later with rfl | ⟨between, final, rfl⟩
    · obtain ⟨_, same⟩ := List.append_inj' split rfl
      obtain rfl : declaration = other := by simpa using same
      exact ⟨text, evaluated, held⟩
    · rw [List.concat_eq_append, ← List.cons_append, ← List.append_assoc] at split
      obtain ⟨before, same⟩ := List.append_inj' split rfl
      obtain rfl : declaration = final := by simpa using same
      obtain ⟨older, olderEvaluated, olderHeld⟩ := settled.last earlier other between before
        fun another member => notAgain another (by simp [member])
      have otherContained := (settled.expanded other (by simp [before])).contained
      have elsewhere : ready.place (other.outputFile expander.config.outputRoot) ≠
          ready.place (declaration.outputFile expander.config.outputRoot) := fun samePlace =>
        notAgain declaration (by simp) (Declaration.sameOutput_of_place otherContained contained samePlace)
      refine ⟨older, olderEvaluated, ?_⟩
      rw [FileSystem.item?_eq_file] at olderHeld ⊢
      exact (grown.get?_file elsewhere _).mpr olderHeld

end Settled

theorem Reach.settled {expander current : Expander τ} {ready tree : FileSystem .linkFree}
    {done : List Declaration} (reach : Reach expander.clear ready done current tree)
    (roots : expander.config.Ready ready)
    (relative : ∀ name ∈ expander.clear.requestsFrom ready done, Path.isAbsolute ⟨name⟩ = false) :
    Settled expander.clear ready done current tree := by
  induction reach with
  | start => exact .start expander ready
  | @next done current tree declaration path after written previous step ih =>
    have apart := previous.requestsFrom [declaration]
    rw [apart] at relative
    refine .next (ih fun name member => relative name (List.mem_append_left _ member)) roots ?_ step
    intro name member
    apply relative name (List.mem_append_right _ _)
    exact List.mem_append_left _ member

end Stencil.Expansion
