import Stencil.Proofs.ExpansionReach
import Stencil.Proofs.RenderingRuns
import Stencil.Proofs.StoredFiles

namespace Stencil.Expansion

variable {τ : Type} {links : Linkage}

namespace Expander

variable {expander : Expander τ} {files : FileSystem links}

/-- A directive ends in one of four ways, and only the last two can have an effect on the files. -/
theorem expandDirective_cases (expander : Expander τ) (files : FileSystem links)
    (declaration : Declaration) :
    (declaration.isContained = false ∧ expander.expandDirective files declaration =
      (.error (.invalidOutputName declaration.namespaceName declaration.directive.outputName),
        expander, files)) ∨
    declaration.isContained = true ∧
      ((∃ cause after, expander.render files declaration = (.error cause, after) ∧
        expander.expandDirective files declaration = (.error cause, after, files)) ∨
      (∃ text after cause left, expander.render files declaration = (.ok text, after) ∧
        store files (declaration.outputFile expander.config.outputRoot) text = (.error cause, left) ∧
        expander.expandDirective files declaration = (.error cause, after, left)) ∨
      ∃ text after written, expander.render files declaration = (.ok text, after) ∧
        store files (declaration.outputFile expander.config.outputRoot) text = (.ok (), written) ∧
        expander.expandDirective files declaration =
          (.ok (declaration.outputFile expander.config.outputRoot), after, written)) := by
  unfold expandDirective
  cases contained : declaration.isContained with
  | false => exact .inl ⟨rfl, rfl⟩
  | true =>
    refine .inr ⟨rfl, ?_⟩
    have alike := expander.render_alike files declaration
    match rendered : expander.render files declaration with
    | (.error cause, after) => exact .inl ⟨cause, after, rfl, rfl⟩
    | (.ok text, after) =>
      rw [rendered] at alike
      have config : after.config = expander.config := alike.config
      simp only [if_true, config]
      match stored : store files (declaration.outputFile expander.config.outputRoot) text with
      | (.error cause, left) => exact .inr (.inl ⟨text, after, cause, left, rfl, stored, rfl⟩)
      | (.ok (), written) => exact .inr (.inr ⟨text, after, written, rfl, stored, rfl⟩)

/-- A directive that succeeds is contained, and its text is stored as it was rendered. -/
theorem expandDirective_ok {declaration : Declaration} {path : Path} {after : Expander τ}
    {written : FileSystem links}
    (step : expander.expandDirective files declaration = (.ok path, after, written)) :
    declaration.isContained = true ∧
      ∃ text, expander.render files declaration = (.ok text, after) ∧
        store files (declaration.outputFile expander.config.outputRoot) text = (.ok (), written) := by
  rcases expander.expandDirective_cases files declaration with ⟨_, whole⟩ | ⟨contained,
    ⟨_, _, _, whole⟩ | ⟨_, _, _, _, _, _, whole⟩ | ⟨text, _, _, rendered, stored, whole⟩⟩
  · simp [whole] at step
  · simp [whole] at step
  · simp [whole] at step
  · rw [whole, Prod.mk.injEq, Prod.mk.injEq] at step
    obtain ⟨_, rfl, rfl⟩ := step
    exact ⟨contained, text, rendered, stored⟩

theorem expandDirective_of_ok {declaration : Declaration} {text : String} {after : Expander τ}
    {written : FileSystem links} (contained : declaration.isContained = true)
    (rendered : expander.render files declaration = (.ok text, after))
    (stored : store files (declaration.outputFile expander.config.outputRoot) text =
      (.ok (), written)) :
    expander.expandDirective files declaration =
      (.ok (declaration.outputFile expander.config.outputRoot), after, written) := by
  have alike := expander.render_alike files declaration
  rw [rendered] at alike
  have config : after.config = expander.config := alike.config
  unfold expandDirective
  rw [if_pos contained, rendered]
  simp only [config, stored]

/-- The expander comes to what the rendering leaves, where it comes to a rendering at all. -/
theorem expandDirective_expander (expander : Expander τ) (files : FileSystem links)
    (declaration : Declaration) :
    (expander.expandDirective files declaration).2.1 =
      if declaration.isContained then (expander.render files declaration).2 else expander := by
  rcases expander.expandDirective_cases files declaration with ⟨escapes, whole⟩ | ⟨contained,
    ⟨_, _, rendered, whole⟩ | ⟨_, _, _, _, rendered, _, whole⟩ | ⟨_, _, _, rendered, _, whole⟩⟩
  · simp [whole, escapes]
  all_goals simp [whole, contained, rendered]

theorem expandDirective_alike (expander : Expander τ) (files : FileSystem links)
    (declaration : Declaration) :
    expander.Alike (expander.expandDirective files declaration).2.1 := by
  rw [expandDirective_expander]
  split
  · exact expander.render_alike files declaration
  · exact ⟨rfl, rfl⟩

/-- Whether a directive succeeds or fails, nothing that was there is gone. -/
theorem expandDirective_grows (expander : Expander τ) (files : FileSystem links)
    (declaration : Declaration) :
    Growth files (expander.expandDirective files declaration).2.2 (fun _ => True) fun _ => True := by
  rcases expander.expandDirective_cases files declaration with ⟨_, whole⟩ | ⟨contained,
    ⟨_, _, _, whole⟩ | ⟨text, _, _, _, _, stored, whole⟩ | ⟨text, _, _, _, stored, whole⟩⟩
  · rw [whole]
    exact .refl ..
  · rw [whole]
    exact .refl ..
  all_goals
    have growth := store_grows contained files expander.config.outputRoot text
    rw [stored] at growth
    rwa [whole]

/-- Where no links lead away from the output root, a directive changes only its output and creates only
directories on the way to it. -/
theorem expandDirective_growth_from (expander : Expander τ) (declaration : Declaration) {base : Location}
    (leads : files.follow (files.start expander.config.outputRoot) expander.config.outputRoot.stem =
      .ok base) (unlinked : files.UnlinkedBelow base) :
    Growth files (expander.expandDirective files declaration).2.2
      (fun location => declaration.isContained = true ∧ OnWay base declaration location)
      fun location => declaration.isContained = true ∧
        location = base ++ declaration.segments ++ [declaration.fileName] := by
  rcases expander.expandDirective_cases files declaration with ⟨_, whole⟩ | ⟨contained,
    ⟨_, _, _, whole⟩ | ⟨text, _, _, _, _, stored, whole⟩ | ⟨text, _, _, _, stored, whole⟩⟩
  · rw [whole]
    exact .refl ..
  · rw [whole]
    exact .refl ..
  all_goals
    have growth := store_onWay_of_unlinked contained text leads unlinked
    rw [stored] at growth
    rw [whole]
    exact growth.mono (fun _ onWay => ⟨contained, onWay⟩) fun _ here => ⟨contained, here⟩

/-- What one directive does to files without links, whether it succeeds or fails. -/
theorem expandDirective_growth (expander : Expander τ) (files : FileSystem .linkFree)
    (declaration : Declaration) :
    Growth files (expander.expandDirective files declaration).2.2
      (fun location => declaration.isContained = true ∧
        (expander.expandDirective files declaration).2.2.OnPath
          (expander.config.outputRoot.join declaration.directory) location)
      fun location => declaration.isContained = true ∧
        (expander.expandDirective files declaration).2.2.resolve
          (declaration.outputFile expander.config.outputRoot) = .ok location := by
  rcases expander.expandDirective_cases files declaration with ⟨_, whole⟩ | ⟨contained,
    ⟨cause, after, rendered, whole⟩ | ⟨text, after, cause, left, rendered, stored, whole⟩ |
    ⟨text, after, written, rendered, stored, whole⟩⟩
  · rw [whole]
    exact .refl ..
  · rw [whole]
    exact .refl ..
  all_goals
    have growth := store_growth contained files expander.config.outputRoot text
    rw [stored] at growth
    rw [whole]
    exact growth.mono (fun _ onPath => ⟨contained, onPath⟩) fun _ found => ⟨contained, found⟩

end Expander

variable {expander current : Expander τ} {files tree : FileSystem links} {done : List Declaration}

theorem Reach.alike (reach : Reach expander files done current tree) : expander.Alike current := by
  induction reach with
  | start => exact ⟨rfl, rfl⟩
  | @next done current tree declaration path after written previous step ih =>
    have alike := current.expandDirective_alike tree declaration
    rw [step] at alike
    exact ih.trans alike

/-- What directives do to the files from where the output root is, if no links lead away from there. -/
theorem Reach.growth_from (reach : Reach expander files done current tree) {base : Location}
    (leads : files.follow (files.start expander.config.outputRoot) expander.config.outputRoot.stem =
      .ok base) (unlinked : files.UnlinkedBelow base) :
    Growth files tree
      (fun location => ∃ declaration ∈ done, declaration.isContained = true ∧
        OnWay base declaration location)
      fun location => ∃ declaration ∈ done, declaration.isContained = true ∧
        location = base ++ declaration.segments ++ [declaration.fileName] := by
  induction reach with
  | start => exact .refl ..
  | @next done current tree declaration path after written previous step ih =>
    have leadsNow : tree.follow (tree.start current.config.outputRoot)
        current.config.outputRoot.stem = .ok base := by
      rw [previous.alike.config, ih.start]
      exact ih.follow leads
    have growth := current.expandDirective_growth_from declaration leadsNow
      fun names => ih.unlinked (unlinked names)
    rw [step] at growth
    have last : declaration ∈ done ++ [declaration] := List.mem_append_right done List.mem_cons_self
    refine .trans (ih.mono ?_ ?_) (growth.mono ?_ ?_)
    · rintro location ⟨earlier, member, made⟩
      exact ⟨earlier, List.mem_append_left _ member, made⟩
    · rintro location ⟨earlier, member, written⟩
      exact ⟨earlier, List.mem_append_left _ member, written⟩
    · exact fun location made => ⟨declaration, last, made⟩
    · exact fun location written => ⟨declaration, last, written⟩

theorem Reach.growth {files tree : FileSystem .linkFree} (reach : Reach expander files done current tree) :
    Growth files tree
      (fun location => ∃ declaration ∈ done, declaration.isContained = true ∧
        tree.OnPath (expander.config.outputRoot.join declaration.directory) location)
      fun location => ∃ declaration ∈ done, declaration.isContained = true ∧
        tree.resolve (declaration.outputFile expander.config.outputRoot) = .ok location := by
  induction reach with
  | start => exact .refl ..
  | @next done current tree declaration path after written previous step ih =>
    have growth := current.expandDirective_growth tree declaration
    rw [step, previous.alike.config] at growth
    have last : declaration ∈ done ++ [declaration] := List.mem_append_right done List.mem_cons_self
    refine .trans (ih.mono ?_ ?_) (growth.mono ?_ ?_)
    · rintro location ⟨earlier, member, contained, onPath⟩
      exact ⟨earlier, List.mem_append_left _ member, contained, growth.onPath onPath⟩
    · rintro location ⟨earlier, member, contained, found⟩
      exact ⟨earlier, List.mem_append_left _ member, contained, growth.resolve found⟩
    · exact fun location onPath => ⟨declaration, last, onPath⟩
    · exact fun location found => ⟨declaration, last, found⟩

end Stencil.Expansion
