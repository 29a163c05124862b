import Stencil.Proofs.DirectiveSteps

namespace Stencil.Expansion

variable {τ : Type} {links : Linkage}

theorem createDirectories_snd (files : FileSystem links) (path : Path) :
    (createDirectories files path).2 = (files.createDirectories path).2 := by
  unfold createDirectories
  match files.createDirectories path with
  | (.ok (), after) => rfl
  | (.error fault, after) => rfl

theorem Pass.createRoots_growth (files : FileSystem links) (config : Config) :
    Growth files (Pass.createRoots files config).2
      (fun location => (Pass.createRoots files config).2.OnPath config.templateRoot location ∨
        (Pass.createRoots files config).2.OnPath config.outputRoot location)
      fun _ => False := by
  have first := files.createDirectories_growth config.templateRoot
  rw [← createDirectories_snd] at first
  unfold Pass.createRoots
  match created : createDirectories files config.templateRoot with
  | (.error cause, after) =>
    rw [created] at first
    exact first.mono (fun _ onPath => .inl onPath) fun _ nothing => nothing
  | (.ok (), between) =>
    rw [created] at first
    have second := between.createDirectories_growth config.outputRoot
    rw [← createDirectories_snd] at second
    exact (first.mono (fun _ onPath => .inl (second.onPath onPath)) fun _ nothing => nothing).trans
      (second.mono (fun _ onPath => .inr onPath) fun _ nothing => nothing)

theorem createDirectories_eq_ok {files after : FileSystem links} {path : Path} :
    createDirectories files path = (.ok (), after) ↔
      files.createDirectories path = (.ok (), after) := by
  unfold createDirectories
  rcases files.createDirectories path with ⟨result, made⟩
  cases result <;> simp

theorem Pass.createRoots_eq_ok {files ready : FileSystem links} {config : Config} :
    createRoots files config = (.ok (), ready) ↔
      ∃ between, files.createDirectories config.templateRoot = (.ok (), between) ∧
        between.createDirectories config.outputRoot = (.ok (), ready) := by
  simp only [← createDirectories_eq_ok]
  unfold createRoots
  rcases createDirectories files config.templateRoot with ⟨result, made⟩
  cases result <;> simp

/-- Both roots are there when the first directive is tried. -/
theorem Pass.createRoots_ok {files ready : FileSystem .linkFree} {config : Config}
    (roots : Pass.createRoots files config = (.ok (), ready)) :
    ready.follow (ready.start config.templateRoot) config.templateRoot.stem =
        .ok (ready.place config.templateRoot) ∧
      ready.follow (ready.start config.outputRoot) config.outputRoot.stem =
        .ok (ready.place config.outputRoot) := by
  obtain ⟨between, first, second⟩ := createRoots_eq_ok.mp roots
  have growth := between.createDirectories_growth config.outputRoot
  rw [second] at growth
  exact ⟨growth.leads (FileSystem.follow_stem_of_created first),
    FileSystem.follow_stem_of_created second⟩

/-- What a pass does to the files, whichever course it takes. -/
theorem Course.growth {expander : Expander τ} {files : FileSystem .linkFree} {task : Task} {report : Report}
    {pass : Pass τ .linkFree} (course : Course expander files task report pass) :
    Growth files pass.files
      (fun location => pass.files.OnPath expander.config.templateRoot location ∨
        pass.files.OnPath expander.config.outputRoot location ∨
        ∃ declaration ∈ task.declarations, declaration.isContained = true ∧
          pass.files.OnPath (expander.config.outputRoot.join declaration.directory) location)
      fun location => ∃ declaration ∈ task.declarations, declaration.isContained = true ∧
        pass.files.resolve (declaration.outputFile expander.config.outputRoot) = .ok location := by
  have first := Pass.createRoots_growth files expander.config
  cases course with
  | blocked roots =>
    rw [roots] at first
    refine first.mono ?_ fun _ nothing => nothing.elim
    rintro location (onTemplates | onOutput)
    · exact .inl onTemplates
    · exact .inr (.inl onOutput)
  | finished roots reach =>
    rw [roots] at first
    have second := reach.growth
    refine .trans (first.mono ?_ fun _ nothing => nothing.elim) (second.mono ?_ fun _ found => found)
    · rintro location (onTemplates | onOutput)
      · exact .inl (second.onPath onTemplates)
      · exact .inr (.inl (second.onPath onOutput))
    · exact fun location onPath => .inr (.inr onPath)
  | @stopped ready done declaration rest current tree cause after left log roots split reach fails =>
    rw [roots] at first
    have second := reach.growth
    have third := current.expandDirective_growth tree declaration
    rw [fails, reach.alike.config] at third
    have member : declaration ∈ task.declarations := by simp [split]
    have earlier : ∀ other ∈ done, other ∈ task.declarations := fun other within => by
      simp [split, within]
    refine .trans (first.mono ?_ fun _ nothing => nothing.elim)
      (.trans (second.mono ?_ ?_) (third.mono ?_ ?_))
    · rintro location (onTemplates | onOutput)
      · exact .inl (third.onPath (second.onPath onTemplates))
      · exact .inr (.inl (third.onPath (second.onPath onOutput)))
    · rintro location ⟨other, within, contained, onPath⟩
      exact .inr (.inr ⟨other, earlier other within, contained, third.onPath onPath⟩)
    · rintro location ⟨other, within, contained, found⟩
      exact ⟨other, earlier other within, contained, third.resolve found⟩
    · exact fun location onPath => .inr (.inr ⟨declaration, member, onPath⟩)
    · exact fun location found => ⟨declaration, member, found⟩

/-- The containment of a pass. Whatever the names and the templates are, and wherever it stops, it
removes no file, writes only files whose path is that of the output root with ordinary names added,
and creates only directories on the paths of the roots and of such files. -/
theorem Expander.expand_contained (expander : Expander τ) (files : FileSystem .linkFree) (task : Task) :
    (∀ location content, files.get? location = some (.file content) →
      ∃ kept, (expander.expand files task).files.get? location = some (.file kept)) ∧
    (∀ location content, (expander.expand files task).files.get? location = some (.file content) →
      files.get? location ≠ some (.file content) →
      ∃ declaration ∈ task.declarations, declaration.isContained = true ∧
        (expander.expand files task).files.resolve
          (declaration.outputFile expander.config.outputRoot) = .ok location ∧
        (declaration.outputFile expander.config.outputRoot).components =
          expander.config.outputRoot.components ++
            (declaration.segments ++ [declaration.directive.outputName ++ ".java"]).map .name ∧
        location = files.place expander.config.outputRoot ++ declaration.segments ++
          [declaration.directive.outputName ++ ".java"] ∧
        ∀ name ∈ declaration.segments ++ [declaration.directive.outputName ++ ".java"],
          name ≠ "" ∧ name ≠ "." ∧ name ≠ ".." ∧ '/' ∉ name.toList) ∧
    ∀ location, (expander.expand files task).files.item? location = some .directory →
      files.item? location ≠ some .directory →
      ∃ path above : Path, (path = expander.config.templateRoot ∨ path = expander.config.outputRoot ∨
          ∃ declaration ∈ task.declarations, declaration.isContained = true ∧
            path = expander.config.outputRoot.join declaration.directory) ∧
        above.components <+: path.components ∧
        (expander.expand files task).files.resolve above = .ok location := by
  have growth := (expander.expand_course files task).growth
  refine ⟨fun location content held => ?_, fun location content held changed => ?_,
    fun location opens created => ?_⟩
  · obtain ⟨kept, still⟩ := growth.file (FileSystem.item?_eq_file.mpr held)
    exact ⟨kept, FileSystem.item?_eq_file.mp still⟩
  · rw [← FileSystem.item?_eq_file] at held
    have differs : files.item? location ≠ some (.file content) := fun same =>
      changed (FileSystem.item?_eq_file.mp same)
    rcases growth.item location with same | ⟨_, isDirectory, _⟩ | ⟨_, _, declaration, member, contained, found⟩
    · exact absurd (same ▸ held) differs
    · simp [held] at isDirectory
    · refine ⟨declaration, member, contained, found, ?_, ?_, ?_⟩
      · rw [Declaration.outputFile_components contained, List.map_append, List.append_assoc]
        rfl
      · rw [FileSystem.resolve_eq_place found, growth.place, Declaration.place_outputFile contained]
        rfl
      · intro name within
        have ordinary : Path.SolidEnd ⟨name⟩ ∧ '/' ∉ name.toList := by
          rcases List.mem_append.mp within with segment | last
          · exact Declaration.segment_ordinary contained segment
          · rw [List.mem_singleton.mp last]
            exact Declaration.fileName_ordinary contained
        obtain ⟨notEmpty, notDot, notDots⟩ := ordinary.1.ordinary
        exact ⟨notEmpty, notDot, notDots, ordinary.2⟩
  · rcases growth.item location with same | ⟨_, _, made⟩ | ⟨_, ⟨content, held⟩, _⟩
    · exact absurd (same ▸ opens) created
    · rcases made with ⟨above, within, found⟩ | ⟨above, within, found⟩ |
        ⟨declaration, member, contained, above, within, found⟩
      · exact ⟨_, above, .inl rfl, within, found⟩
      · exact ⟨_, above, .inr (.inl rfl), within, found⟩
      · exact ⟨_, above, .inr (.inr ⟨declaration, member, contained, rfl⟩), within, found⟩
    · simp [opens] at held

end Stencil.Expansion
