import Stencil.Proofs.FailureAtomicity
import Stencil.Proofs.ParserFaults

namespace Stencil.Expansion

variable {τ : Type} {links : Linkage} {expander current : Expander τ} {files tree : FileSystem links}
  {declaration : Declaration}

/-- Nothing stands for the template of a directive: the file is missing, or the loader has nothing
for the key. -/
def LacksTemplate (files : FileSystem links) (templateRoot : Path) (declaration : Declaration) : Prop :=
  files.isFile (declaration.templateFile templateRoot) = false ∨
    loadSource files templateRoot declaration.templateKey = .error (.ofKind .templateNotFound)

namespace Expander

/-- The files of all templates that are kept are still there. -/
def Backed (expander : Expander τ) (files : FileSystem links) : Prop :=
  ∀ name template, expander.cache.find? name = some template →
    ".." ∉ Path.pieces ⟨name⟩ ∧ files.isFile (expander.config.templateRoot.join ⟨name⟩) = true

theorem backed_clear (expander : Expander τ) (files : FileSystem links) : expander.clear.Backed files :=
  fun _ _ found => nomatch found

theorem Backed.render (backed : expander.Backed files) (declaration : Declaration) :
    (expander.render files declaration).2.Backed files := by
  intro name template found
  rw [(expander.render_alike files declaration).config]
  rcases find?_render found with earlier | loads
  · exact backed name template earlier
  · unfold load at loads
    split at loads
    · next loaded =>
      obtain ⟨stays, read⟩ := loadSource_ok loaded
      exact ⟨stays, FileSystem.isFile_iff_read.mpr ⟨_, read⟩⟩
    · cases loads

theorem Backed.growth {made written : Location → Prop} (backed : expander.Backed files)
    (growth : Growth files tree made written) : expander.Backed tree := by
  intro name template found
  obtain ⟨stays, isFile⟩ := backed name template found
  exact ⟨stays, growth.isFile isFile⟩

/-- What is loaded already makes no difference to whether a template is found. -/
theorem Backed.missesTemplate_iff (backed : expander.Backed files)
    (finds : expander.engine.FindsSources) :
    expander.MissesTemplate files declaration ↔
      LacksTemplate files expander.config.templateRoot declaration := by
  refine or_congr Iff.rfl ((fetch_notFound_iff finds files _).trans (and_iff_right_of_imp fun lost => ?_))
  cases kept : expander.cache.find? declaration.templateKey with
  | none => rfl
  | some template =>
    obtain ⟨stays, isFile⟩ := backed _ template kept
    obtain ⟨content, read⟩ := FileSystem.isFile_iff_read.mp isFile
    exact absurd lost (loadSource_of_read stays read)

end Expander

theorem Reach.backed (reach : Reach expander.clear files done current tree) : current.Backed tree := by
  induction reach with
  | start => exact expander.backed_clear _
  | @next done current tree declaration path after written previous step ih =>
    obtain ⟨_, text, rendered, _⟩ := Expander.expandDirective_ok step
    have backed := ih.render declaration
    rw [rendered] at backed
    have growth := current.expandDirective_grows tree declaration
    rw [step] at growth
    exact backed.growth growth

/-- What is wrong with a directive. Of all faults that it has only the first one counts. -/
inductive Verdict (expander : Expander τ) (files : FileSystem links) (declaration : Declaration) :
    Error → Prop
  | invalidOutputName : declaration.isContained = false →
      Verdict expander files declaration
        (.invalidOutputName declaration.namespaceName declaration.directive.outputName)
  | templateNotFound : declaration.isContained = true →
      LacksTemplate files expander.config.templateRoot declaration →
      Verdict expander files declaration
        (.templateNotFound (declaration.templateFile expander.config.templateRoot))
  | templateSyntax {fault} : declaration.isContained = true →
      ¬ LacksTemplate files expander.config.templateRoot declaration →
      expander.engineText files declaration = .error fault → fault.kind = .syntaxError →
      Verdict expander files declaration (.templateSyntax declaration.templateKey fault)
  | render {fault} : declaration.isContained = true →
      ¬ LacksTemplate files expander.config.templateRoot declaration →
      expander.engineText files declaration = .error fault → fault.kind ≠ .syntaxError →
      Verdict expander files declaration (.render declaration.templateKey fault)
  | createDirectory {text directory made} {fault : AccessError} : declaration.isContained = true →
      ¬ LacksTemplate files expander.config.templateRoot declaration →
      expander.engineText files declaration = .ok text →
      (declaration.outputFile expander.config.outputRoot).parent? = some directory →
      files.createDirectories directory = (.error fault, made) →
      Verdict expander files declaration (.createDirectory directory fault.message)
  | write {text directory made} {fault : AccessError} : declaration.isContained = true →
      ¬ LacksTemplate files expander.config.templateRoot declaration →
      expander.engineText files declaration = .ok text →
      (declaration.outputFile expander.config.outputRoot).parent? = some directory →
      files.createDirectories directory = (.ok (), made) →
      made.write (declaration.outputFile expander.config.outputRoot) (.text text) = .error fault →
      Verdict expander files declaration
        (.write (declaration.outputFile expander.config.outputRoot) fault.message)

theorem Error.ofTemplate_of_syntax {key : String} {fault : Template.Error}
    (kind : fault.kind = .syntaxError) : ofTemplate key fault = .templateSyntax key fault := by
  unfold ofTemplate
  rw [kind]

theorem Error.ofTemplate_of_not_syntax {key : String} {fault : Template.Error}
    (kind : fault.kind ≠ .syntaxError) : ofTemplate key fault = .render key fault := by
  unfold ofTemplate
  split
  · next same => exact absurd same kind
  · rfl

namespace Expander

/-- Once there is a template, only the engine can fail in rendering it. -/
theorem render_of_template (has : ¬ expander.MissesTemplate files declaration) :
    (expander.render files declaration).1 =
      (expander.engineText files declaration).mapError (.ofTemplate declaration.templateKey) := by
  rcases expander.render_cases files declaration with ⟨misses, _⟩ |
    ⟨_, ⟨fault, failed, whole⟩ | ⟨text, made, whole⟩⟩
  · exact absurd misses has
  · rw [whole, failed]
    rfl
  · rw [whole, made]
    rfl

theorem expandDirective_fst (contained : declaration.isContained = true) :
    (expander.expandDirective files declaration).1 =
      (expander.render files declaration).1.bind fun text =>
        (store files (declaration.outputFile expander.config.outputRoot) text).1.map fun _ =>
          declaration.outputFile expander.config.outputRoot := by
  rcases expander.expandDirective_cases files declaration with ⟨refused, _⟩ | ⟨_,
    ⟨_, _, rendered, whole⟩ | ⟨_, _, _, _, rendered, stored, whole⟩ |
    ⟨_, _, _, rendered, stored, whole⟩⟩
  · rw [contained] at refused
    cases refused
  · rw [whole, rendered]
    rfl
  all_goals
    rw [whole, rendered, Except.bind, stored]
    rfl

end Expander

/-- A directive fails as the verdict says. -/
theorem Verdict.fails {error : Error} (verdict : Verdict expander files declaration error)
    (backed : expander.Backed files) (finds : expander.engine.FindsSources) :
    (expander.expandDirective files declaration).1 = .error error := by
  have lacks : expander.MissesTemplate files declaration ↔ _ := backed.missesTemplate_iff finds
  cases verdict with
  | invalidOutputName refused =>
    unfold Expander.expandDirective
    rw [if_neg (by simp [refused])]
  | templateNotFound contained missing =>
    have rendered := Expander.render_eq_templateNotFound_iff.mpr ⟨rfl, lacks.mpr missing⟩
    rw [Expander.expandDirective_fst contained, rendered]
    rfl
  | templateSyntax contained there failed kind =>
    have rendered := Expander.render_of_template (mt lacks.mp there)
    rw [Expander.expandDirective_fst contained, rendered, failed, Except.mapError,
      Error.ofTemplate_of_syntax kind]
    rfl
  | render contained there failed kind =>
    have rendered := Expander.render_of_template (mt lacks.mp there)
    rw [Expander.expandDirective_fst contained, rendered, failed, Except.mapError,
      Error.ofTemplate_of_not_syntax kind]
    rfl
  | createDirectory contained there made above blocked =>
    have rendered := Expander.render_of_template (mt lacks.mp there)
    rw [Declaration.outputFile_parent? contained, Option.some.injEq] at above
    subst above
    rw [Expander.expandDirective_fst contained, rendered, made, Except.mapError, Except.bind,
      store_eq contained, blocked]
    rfl
  | write contained there made above created blocked =>
    have rendered := Expander.render_of_template (mt lacks.mp there)
    rw [Declaration.outputFile_parent? contained, Option.some.injEq] at above
    subst above
    rw [Expander.expandDirective_fst contained, rendered, made, Except.mapError, Except.bind,
      store_eq contained, created]
    simp only [blocked]
    rfl

/-- Whatever a directive fails with has its verdict. -/
theorem Expander.Backed.verdict {error : Error} (backed : expander.Backed files)
    (finds : expander.engine.FindsSources)
    (fails : (expander.expandDirective files declaration).1 = .error error) :
    Verdict expander files declaration error := by
  have lacks : expander.MissesTemplate files declaration ↔ _ := backed.missesTemplate_iff finds
  cases contained : declaration.isContained with
  | false =>
    unfold expandDirective at fails
    rw [if_neg (by simp [contained])] at fails
    cases fails
    exact .invalidOutputName contained
  | true =>
    rw [expandDirective_fst contained] at fails
    by_cases missing : LacksTemplate files expander.config.templateRoot declaration
    · rw [render_eq_templateNotFound_iff.mpr ⟨rfl, lacks.mpr missing⟩] at fails
      cases fails
      exact .templateNotFound contained missing
    · rw [render_of_template (mt lacks.mp missing)] at fails
      cases made : expander.engineText files declaration with
      | error fault =>
        rw [made] at fails
        cases fails
        by_cases kind : fault.kind = .syntaxError
        · rw [Error.ofTemplate_of_syntax kind]
          exact .templateSyntax contained missing made kind
        · rw [Error.ofTemplate_of_not_syntax kind]
          exact .render contained missing made kind
      | ok text =>
        have above := Declaration.outputFile_parent? contained expander.config.outputRoot
        rw [made, Except.mapError, Except.bind] at fails
        rcases store_cases contained files expander.config.outputRoot text with
          ⟨fault, tree, created, whole⟩ | ⟨fault, tree, created, written, whole⟩ |
          ⟨tree, after, created, written, whole⟩
        all_goals
          rw [whole] at fails
          cases fails
        · exact .createDirectory contained missing made above created
        · exact .write contained missing made above created written

theorem Expander.Backed.verdict_iff (backed : expander.Backed files)
    (finds : expander.engine.FindsSources) (error : Error) :
    Verdict expander files declaration error ↔
      (expander.expandDirective files declaration).1 = .error error :=
  ⟨fun verdict => verdict.fails backed finds, backed.verdict finds⟩

theorem Pass.createRoots_of_templates {config : Config} {fault : AccessError} {left : FileSystem links}
    (blocked : files.createDirectories config.templateRoot = (.error fault, left)) :
    createRoots files config = (.error (.createDirectory config.templateRoot fault.message), left) := by
  unfold createRoots createDirectories
  rw [blocked]

theorem Pass.createRoots_of_output {config : Config} {fault : AccessError} {made left : FileSystem links}
    (created : files.createDirectories config.templateRoot = (.ok (), made))
    (blocked : made.createDirectories config.outputRoot = (.error fault, left)) :
    createRoots files config = (.error (.createDirectory config.outputRoot fault.message), left) := by
  unfold createRoots createDirectories
  rw [created]
  simp only [blocked]

/-- In a fresh report the entry at which the run ended is aborted, and no other one. -/
theorem Report.pending_aborted_iff {task : Task} {root : Path} {succeeded : Nat}
    (failed : succeeded < task.directiveCount) (i : Nat) :
    (((pending task root).markWritten succeeded).mark succeeded .aborted).entries[i]?.map (·.state) =
      some .aborted ↔ i = succeeded := by
  have marked := (pending task root).marked_mark_aborted failed
  refine ⟨fun aborted => (marked.eq_of_pending_aborted aborted).1, ?_⟩
  rintro rfl
  have bound : i < (pending task root).entries.length := by rwa [length_pending]
  have entry := marked.entry i _ (List.getElem?_eq_getElem bound)
  rw [entry]
  simp [State.reached, failed]

namespace Expander

/-- The pass that tries no directive. -/
def blocked (expander : Expander τ) (report : Report) (left : FileSystem links) (cause : Error) :
    Pass τ links where
  expander := expander.clear
  files := left
  report := report
  failure := some cause

/-- The error of a pass is that of the first root that cannot be created, or else the verdict on the
one directive that a fresh report calls aborted, after all directives before it have gone through. A
template that is missing only where another one asks for it is an error of the rendering. -/
theorem expand_verdict (expander : Expander τ) (files : FileSystem links) (task : Task) (report : Report)
    (finds : expander.engine.FindsSources) :
    (∀ fault left, files.createDirectories expander.config.templateRoot = (.error fault, left) →
      expander.expandInto files task report = expander.blocked report left
        (.createDirectory expander.config.templateRoot fault.message)) ∧
    (∀ made fault left, files.createDirectories expander.config.templateRoot = (.ok (), made) →
      made.createDirectories expander.config.outputRoot = (.error fault, left) →
      expander.expandInto files task report = expander.blocked report left
        (.createDirectory expander.config.outputRoot fault.message)) ∧
    (∀ entry ∈ (Report.pending task expander.config.outputRoot).entries, entry.state ≠ .aborted) ∧
    ∀ ready cause, Pass.createRoots files expander.config = (.ok (), ready) →
      (expander.expandInto files task report).result = .error cause →
      ∃ i declaration, task.declarations[i]? = some declaration ∧
        (∀ j, (expander.expand files task).report.entries[j]?.map (·.state) = some .aborted ↔
          j = i) ∧
        let before := expander.expand files (task.take i)
        before.failure = none ∧ expander.Alike before.expander ∧
        (∀ error, Verdict before.expander before.files declaration error ↔ error = cause) ∧
        ∀ fault, declaration.isContained = true →
          ¬ LacksTemplate before.files expander.config.templateRoot declaration →
          before.expander.engineText before.files declaration = .error fault →
          fault.kind = .templateNotFound → cause = .render declaration.templateKey fault := by
  refine ⟨fun fault left refused => ?_, fun made fault left created refused => ?_,
    fun entry member => ?_, fun ready cause roots failed => ?_⟩
  · exact expandInto_of_blocked (Pass.createRoots_of_templates refused) report
  · exact expandInto_of_blocked (Pass.createRoots_of_output created refused) report
  · obtain ⟨declaration, _, rfl⟩ := List.mem_map.mp member
    simp
  · have course := expander.course files task report
    generalize expander.expandInto files task report = pass at course failed
    cases course with
    | blocked refused =>
      rw [roots] at refused
      cases (Prod.mk.inj refused).1
    | finished _ reach => cases failed
    | @stopped _ done declaration rest current tree why after left log roots split reach fails =>
      cases failed
      have there : task.declarations[done.length]? = some declaration := by
        rw [split, List.getElem?_append_right (Nat.le_refl _), Nat.sub_self, List.getElem?_cons_zero]
      have less : done.length < task.directiveCount := by
        rw [← task.length_declarations]
        exact (List.getElem?_eq_some_iff.mp there).1
      have sooner : (task.take done.length).declarations = done := by
        rw [task.declarations_take, split, List.take_left]
      have aborted (j : Nat) : (expander.expand files task).report.entries[j]?.map (·.state) =
          some .aborted ↔ j = done.length := by
        obtain ⟨_, fresh⟩ := expandInto_of_failure roots split reach fails
          (.pending task expander.config.outputRoot)
        rw [expand, fresh]
        exact Report.pending_aborted_iff less j
      -- The verdict is given where the pass over the directives before this one has come to.
      obtain ⟨went, comesTo, leaves⟩ := expand_of_reach roots (sooner.symm ▸ reach)
      have alike : expander.Alike current := ⟨reach.alike.engine, reach.alike.config⟩
      have verdict (error : Error) : Verdict current tree declaration error ↔ error = cause := by
        rw [reach.backed.verdict_iff (alike.engine ▸ finds), fails]
        simp [eq_comm]
      refine ⟨done.length, declaration, there, aborted, ?_⟩
      dsimp only
      rw [comesTo, leaves]
      refine ⟨went, alike, verdict, fun fault contained template failed kind => ?_⟩
      rw [← alike.config] at template
      exact ((verdict _).mp (.render contained template failed (by simp [kind]))).symm

/-- A template of a class, and one that includes a template which does not exist. -/
def includingFiles : FileSystem where
  root := .directory [("templates", .directory [("model", .directory
    [("Class.java.ftl", .file (.text "class {{ Type }}")),
      ("Part.java.ftl", .file (.text "\x7b% include 'Missing' %\x7d"))])])]

/-- The second directive has its template, but that one includes a template which is missing. -/
theorem expand_verdict_included :
    let task : Task := ⟨[⟨"model", [⟨"A", .single .int, "Class"⟩, ⟨"B", .single .int, "Part"⟩]⟩]⟩
    let cause : Error := .render "model/Part.java.ftl"
      ⟨.templateNotFound, none, some ⟨"model/Part.java.ftl", 1⟩⟩
    let before := sampleExpander.expand includingFiles (task.take 1)
    (sampleExpander.expand includingFiles task).result = .error cause ∧ before.failure = none ∧
      ∀ error, Verdict before.expander before.files ⟨"model", ⟨"B", .single .int, "Part"⟩⟩ error ↔
        error = cause := by
  intro task cause before
  have created : (Pass.createRoots includingFiles sampleExpander.config).1 = .ok () := by
    decide +kernel
  obtain ⟨stops, aborted⟩ : (sampleExpander.expand includingFiles task).failure = some cause ∧
      (sampleExpander.expand includingFiles task).report.entries[1]?.map (·.state) =
        some .aborted := by
    decide +kernel
  have failed := Pass.result_eq_error.mpr stops
  obtain ⟨_, _, _, verdict⟩ := expand_verdict sampleExpander includingFiles task
    (.pending task sampleExpander.config.outputRoot) Template.engine_findsSources
  obtain ⟨i, declaration, there, only, went, _, holds, _⟩ :=
    verdict _ cause (Pass.createRoots_of_fst created) failed
  obtain rfl : 1 = i := (only 1).mp aborted
  obtain rfl : declaration = ⟨"model", ⟨"B", .single .int, "Part"⟩⟩ := (Option.some.inj there).symm
  exact ⟨failed, went, holds⟩

end Expander

end Stencil.Expansion
