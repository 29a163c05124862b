import Stencil.Proofs.RequestedTemplates
import Stencil.Proofs.TreeShapes

namespace Stencil.Expansion

variable {τ α : Type} {declaration : Declaration} {files other : FileSystem .linkFree} {root : Path}
  {base : Location}

theorem createDirectories_like (contained : declaration.isContained = true)
    (like : LikeBelow files other base)
    (leads : files.follow (files.start root) root.stem = .ok base)
    (otherLeads : other.follow (other.start root) root.stem = .ok base) :
    (other.createDirectories (root.join declaration.directory)).1 =
        (files.createDirectories (root.join declaration.directory)).1 ∧
      LikeBelow (files.createDirectories (root.join declaration.directory)).2
        (other.createDirectories (root.join declaration.directory)).2 base ∧
      ChangedTogether files other (files.createDirectories (root.join declaration.directory)).2
        (other.createDirectories (root.join declaration.directory)).2 := by
  have keeps : base.Keeps declaration.segments :=
    .inl fun up => (names_ordinary contained (List.mem_append_left _ up)).2.2 rfl
  have growth := createDirectories_onWay contained leads (.of_linkFree _ _)
  have otherGrowth := createDirectories_onWay contained otherLeads (.of_linkFree _ _)
  rw [like.start] at otherLeads
  rw [← directory_start contained] at leads otherLeads
  obtain ⟨same, alike⟩ :=
    like.createDirectories (directory_pieces_join contained root) leads otherLeads keeps
  exact ⟨same, alike, .of_growth alike growth (fun _ onWay => onWay.below) otherGrowth
    fun _ onWay => onWay.below⟩

/-- In directories that were created in both trees, a text is written in both or in neither. -/
theorem write_like (contained : declaration.isContained = true) (text : String)
    {made otherMade : FileSystem .linkFree} (like : LikeBelow made otherMade (made.place root))
    (leads : made.follow (made.start root) root.stem = .ok (made.place root))
    (otherLeads : otherMade.follow (otherMade.start root) root.stem = .ok (made.place root)) :
    (∃ fault, made.write (declaration.outputFile root) (.text text) = .error fault ∧
      otherMade.write (declaration.outputFile root) (.text text) = .error fault) ∨
    ∃ after otherAfter, made.write (declaration.outputFile root) (.text text) = .ok after ∧
      otherMade.write (declaration.outputFile root) (.text text) = .ok otherAfter := by
  have spelled := Declaration.outputFile_pieces contained root
  rw [directory_pieces_join contained] at spelled
  rw [like.start] at otherLeads
  rw [← Declaration.start_outputFile contained] at leads otherLeads
  exact FileSystem.write_of_target _ <| like.target spelled leads otherLeads
    (.inl fun up => (names_ordinary contained up).2.2 rfl)

/-- In trees of one shape below the output root, a text is stored in both or in neither, and for the
same reason. -/
theorem store_like (contained : declaration.isContained = true) (text : String)
    (like : LikeBelow files other (files.place root))
    (leads : files.follow (files.start root) root.stem = .ok (files.place root))
    (otherLeads : other.follow (other.start root) root.stem = .ok (files.place root)) :
    (store other (declaration.outputFile root) text).1 =
        (store files (declaration.outputFile root) text).1 ∧
      ChangedTogether files other (store files (declaration.outputFile root) text).2
        (store other (declaration.outputFile root) text).2 := by
  obtain ⟨same, likeMade, together⟩ := createDirectories_like contained like leads otherLeads
  have growth := createDirectories_onWay contained leads (.of_linkFree _ _)
  have otherGrowth := createDirectories_onWay contained otherLeads (.of_linkFree _ _)
  rw [store_eq contained, store_eq contained]
  rcases created : files.createDirectories (root.join declaration.directory) with ⟨result, made⟩
  rcases otherCreated : other.createDirectories (root.join declaration.directory) with
    ⟨otherResult, otherMade⟩
  rw [created, otherCreated] at same likeMade together
  rw [created] at growth
  rw [otherCreated] at otherGrowth
  simp only at same likeMade together growth otherGrowth
  subst same
  cases otherResult with
  | error fault => exact ⟨rfl, together⟩
  | ok done =>
    rw [← growth.place] at likeMade leads otherLeads
    rw [← growth.start] at leads
    rw [← otherGrowth.start] at otherLeads
    rcases write_like contained text likeMade (growth.follow leads) (otherGrowth.follow otherLeads) with
      ⟨fault, written, otherWritten⟩ | ⟨after, otherAfter, written, otherWritten⟩
    · simp only [written, otherWritten]
      exact ⟨trivial, together⟩
    · have stored := (stored_of_write contained created written).1
      have otherStored := (stored_of_write contained otherCreated otherWritten).1
      rw [likeMade.place] at otherStored
      simp only [written, otherWritten]
      exact ⟨trivial, together.trans (likeMade.stored stored otherStored).2⟩

namespace Expander

variable {expander : Expander τ}

theorem fetch_congr {name : String} (same : expander.load other name = expander.load files name) :
    expander.fetch other name = expander.fetch files name := by
  unfold fetch
  rw [same]

/-- A rendering runs alike in two trees from which the templates it asks for are loaded alike. -/
theorem run_congr {rendering : Rendering τ α}
    (same : ∀ name ∈ requests files rendering expander,
      expander.load other name = expander.load files name) :
    run other rendering expander = run files rendering expander := by
  induction rendering generalizing expander with
  | done result => rfl
  | load name resume ih =>
    have first := fetch_congr (same name List.mem_cons_self)
    simp only [run, first]
    refine ih _ fun sought member => ?_
    rw [(expander.fetch_alike files name).load, (expander.fetch_alike files name).load]
    exact same sought (List.mem_cons_of_mem _ member)

/-- It also asks for the same names in both. -/
theorem requests_congr {rendering : Rendering τ α}
    (same : ∀ name ∈ requests files rendering expander,
      expander.load other name = expander.load files name) :
    requests other rendering expander = requests files rendering expander := by
  induction rendering generalizing expander with
  | done result => rfl
  | load name resume ih =>
    have first := fetch_congr (same name List.mem_cons_self)
    simp only [requests, first]
    refine congrArg (name :: ·) (ih _ fun sought member => ?_)
    rw [(expander.fetch_alike files name).load, (expander.fetch_alike files name).load]
    exact same sought (List.mem_cons_of_mem _ member)

theorem render_congr (contained : declaration.isContained = true)
    (present : other.isFile (declaration.templateFile expander.config.templateRoot) =
      files.isFile (declaration.templateFile expander.config.templateRoot))
    (same : ∀ name ∈ expander.directiveRequests files declaration,
      expander.load other name = expander.load files name) :
    expander.render other declaration = expander.render files declaration := by
  unfold directiveRequests at same
  rw [render_eq, render_eq, present]
  split
  · next there =>
    rw [if_pos ⟨contained, there⟩] at same
    exact run_congr same
  · rfl

theorem directiveRequests_congr
    (present : other.isFile (declaration.templateFile expander.config.templateRoot) =
      files.isFile (declaration.templateFile expander.config.templateRoot))
    (same : ∀ name ∈ expander.directiveRequests files declaration,
      expander.load other name = expander.load files name) :
    expander.directiveRequests other declaration = expander.directiveRequests files declaration := by
  unfold directiveRequests at same ⊢
  rw [present]
  split
  · next there =>
    rw [if_pos there] at same
    exact requests_congr same
  · rfl

theorem expandDirective_like
    (like : LikeBelow files other (files.place expander.config.outputRoot))
    (leads : files.follow (files.start expander.config.outputRoot) expander.config.outputRoot.stem =
      .ok (files.place expander.config.outputRoot))
    (otherLeads : other.follow (other.start expander.config.outputRoot)
      expander.config.outputRoot.stem = .ok (files.place expander.config.outputRoot))
    (renders : declaration.isContained = true →
      expander.render other declaration = expander.render files declaration) :
    (expander.expandDirective other declaration).1 = (expander.expandDirective files declaration).1 ∧
      (expander.expandDirective other declaration).2.1 =
        (expander.expandDirective files declaration).2.1 ∧
      ChangedTogether files other (expander.expandDirective files declaration).2.2
        (expander.expandDirective other declaration).2.2 := by
  unfold expandDirective
  split
  · next contained =>
    rw [renders contained]
    have alike := expander.render_alike files declaration
    match rendered : expander.render files declaration with
    | (.error cause, after) => exact ⟨rfl, rfl, .refl files other⟩
    | (.ok text, after) =>
      rw [rendered] at alike
      have config : after.config = expander.config := alike.config
      obtain ⟨same, together⟩ := store_like contained text like leads otherLeads
      simp only [config]
      rcases stored : store files (declaration.outputFile expander.config.outputRoot) text with
        ⟨ended, left⟩
      rcases otherStored : store other (declaration.outputFile expander.config.outputRoot) text with
        ⟨otherEnded, otherLeft⟩
      rw [stored, otherStored] at same together
      simp only at same together
      subst same
      cases otherEnded <;> exact ⟨rfl, rfl, together⟩
  · exact ⟨rfl, rfl, .refl files other⟩

end Expander

variable {expander current : Expander τ} {tree ready otherReady : FileSystem .linkFree}
  {done declarations : List Declaration} {task : Task}

/-- What directives do to the files from where the output root is. -/
theorem Reach.growth_below (reach : Reach expander files done current tree)
    (leads : files.follow (files.start expander.config.outputRoot) expander.config.outputRoot.stem =
      .ok (files.place expander.config.outputRoot)) :
    Growth files tree
      (fun location => ∃ declaration ∈ done, declaration.isContained = true ∧
        OnWay (files.place expander.config.outputRoot) declaration location)
      fun location => ∃ declaration ∈ done, declaration.isContained = true ∧
        location = files.place (declaration.outputFile expander.config.outputRoot) := by
  refine (reach.growth_from leads (.of_linkFree files _)).mono (fun _ made => made) ?_
  rintro location ⟨declaration, member, contained, here⟩
  rw [← Declaration.place_outputFile contained] at here
  exact ⟨declaration, member, contained, here⟩

/-- Directives that succeed also succeed in another tree, if a relation of the two trees that makes
one of them do so is kept by it. -/
theorem Reach.alongside (reach : Reach expander files done current tree)
    (Related : List Declaration → FileSystem .linkFree → FileSystem .linkFree → Prop)
    (begins : Related [] files other)
    (keeps : ∀ {done' declaration current tree otherTree path after written},
      done' ++ [declaration] <+: done → Reach expander files done' current tree →
      Reach expander other done' current otherTree → Related done' tree otherTree →
      current.expandDirective tree declaration = (.ok path, after, written) →
      ∃ otherWritten, current.expandDirective otherTree declaration =
          (.ok path, after, otherWritten) ∧ Related (done' ++ [declaration]) written otherWritten) :
    ∃ otherTree, Reach expander other done current otherTree ∧ Related done tree otherTree := by
  induction reach with
  | start => exact ⟨other, .start, begins⟩
  | next previous step ih =>
    obtain ⟨otherTree, otherReach, related⟩ := ih fun within =>
      keeps (within.trans (List.prefix_append _ _))
    obtain ⟨otherWritten, otherStep, later⟩ :=
      keeps (List.prefix_refl _) previous otherReach related step
    exact ⟨otherWritten, .next otherReach otherStep, later⟩

/-- At every directive that two passes come to with the same expander, and with trees that have
changed together, it is rendered alike in both. -/
def RendersAlike (expander : Expander τ) (files other : FileSystem .linkFree)
    (declarations : List Declaration) : Prop :=
  ∀ {done declaration current tree otherTree}, done ++ [declaration] <+: declarations →
    Reach expander files done current tree → Reach expander other done current otherTree →
    ChangedTogether files other tree otherTree → declaration.isContained = true →
    current.render otherTree declaration = current.render tree declaration

/-- Two trees with the output root in one place, and of one shape below it. -/
structure Beside (root : Path) (files other : FileSystem .linkFree) : Prop where
  like : LikeBelow files other (files.place root)
  leads : files.follow (files.start root) root.stem = .ok (files.place root)
  otherLeads : other.follow (other.start root) root.stem = .ok (files.place root)

theorem Beside.later {made otherMade written otherWritten : Location → Prop} {otherTree : FileSystem .linkFree}
    (beside : Beside root files other) (growth : Growth files tree made written)
    (otherGrowth : Growth other otherTree otherMade otherWritten)
    (together : ChangedTogether files other tree otherTree) : Beside root tree otherTree where
  like := by
    rw [growth.place]
    exact together.likeBelow beside.like growth.workingDirectory otherGrowth.workingDirectory
  leads := growth.leads beside.leads
  otherLeads := by
    rw [otherGrowth.start, growth.place]
    exact otherGrowth.follow beside.otherLeads

theorem RendersAlike.expandDirective {declaration : Declaration} {otherTree : FileSystem .linkFree}
    (renders : RendersAlike expander files other declarations)
    (beside : Beside expander.config.outputRoot files other)
    (within : done ++ [declaration] <+: declarations) (reach : Reach expander files done current tree)
    (otherReach : Reach expander other done current otherTree)
    (together : ChangedTogether files other tree otherTree) :
    (current.expandDirective otherTree declaration).1 =
        (current.expandDirective tree declaration).1 ∧
      (current.expandDirective otherTree declaration).2.1 =
        (current.expandDirective tree declaration).2.1 ∧
      ChangedTogether files other (current.expandDirective tree declaration).2.2
        (current.expandDirective otherTree declaration).2.2 := by
  have now := beside.later reach.growth otherReach.growth together
  rw [← reach.alike.config] at now
  obtain ⟨sameResult, sameExpander, changed⟩ := Expander.expandDirective_like now.like now.leads
    now.otherLeads (renders within reach otherReach together)
  exact ⟨sameResult, sameExpander, together.trans changed⟩

/-- Two passes in which every directive is rendered alike take the same course, and change their trees
together. -/
theorem RendersAlike.expandInto (renders : RendersAlike expander.clear ready otherReady task.declarations)
    (beside : Beside expander.config.outputRoot ready otherReady)
    (roots : Pass.createRoots files expander.config = (.ok (), ready))
    (otherRoots : Pass.createRoots other expander.config = (.ok (), otherReady)) (report : Report) :
    (expander.expandInto other task report).failure = (expander.expandInto files task report).failure ∧
      (expander.expandInto other task report).report = (expander.expandInto files task report).report ∧
      ChangedTogether ready otherReady (expander.expandInto files task report).files
        (expander.expandInto other task report).files := by
  have alongside {done : List Declaration} {current : Expander τ} {tree : FileSystem .linkFree}
      (within : done <+: task.declarations) (reach : Reach expander.clear ready done current tree) :
      ∃ otherTree, Reach expander.clear otherReady done current otherTree ∧
        ChangedTogether ready otherReady tree otherTree := by
    refine reach.alongside (fun _ => ChangedTogether ready otherReady) (.refl ready otherReady) ?_
    intro _ declaration current tree otherTree path after written before reach otherReach together step
    obtain ⟨sameResult, sameExpander, changed⟩ := renders.expandDirective beside
      (before.trans within) reach otherReach together
    rw [step] at sameResult sameExpander changed
    have otherStep : current.expandDirective otherTree declaration =
        (.ok path, after, (current.expandDirective otherTree declaration).2.2) :=
      Prod.ext sameResult (Prod.ext sameExpander rfl)
    exact ⟨_, otherStep, changed⟩
  rcases Reach.complete_or_first_failure expander.clear ready task.declarations with
    ⟨current, tree, reach⟩ | ⟨done, declaration, rest, current, tree, cause, after, left, split, reach, fails⟩
  · obtain ⟨otherTree, otherReach, together⟩ := alongside (List.prefix_refl _) reach
    obtain ⟨log, run⟩ := Expander.expandInto_of_reach roots reach report
    obtain ⟨otherLog, otherRun⟩ := Expander.expandInto_of_reach otherRoots otherReach report
    rw [run, otherRun]
    exact ⟨rfl, rfl, together⟩
  · have within : done ++ [declaration] <+: task.declarations := by simp [split]
    obtain ⟨otherTree, otherReach, together⟩ := alongside ((List.prefix_append _ _).trans within) reach
    obtain ⟨sameResult, sameExpander, changed⟩ := renders.expandDirective beside within reach
      otherReach together
    rw [fails] at sameResult sameExpander changed
    have otherFails : current.expandDirective otherTree declaration =
        (.error cause, after, (current.expandDirective otherTree declaration).2.2) :=
      Prod.ext sameResult (Prod.ext sameExpander rfl)
    obtain ⟨log, run⟩ := Expander.expandInto_of_failure roots split reach fails report
    obtain ⟨otherLog, otherRun⟩ := Expander.expandInto_of_failure otherRoots split otherReach
      otherFails report
    rw [run, otherRun]
    exact ⟨rfl, rfl, changed⟩

end Stencil.Expansion
