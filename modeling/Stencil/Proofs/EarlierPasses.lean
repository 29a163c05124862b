import Stencil.Proofs.Containment
import Stencil.Proofs.CreatedDirectories
import Stencil.Proofs.ExpanderHistory
import Stencil.Proofs.Lockstep

namespace Stencil

/-- The places at which a task needs directories for its outputs. -/
def Task.Needs (task : Task) (files : FileSystem .linkFree) (root : Path) (location : Location) : Prop :=
  ∃ declaration ∈ task.declarations, declaration.isContained = true ∧
    Expansion.OnWay (files.place root) declaration location

/-- The places at which a task puts its outputs. -/
def Task.Writes (task : Task) (files : FileSystem .linkFree) (root : Path) (location : Location) : Prop :=
  ∃ declaration ∈ task.declarations, declaration.isContained = true ∧
    location = files.place (declaration.outputFile root)

namespace Task

variable {task : Task} {files : FileSystem .linkFree} {root : Path} {location : Location}

theorem Needs.below (needed : task.Needs files root location) :
    files.place root <+: location ∧ location ≠ files.place root := by
  obtain ⟨_, _, _, above, notNil, _, rfl⟩ := needed
  exact ⟨List.prefix_append _ _, fun same => notNil (List.append_right_eq_self.mp same)⟩

theorem Writes.below (writes : task.Writes files root location) :
    files.place root <+: location ∧ location ≠ files.place root := by
  obtain ⟨declaration, _, contained, rfl⟩ := writes
  rw [Declaration.place_outputFile contained, List.append_assoc]
  exact ⟨List.prefix_append _ _, fun same => by simp at same⟩

end Task

namespace Expansion

variable {τ : Type}

/-- The places at which passes create directories. Where a path starts from there has to be one
already, and the template root comes first. -/
def Config.Makes (config : Config) (files : FileSystem .linkFree) (task : Task)
    (location : Location) : Prop :=
  (Opens (files.start config.templateRoot) config.templateRoot.pieces location ∧
      location ≠ files.start config.templateRoot) ∨
    (Opens (files.start config.outputRoot) config.outputRoot.pieces location ∨
        task.Needs files config.outputRoot location) ∧
      location ≠ files.start config.outputRoot ∧
      (config.templateRoot.spelling = "" ∨ location ≠ files.start config.templateRoot)

variable {expander : Expander τ} {files other ready : FileSystem .linkFree} {task : Task} {config : Config}

theorem Config.makes_congr (kept : other.workingDirectory = files.workingDirectory) :
    config.Makes other task = config.Makes files task := by
  unfold Makes Task.Needs
  rw [FileSystem.start_congr kept, FileSystem.start_congr kept, FileSystem.place_congr kept]

theorem writes_congr {root : Path} (kept : other.workingDirectory = files.workingDirectory) :
    task.Writes other root = task.Writes files root := by
  unfold Task.Writes
  simp only [FileSystem.place_congr kept]

/-- Of the roots that were created, all that can be created is there, and so is what they start
from. -/
structure RootsThere (config : Config) (ready : FileSystem .linkFree) : Prop where
  templates : ∀ location, Opens (ready.start config.templateRoot) config.templateRoot.pieces location →
    ready.item? location = some .directory
  templateStart : config.templateRoot.spelling ≠ "" →
    ready.item? (ready.start config.templateRoot) = some .directory
  output : ∀ location, Opens (ready.start config.outputRoot) config.outputRoot.pieces location →
    ready.item? location = some .directory
  outputStart : config.outputRoot.spelling ≠ "" →
    ready.item? (ready.start config.outputRoot) = some .directory

theorem rootsThere (roots : Pass.createRoots files config = (.ok (), ready)) :
    RootsThere config ready := by
  obtain ⟨between, first, second⟩ := Pass.createRoots_eq_ok.mp roots
  have growth := between.createDirectories_growth config.outputRoot
  rw [second] at growth
  refine ⟨fun location opened => ?_, fun named => ?_, fun location opened => ?_, fun named => ?_⟩
  · rw [growth.start] at opened
    exact growth.directory (FileSystem.createDirectories_opened first opened)
  · rw [growth.start]
    exact growth.directory (FileSystem.createDirectories_visits first named (.start _ _))
  · exact FileSystem.createDirectories_opened second opened
  · exact FileSystem.createDirectories_visits second named (.start _ _)

theorem createRoots_makes (files : FileSystem .linkFree) (config : Config) (task : Task) :
    Growth files (Pass.createRoots files config).2 (config.Makes files task) fun _ => False := by
  have first := files.createDirectories_opens config.templateRoot
  rw [← createDirectories_snd] at first
  unfold Pass.createRoots
  rcases created : createDirectories files config.templateRoot with ⟨result, between⟩
  rw [created] at first
  cases result with
  | error cause => exact first.mono (fun _ made => .inl made) fun _ nothing => nothing
  | ok done =>
    have second := (between.createDirectories_opens config.outputRoot).narrow
    rw [← createDirectories_snd] at second
    refine (first.mono (fun _ made => .inl made) fun _ nothing => nothing).trans
      (second.mono ?_ fun _ nothing => nothing)
    rintro location ⟨⟨opened, beyond⟩, free⟩
    rw [first.start] at opened beyond
    refine .inr ⟨.inl opened, beyond, ?_⟩
    by_cases empty : config.templateRoot.spelling = ""
    · exact .inl empty
    · refine .inr ?_
      rintro rfl
      have there := FileSystem.createDirectories_visits (createDirectories_eq_ok.mp created) empty
        (.start _ _)
      rw [first.start, free] at there
      cases there

/-- What is missing once the roots are there, and is needed for outputs, is none of the places from
which the roots start. -/
theorem RootsThere.makes (there : RootsThere config ready) {location : Location}
    (needed : task.Needs ready config.outputRoot location) (free : ready.item? location = none) :
    config.Makes ready task location := by
  refine .inr ⟨.inr needed, ?_, ?_⟩
  · by_cases empty : config.outputRoot.spelling = ""
    · have place : ready.place config.outputRoot = ready.start config.outputRoot := by
        simp [FileSystem.place, Path.pieces, empty, Text.pieces, Text.cut, Location.advance_empty]
      rw [← place]
      exact needed.below.2
    · rintro rfl
      rw [there.outputStart empty] at free
      cases free
  · by_cases empty : config.templateRoot.spelling = ""
    · exact .inl empty
    · refine .inr ?_
      rintro rfl
      rw [there.templateStart empty] at free
      cases free

/-- What directives do from where the roots are, also when the last of them fails. -/
theorem Course.growth_below {report : Report} {pass : Pass τ .linkFree}
    (course : Course expander files task report pass)
    (roots : Pass.createRoots files expander.config = (.ok (), ready)) :
    Growth ready pass.files (task.Needs ready expander.config.outputRoot)
      (task.Writes ready expander.config.outputRoot) := by
  have leads := (Pass.createRoots_ok roots).2
  cases course with
  | blocked blocked =>
    rw [roots] at blocked
    cases (Prod.mk.inj blocked).1
  | @finished other current tree log otherRoots reach =>
    rw [roots, Prod.mk.injEq] at otherRoots
    obtain ⟨_, rfl⟩ := otherRoots
    exact reach.growth_below leads
  | @stopped other done declaration rest current tree cause after left log otherRoots split reach fails =>
    rw [roots, Prod.mk.injEq] at otherRoots
    obtain ⟨_, rfl⟩ := otherRoots
    have first : Growth ready tree _ _ := reach.growth_below leads
    have leadsNow : tree.follow (tree.start current.config.outputRoot)
        current.config.outputRoot.stem = .ok (tree.place current.config.outputRoot) := by
      rw [reach.alike.config]
      exact first.leads leads
    have last := current.expandDirective_growth_from declaration leadsNow (.of_linkFree tree _)
    rw [fails, reach.alike.config, first.place] at last
    have member : declaration ∈ task.declarations := by simp [split]
    have earlier : ∀ other ∈ done, other ∈ task.declarations := fun other within => by
      simp [split, within]
    refine (first.mono ?_ ?_).trans (last.mono ?_ ?_)
    · rintro location ⟨other, within, needed⟩
      exact ⟨other, earlier other within, needed⟩
    · rintro location ⟨other, within, written⟩
      exact ⟨other, earlier other within, written⟩
    · exact fun location needed => ⟨declaration, member, needed⟩
    · rintro location ⟨contained, here⟩
      rw [← Declaration.place_outputFile contained] at here
      exact ⟨declaration, member, contained, here⟩

/-- What a pass does to the files, in terms of places that no pass and no edit can move. -/
theorem Expander.expandInto_makes (expander : Expander τ) (files : FileSystem .linkFree) (task : Task)
    (report : Report) :
    Growth files (expander.expandInto files task report).files (expander.config.Makes files task)
      (task.Writes files expander.config.outputRoot) := by
  have course := expander.course files task report
  have first := createRoots_makes files expander.config task
  match roots : Pass.createRoots files expander.config with
  | (.error cause, tree) =>
    rw [expandInto_of_blocked roots]
    rw [roots] at first
    exact first.mono (fun _ made => made) fun _ nothing => nothing.elim
  | (.ok (), ready) =>
    rw [roots] at first
    simp only at first
    have second := (course.growth_below roots).narrow
    rw [writes_congr first.workingDirectory] at second
    refine (first.mono (fun _ made => made) fun _ nothing => nothing.elim).trans
      (second.mono ?_ fun _ written => written)
    rintro location ⟨needed, free⟩
    rw [← Config.makes_congr first.workingDirectory]
    exact (rootsThere roots).makes needed free

/-- As `Growth`, of all that is not at or below a location. -/
structure GrowthBeyond (base : Location) (before after : FileSystem .linkFree)
    (made written : Location → Prop) : Prop where
  workingDirectory : after.workingDirectory = before.workingDirectory
  item : ∀ location, ¬ base <+: location →
    Item.Grown (before.item? location) (after.item? location) (made location) (written location)

/-- The trees that come from a first one by passes of one task, however each of them ends, and by
edits at the template root and below it. -/
inductive Earlier (expander : Expander τ) (task : Task) (start : FileSystem .linkFree) :
    FileSystem .linkFree → Prop
  | start : Earlier expander task start start
  | edited {files edited} : Earlier expander task start files →
      edited.workingDirectory = files.workingDirectory →
      (∀ location, ¬ files.place expander.config.templateRoot <+: location →
        edited.item? location = files.item? location) →
      Earlier expander task start edited
  | passed {files worker report} : Earlier expander task start files → expander.Alike worker →
      Earlier expander task start (worker.expandInto files task report).files

/-- A node that is put in a directory, at the template root or below it, is such an edit. -/
theorem Earlier.put {start : FileSystem .linkFree} (earlier : Earlier expander task start files)
    {above : Location} (name : String) (new : Node .linkFree) (opens : files.item? above = some .directory)
    (below : files.place expander.config.templateRoot <+: above ++ [name]) :
    Earlier expander task start (files.put (above ++ [name]) new) :=
  .edited earlier rfl fun _ beyond =>
    FileSystem.item?_put_beside new opens fun within => beyond (below.trans within)

/-- Whatever earlier passes have left is what a pass makes and writes. -/
theorem Earlier.growth {start : FileSystem .linkFree} (earlier : Earlier expander task start files) :
    GrowthBeyond (start.place expander.config.templateRoot) start files
      (expander.config.Makes start task) (task.Writes start expander.config.outputRoot) := by
  induction earlier with
  | start => exact ⟨rfl, fun _ _ => .inl rfl⟩
  | edited previous kept same ih =>
    refine ⟨kept.trans ih.workingDirectory, fun location beyond => ?_⟩
    rw [FileSystem.place_congr ih.workingDirectory] at same
    rw [same location beyond]
    exact ih.item location beyond
  | @passed files worker report previous alike ih =>
    have last := worker.expandInto_makes files task report
    rw [alike.config, Config.makes_congr ih.workingDirectory, writes_congr ih.workingDirectory] at last
    exact ⟨last.workingDirectory.trans ih.workingDirectory, fun location beyond =>
      (ih.item location beyond).trans (last.item location)⟩

/-- A tree that has the templates of the last one of two trees, and otherwise at each location what
the one or the other of them has, such as all outputs as they were in the first one. -/
structure Restored (config : Config) (start files fresh : FileSystem .linkFree) : Prop where
  workingDirectory : fresh.workingDirectory = start.workingDirectory
  templates : ∀ location, start.place config.templateRoot <+: location →
    fresh.item? location = files.item? location
  others : ∀ location, fresh.item? location = start.item? location ∨
    fresh.item? location = files.item? location

/-- Such as the first tree with the templates of the last one in the place of its own. -/
theorem Restored.of_put {start : FileSystem .linkFree} {above : Location} {name : String}
    {templates : Node .linkFree}
    (place : start.place config.templateRoot = above ++ [name])
    (opens : start.item? above = some .directory)
    (held : files.get? (above ++ [name]) = some templates) :
    Restored config start files (start.put (above ++ [name]) templates) := by
  have now (below : Location) : (start.put (above ++ [name]) templates).item?
      (above ++ [name] ++ below) = files.item? (above ++ [name] ++ below) := by
    have split : files.get? (above ++ [name] ++ below) =
        (files.get? (above ++ [name])).bind (·.get? below) := Node.get?_append _ _ _
    rw [FileSystem.item?_put_below templates opens, FileSystem.item?, split, held, Option.bind_some]
  refine ⟨rfl, fun location within => ?_, fun location => ?_⟩
  · rw [place] at within
    obtain ⟨below, rfl⟩ := within
    exact now below
  · by_cases within : above ++ [name] <+: location
    · obtain ⟨below, rfl⟩ := within
      exact .inr (now below)
    · exact .inl (FileSystem.item?_put_beside templates opens within)

theorem Restored.growth {start fresh : FileSystem .linkFree} {made written : Location → Prop}
    (restored : Restored config start files fresh)
    (growth : GrowthBeyond (start.place config.templateRoot) start files made written) :
    Growth fresh files
      (fun location => made location ∧ ¬ start.place config.templateRoot <+: location) written := by
  refine ⟨growth.workingDirectory.trans restored.workingDirectory.symm, fun location => ?_⟩
  by_cases below : start.place config.templateRoot <+: location
  · exact .inl (restored.templates location below).symm
  · rcases restored.others location with before | now
    · rw [before]
      rcases growth.item location below with same | ⟨absent, present, isMade⟩ | isWritten
      · exact .inl same
      · exact .inr (.inl ⟨absent, present, isMade, below⟩)
      · exact .inr (.inr isWritten)
    · exact .inl now.symm

end Expansion

end Stencil
