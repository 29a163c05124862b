import Stencil.Proofs.EarlierPasses
import Stencil.Proofs.SettledOutputs

namespace Stencil.Expansion

variable {declaration : Declaration} {root : Path} {text : String}
  {small big after : FileSystem .linkFree} {made written : Location → Prop}

/-- What could be created for an output in the second one of two trees can be created in the first
one, which may lack some of its directories. -/
theorem createDirectories_restored (contained : declaration.isContained = true)
    (growth : Growth small big made written) (notMade : ¬ made (small.place root))
    (leads : small.follow (small.start root) root.stem = .ok (small.place root))
    (created : big.createDirectories (root.join declaration.directory) = (.ok (), after)) :
    ∃ less, small.createDirectories (root.join declaration.directory) = (.ok (), less) ∧
      Growth less after made written := by
  have ordinary : ∀ name ∈ declaration.segments, name ≠ "" ∧ name ≠ "." ∧ name ≠ ".." :=
    fun name member => names_ordinary contained (List.mem_append_left _ member)
  have clean := (FileSystem.createDirectories_ok created
    (Declaration.directory_join_ne_empty contained root)).1
  have bigLeads := growth.follow leads
  rw [← growth.start] at bigLeads
  rw [createDirectories_of_root contained clean bigLeads] at created
  rw [createDirectories_of_root contained clean leads]
  have opens : small.item? (small.place root) = some .directory :=
    growth.directory_before (FileSystem.createFrom_ok_start created) fun _ => notMade
  refine growth.createFrom opens (fun _ _ => ?_) created
  rw [Location.foldl_advance_names _ ordinary]
  exact .names _ declaration.segments_ne_nil ordinary

theorem write_restored (contained : declaration.isContained = true) {less bigMade : FileSystem .linkFree}
    (growth : Growth less bigMade made written)
    (created : small.createDirectories (root.join declaration.directory) = (.ok (), less))
    (bigCreated : big.createDirectories (root.join declaration.directory) = (.ok (), bigMade))
    (bigWritten : bigMade.write (declaration.outputFile root) (.text text) = .ok after) :
    ∃ last, less.write (declaration.outputFile root) (.text text) = .ok last := by
  obtain ⟨bigLeads, bigOpens⟩ := directory_created contained bigCreated
  rw [FileSystem.write_eq] at bigWritten
  cases aimed : bigMade.target (declaration.outputFile root) with
  | error fault =>
    rw [aimed] at bigWritten
    cases bigWritten
  | ok location =>
    obtain ⟨clean, _, rfl, closed, short⟩ :=
      FileSystem.target_ok aimed (Declaration.outputFile_pieces contained root)
        (Declaration.fileName_ordinary contained).1.ordinary bigLeads bigOpens (.of_linkFree _ _)
    rw [growth.place] at closed
    exact write_of_free contained created clean short
      (fun isDirectory => closed.notDirectory (growth.directory isDirectory)) text

/-- What is stored in the second one of two trees can be stored in the first one, and then both have
it, and all directories on the way to it. -/
theorem store_restored (contained : declaration.isContained = true)
    (growth : Growth small big made written) (notMade : ¬ made (small.place root))
    (leads : small.follow (small.start root) root.stem = .ok (small.place root))
    (stored : store big (declaration.outputFile root) text = (.ok (), after)) :
    ∃ less, store small (declaration.outputFile root) text = (.ok (), less) ∧
      Growth less after made
        (fun location => written location ∧
          location ≠ small.place (declaration.outputFile root)) ∧
      ∀ location, OnWay (small.place root) declaration location →
        less.item? location = some .directory := by
  rcases store_cases contained big root text with ⟨_, _, _, whole⟩ | ⟨_, _, _, _, whole⟩ |
    ⟨bigMade, last, bigCreated, bigWritten, whole⟩
  · simp [whole] at stored
  · simp [whole] at stored
  rw [whole, Prod.mk.injEq] at stored
  obtain ⟨_, rfl⟩ := stored
  obtain ⟨less, created, growthMade⟩ := createDirectories_restored contained growth notMade leads
    bigCreated
  obtain ⟨after, wrote⟩ := write_restored contained growthMade created bigCreated bigWritten
  obtain ⟨stored, _⟩ := stored_of_write contained created wrote
  obtain ⟨bigStored, _⟩ := stored_of_write contained bigCreated bigWritten
  have creates := createDirectories_onWay contained leads (.of_linkFree small _)
  rw [created] at creates
  rw [creates.place] at stored
  rw [growthMade.place, creates.place] at bigStored
  refine ⟨after, store_of_write contained created wrote, ?_, ?_⟩
  · refine growthMade.settle _ stored.workingDirectory bigStored.workingDirectory ?_ ?_ ?_
    · rw [stored.item, bigStored.item, if_pos rfl, if_pos rfl]
    · intro other elsewhere
      rw [stored.item, if_neg elsewhere]
    · intro other elsewhere
      rw [bigStored.item, if_neg elsewhere]
  · rintro location ⟨above, _, ⟨below, split⟩, rfl⟩
    obtain ⟨_, opens⟩ := directory_created contained created
    rw [creates.place, ← split, ← List.append_assoc] at opens
    exact stored.growth.directory (FileSystem.item?_above opens)

/-- Where an output is there already, so are its directories. -/
theorem isDirectory_of_output (contained : declaration.isContained = true) {files : FileSystem .linkFree}
    (held : files.isFile (declaration.outputFile root) = true) :
    files.isDirectory (root.join declaration.directory) = true := by
  have start : files.start (root.join declaration.directory) =
      files.start (declaration.outputFile root) := by
    rw [directory_start contained, Declaration.start_outputFile contained]
  exact FileSystem.isDirectory_of_isFile held (Declaration.outputFile_pieces contained root) start
    (Declaration.directory_join_ne_empty contained root)

/-- It can then be stored once more, and nothing changes but its content. -/
theorem store_again (contained : declaration.isContained = true) {files : FileSystem .linkFree}
    (held : files.isFile (declaration.outputFile root) = true) (text : String) :
    ∃ after, store files (declaration.outputFile root) text = (.ok (), after) ∧
      Stored files after (files.place (declaration.outputFile root)) (.text text) := by
  have created := FileSystem.createDirectories_of_isDirectory (isDirectory_of_output contained held)
  obtain ⟨location, aims⟩ := FileSystem.target_of_isFile held
  have writes := FileSystem.write_eq files (declaration.outputFile root) (.text text)
  rw [aims, Except.map] at writes
  exact ⟨_, store_of_write contained created writes, (stored_of_write contained created writes).1⟩

variable {config : Config} {task : Task} {fresh files ready : FileSystem .linkFree}

theorem templateRoot_restored {between : FileSystem .linkFree} (apart : config.Apart fresh)
    (growth : Growth fresh files
      (fun location => config.Makes fresh task location ∧
        ¬ fresh.place config.templateRoot <+: location)
      (task.Writes fresh config.outputRoot))
    (created : files.createDirectories config.templateRoot = (.ok (), between)) :
    ∃ less, fresh.createDirectories config.templateRoot = (.ok (), less) ∧
      Growth less between (config.Makes fresh task) (task.Writes fresh config.outputRoot) := by
  have opens (named : config.templateRoot.spelling ≠ "") :
      fresh.item? (fresh.start config.templateRoot) = some .directory := by
    have there := FileSystem.createDirectories_ok_start created named
    rw [growth.start] at there
    refine growth.directory_before there fun _ made => ?_
    rcases made.1 with ⟨_, beyond⟩ | ⟨_, _, empty | beyond⟩
    · exact absurd rfl beyond
    · exact absurd empty named
    · exact absurd rfl beyond
  have ends : EndsOpen fresh files (fresh.start config.templateRoot) config.templateRoot.pieces := by
    intro missing there
    rcases growth.item (fresh.place config.templateRoot) with same | ⟨_, _, ⟨_, beyond⟩⟩ |
      ⟨_, _, writes⟩
    · exact absurd (same.trans missing) there
    · exact absurd (List.prefix_refl _) beyond
    · exact absurd writes.below.1 apart.2
  obtain ⟨less, freshCreated, growthLess⟩ := growth.createDirectories opens ends created
  exact ⟨less, freshCreated, growthLess.mono (fun _ makes => makes.1) fun _ writes => writes⟩

theorem outputRoot_restored {between less : FileSystem .linkFree}
    (first : fresh.createDirectories config.templateRoot = (.ok (), less))
    (growth : Growth less between (config.Makes less task) (task.Writes less config.outputRoot))
    (created : between.createDirectories config.outputRoot = (.ok (), ready)) :
    ∃ freshReady, less.createDirectories config.outputRoot = (.ok (), freshReady) ∧
      Growth freshReady ready (config.Makes less task) (task.Writes less config.outputRoot) := by
  -- What the template root needs is there, so all that can be missing is for the output root's sake.
  have needed {location : Location} (makes : config.Makes less task location)
      (free : less.item? location = none) :
      (Opens (less.start config.outputRoot) config.outputRoot.pieces location ∨
        task.Needs less config.outputRoot location) ∧
      location ≠ less.start config.outputRoot := by
    rcases makes with ⟨opened, _⟩ | ⟨made, beyond, _⟩
    · rw [FileSystem.createDirectories_opened first opened] at free
      cases free
    · exact ⟨made, beyond⟩
  have opens (named : config.outputRoot.spelling ≠ "") :
      less.item? (less.start config.outputRoot) = some .directory := by
    have there := FileSystem.createDirectories_ok_start created named
    rw [growth.start] at there
    exact growth.directory_before there fun free makes => (needed makes free).2 rfl
  have ends : EndsOpen less between (less.start config.outputRoot) config.outputRoot.pieces := by
    intro missing there
    rcases growth.item (less.place config.outputRoot) with same | ⟨free, _, makes⟩ | ⟨_, _, writes⟩
    · exact absurd (same.trans missing) there
    · rcases (needed makes free).1 with opened | made
      · exact opened
      · exact absurd rfl made.below.2
    · exact absurd rfl writes.below.2
  exact growth.createDirectories opens ends created

/-- The roots that can be created in the second one of two trees can be created in the first one, and
then the first one lacks no more than what is needed for outputs. -/
theorem createRoots_restored (apart : config.Apart fresh)
    (growth : Growth fresh files
      (fun location => config.Makes fresh task location ∧
        ¬ fresh.place config.templateRoot <+: location)
      (task.Writes fresh config.outputRoot))
    (roots : Pass.createRoots files config = (.ok (), ready)) :
    ∃ freshReady, Pass.createRoots fresh config = (.ok (), freshReady) ∧
      Growth freshReady ready (task.Needs freshReady config.outputRoot)
        (task.Writes freshReady config.outputRoot) := by
  obtain ⟨between, first, second⟩ := Pass.createRoots_eq_ok.mp roots
  obtain ⟨less, freshFirst, growthLess⟩ := templateRoot_restored apart growth first
  have kept := (fresh.createDirectories_growth config.templateRoot).workingDirectory
  rw [freshFirst] at kept
  rw [← Config.makes_congr kept, ← writes_congr kept] at growthLess
  obtain ⟨freshReady, freshSecond, growthReady⟩ := outputRoot_restored freshFirst growthLess second
  have keptLess := (less.createDirectories_growth config.outputRoot).workingDirectory
  rw [freshSecond] at keptLess
  rw [← Config.makes_congr keptLess, ← writes_congr keptLess] at growthReady
  have freshRoots : Pass.createRoots fresh config = (.ok (), freshReady) :=
    Pass.createRoots_eq_ok.mpr ⟨less, freshFirst, freshSecond⟩
  have there := rootsThere freshRoots
  refine ⟨freshReady, freshRoots, growthReady.narrow.mono ?_ fun _ writes => writes⟩
  rintro location ⟨⟨opened, _⟩ | ⟨opened | needed, _⟩, free⟩
  · rw [there.templates location opened] at free
    cases free
  · rw [there.output location opened] at free
    cases free
  · exact needed

/-- Roots that were created are there when they are created again. -/
theorem createRoots_again {later : FileSystem .linkFree} {made written : Location → Prop}
    (roots : Pass.createRoots files config = (.ok (), ready)) (growth : Growth ready later made written) :
    Pass.createRoots later config = (.ok (), later) := by
  obtain ⟨between, first, second⟩ := Pass.createRoots_eq_ok.mp roots
  have creates := between.createDirectories_growth config.outputRoot
  rw [second] at creates
  have wholeGrowth : Growth between later (fun _ => True) (fun _ => True) :=
    (creates.mono (fun _ _ => trivial) fun _ _ => trivial).trans
      (growth.mono (fun _ _ => trivial) fun _ _ => trivial)
  exact Pass.createRoots_eq_ok.mpr ⟨later, FileSystem.createDirectories_again first wholeGrowth,
    FileSystem.createDirectories_again second growth⟩

end Stencil.Expansion
