import Stencil.Proofs.FailureAtomicity
import Stencil.Proofs.Lockstep
import Stencil.Proofs.PathSpellings

namespace Stencil

namespace LikeBelow

variable {fs other : FileSystem .linkFree}

theorem isFile (like : LikeBelow fs other []) (path : Path) : other.isFile path = fs.isFile path := by
  rw [Bool.eq_iff_iff, FileSystem.isFile_iff, FileSystem.isFile_iff, like.resolve]
  refine exists_congr fun location => ?_
  have kind := like.item location List.nil_prefix
  generalize fs.item? location = item, other.item? location = otherItem at kind
  cases kind <;> simp

/-- In trees of one shape the same directories are created on a path. -/
theorem createPath (like : LikeBelow fs other []) (path : Path) :
    (other.createDirectories path).1 = (fs.createDirectories path).1 ∧
      LikeBelow (fs.createDirectories path).2 (other.createDirectories path).2 [] ∧
      ChangedTogether fs other (fs.createDirectories path).2 (other.createDirectories path).2 := by
  have creates : (other.createDirectories path).1 = (fs.createDirectories path).1 ∧
      LikeBelow (fs.createDirectories path).2 (other.createDirectories path).2 [] := by
    unfold FileSystem.createDirectories
    split
    · exact ⟨rfl, like⟩
    · split
      · exact ⟨rfl, like⟩
      · rw [like.start]
        exact like.createFrom List.nil_prefix (.inr rfl)
  exact ⟨creates.1, creates.2, .of_growth creates.2 (fs.createDirectories_growth path)
    (fun _ _ => List.nil_prefix) (other.createDirectories_growth path) fun _ _ => List.nil_prefix⟩

end LikeBelow

namespace Expansion

variable {τ : Type} {files other : FileSystem .linkFree}

theorem createRoots_like (like : LikeBelow files other []) (config : Config) :
    (Pass.createRoots other config).1 = (Pass.createRoots files config).1 ∧
      LikeBelow (Pass.createRoots files config).2 (Pass.createRoots other config).2 [] ∧
      ChangedTogether files other (Pass.createRoots files config).2
        (Pass.createRoots other config).2 := by
  have creates {before otherBefore : FileSystem .linkFree} (like : LikeBelow before otherBefore [])
      (path : Path) : (createDirectories otherBefore path).1 = (createDirectories before path).1 ∧
        LikeBelow (createDirectories before path).2 (createDirectories otherBefore path).2 [] ∧
        ChangedTogether before otherBefore (createDirectories before path).2
          (createDirectories otherBefore path).2 := by
    rw [createDirectories_snd, createDirectories_snd]
    refine ⟨?_, (like.createPath path).2⟩
    have same := (like.createPath path).1
    unfold createDirectories
    rcases created : before.createDirectories path with ⟨result, made⟩
    rcases otherCreated : otherBefore.createDirectories path with ⟨otherResult, otherMade⟩
    rw [created, otherCreated] at same
    simp only at same
    subst same
    cases otherResult <;> rfl
  obtain ⟨same, likeMade, together⟩ := creates like config.templateRoot
  unfold Pass.createRoots
  rcases created : createDirectories files config.templateRoot with ⟨result, made⟩
  rcases otherCreated : createDirectories other config.templateRoot with ⟨otherResult, otherMade⟩
  rw [created, otherCreated] at same likeMade together
  simp only at same likeMade together
  subst same
  cases otherResult with
  | error cause => exact ⟨rfl, likeMade, together⟩
  | ok done =>
    obtain ⟨sameLast, likeLast, later⟩ := creates likeMade config.outputRoot
    exact ⟨sameLast, likeLast, together.trans later⟩

/-- A relative name that loads is read from a file below the root: nothing but names is added to the
root's path. -/
theorem loadSource_confined {root : Path} {name source : String}
    (relative : Path.isAbsolute ⟨name⟩ = false) (loaded : loadSource files root name = .ok source) :
    ∃ names : List String,
      (∀ step ∈ names, step ≠ "" ∧ step ≠ "." ∧ step ≠ ".." ∧ '/' ∉ step.toList) ∧
      files.resolve (root.join ⟨name⟩) = .ok (files.place root ++ names) ∧
      files.get? (files.place root ++ names) = some (.file (.text source)) ∧
      ((root.join ⟨name⟩).components = root.components ++ names.map .name ∨
        root.spelling = "" ∧ (root.join ⟨name⟩).components = .current :: names.map .name) := by
  obtain ⟨stays, held⟩ := loadSource_ok loaded
  obtain ⟨found, atFile⟩ := FileSystem.read_ok held
  have place : files.place (root.join ⟨name⟩) =
      files.place root ++ Path.steps ⟨name⟩ := by
    rw [FileSystem.place, Path.pieces_join root relative, List.foldl_append,
      files.start_join root relative, ← files.place_eq_stem]
    exact Location.foldl_advance_steps _ stays
  have ordinary : ∀ step ∈ Path.steps ⟨name⟩,
      step ≠ "" ∧ step ≠ "." ∧ step ≠ ".." ∧ '/' ∉ step.toList := by
    intro step member
    obtain ⟨inName, moves⟩ := List.mem_filter.mp member
    have notIdle : ¬ Path.IsIdle step := by simpa using moves
    exact ⟨fun empty => notIdle (.inl empty), fun dot => notIdle (.inr dot),
      fun up => stays (up ▸ inName), Text.not_mem_of_mem_pieces inName⟩
  have named : (Path.pieces ⟨name⟩).filterMap Path.Component.ofPiece? =
      (Path.steps ⟨name⟩).map .name := Path.filterMap_ofPiece? stays
  rw [place] at found atFile
  refine ⟨_, ordinary, found, FileSystem.item?_eq_file.mp atFile, ?_⟩
  by_cases plain : root.spelling = "" → (Path.pieces ⟨name⟩).head? ≠ some "."
  · rw [Path.components_join root relative plain, named]
    exact .inl rfl
  · simp only [Classical.not_imp, not_not] at plain
    obtain ⟨empty, dot⟩ := plain
    have joined : root.join ⟨name⟩ = ⟨name⟩ := by simp [Path.join, relative, empty]
    refine .inr ⟨empty, ?_⟩
    rw [joined, Path.components, relative, dot, named]
    simp

namespace Expander

variable {expander : Expander τ} {task : Task}

theorem rendersAlike_of_same {ready otherReady : FileSystem .linkFree}
    (like : LikeBelow ready otherReady [])
    (same : ∀ location, ready.place expander.config.templateRoot <+: location →
      otherReady.item? location = ready.item? location)
    (leads : ready.follow (ready.start expander.config.templateRoot)
      expander.config.templateRoot.stem = .ok (ready.place expander.config.templateRoot))
    (roots : Pass.createRoots files expander.config = (.ok (), ready))
    (relative : ∀ name ∈ expander.requested files task, Path.isAbsolute ⟨name⟩ = false) :
    RendersAlike expander.clear ready otherReady task.declarations := by
  intro done declaration current tree otherTree within reach otherReach together contained
  have growth := reach.growth
  have config : current.config = expander.config := reach.alike.config
  have now := together.likeBelow like growth.workingDirectory otherReach.growth.workingDirectory
  have leadsNow := growth.leads leads
  refine render_congr contained (now.isFile _) fun name member => ?_
  have sameSource : loadSource otherTree expander.config.templateRoot name =
      loadSource tree expander.config.templateRoot name := by
    refine loadSource_of_same (now.start _) leadsNow ?_ (relative name (reach.requested roots within member))
      fun location below => together.eq (same location (growth.place _ ▸ below))
    rw [(now.follow List.nil_prefix (.inr rfl)).1]
    exact leadsNow
  rw [← config] at sameSource
  exact load_congr sameSource

/-- In two trees of one shape that are the same at and below the template root, a pass that asks for
relative names only has the same result, and changes the trees together. -/
theorem expand_of_same_templates (like : LikeBelow files other [])
    (same : ∀ location, files.place expander.config.templateRoot <+: location →
      other.item? location = files.item? location)
    (relative : ∀ name ∈ expander.requested files task, Path.isAbsolute ⟨name⟩ = false) :
    (expander.expand other task).result = (expander.expand files task).result ∧
      ChangedTogether files other (expander.expand files task).files
        (expander.expand other task).files := by
  obtain ⟨sameRoots, likeReady, together⟩ := createRoots_like like expander.config
  have growth := Pass.createRoots_growth files expander.config
  rcases roots : Pass.createRoots files expander.config with ⟨result, ready⟩
  rcases otherRoots : Pass.createRoots other expander.config with ⟨otherResult, otherReady⟩
  rw [roots, otherRoots] at sameRoots likeReady together
  rw [roots] at growth
  simp only at sameRoots likeReady together growth
  subst sameRoots
  unfold expand
  cases otherResult with
  | error cause =>
    rw [expandInto_of_blocked roots, expandInto_of_blocked otherRoots]
    exact ⟨rfl, together⟩
  | ok done =>
    obtain ⟨templates, output⟩ := Pass.createRoots_ok roots
    have otherOutput := (Pass.createRoots_ok otherRoots).2
    rw [likeReady.place] at otherOutput
    have sameReady (location : Location)
        (below : ready.place expander.config.templateRoot <+: location) :
        otherReady.item? location = ready.item? location := by
      rw [growth.place] at below
      exact together.eq (same location below)
    have beside : Beside expander.config.outputRoot ready otherReady :=
      ⟨likeReady.mono List.nil_prefix, output, otherOutput⟩
    have renders : RendersAlike expander.clear ready otherReady task.declarations :=
      rendersAlike_of_same likeReady sameReady templates roots relative
    obtain ⟨failure, report, changed⟩ := renders.expandInto beside roots otherRoots
      (.pending task expander.config.outputRoot)
    refine ⟨?_, together.trans changed⟩
    unfold Pass.result
    rw [failure, report]

/-- Templates are confined to their root as far as names are relative. A name with a `..` step is not
found, any other one that loads is read from a file below the root, and whatever a pass writes is the
same for all contents of files outside of the root. -/
theorem templates_confined (expander : Expander τ) (files : FileSystem .linkFree) (task : Task) :
    (∀ root name, ".." ∈ Path.pieces ⟨name⟩ →
      loadSource files root name = .error (.ofKind .templateNotFound)) ∧
    (∀ root name source, Path.isAbsolute ⟨name⟩ = false → loadSource files root name = .ok source →
      ∃ names : List String,
        (∀ step ∈ names, step ≠ "" ∧ step ≠ "." ∧ step ≠ ".." ∧ '/' ∉ step.toList) ∧
        files.resolve (root.join ⟨name⟩) = .ok (files.place root ++ names) ∧
        files.get? (files.place root ++ names) = some (.file (.text source)) ∧
        ((root.join ⟨name⟩).components = root.components ++ names.map .name ∨
          root.spelling = "" ∧ (root.join ⟨name⟩).components = .current :: names.map .name)) ∧
    ((∀ name ∈ expander.requested files task, Path.isAbsolute ⟨name⟩ = false) →
      ∀ other : FileSystem .linkFree, LikeBelow files other [] →
        (∀ location, files.place expander.config.templateRoot <+: location →
          other.item? location = files.item? location) →
        (expander.expand other task).result = (expander.expand files task).result ∧
          ∀ location,
            (expander.expand files task).files.item? location ≠ files.item? location →
            (expander.expand other task).files.item? location =
              (expander.expand files task).files.item? location) := by
  refine ⟨fun root name up => loadSource_of_up files root up,
    fun root name source relative loaded => loadSource_confined relative loaded,
    fun relative other like same => ?_⟩
  obtain ⟨sameResult, together⟩ := expand_of_same_templates like same relative
  refine ⟨sameResult, fun location changed => ?_⟩
  rcases together location with ⟨kept, _⟩ | now
  · exact absurd kept changed
  · exact now

/-- A note beside the roots may say anything. -/
theorem templates_confined_note :
    let files := (sampleFiles .linkFree).put ["note"] (.file (.text "one"))
    let other := files.put ["note"] (.file (.text "two"))
    let task : Task := ⟨[⟨"model", [⟨"A", .single .int, "Class"⟩]⟩]⟩
    (sampleExpander.expand other task).result = (sampleExpander.expand files task).result ∧
      (sampleExpander.expand files task).result =
        .ok ⟨[⟨"model", ⟨"generated/model/A.java"⟩, .written⟩]⟩ := by
  intro files other task
  have held : files.item? ([] ++ ["note"]) = some (.file (.text "one")) := rfl
  have stored : Stored files other ([] ++ ["note"]) (.text "two") := FileSystem.stored_replaced _ held
  have templates : files.place sampleExpander.config.templateRoot = ["templates"] := by decide +kernel
  obtain ⟨_, _, confined⟩ := templates_confined sampleExpander files task
  have same := confined (by decide +kernel) other (stored.like held) fun location below => by
    have elsewhere : location ≠ ["note"] := by
      rintro rfl
      rw [templates] at below
      exact absurd below (by decide)
    rw [stored.item]
    exact if_neg elsewhere
  have succeeded : (sampleExpander.expand files task).result =
      .ok (sampleExpander.expand files task).report :=
    Pass.result_eq_ok.mpr ⟨by decide +kernel, rfl⟩
  have report : (sampleExpander.expand files task).report =
      ⟨[⟨"model", ⟨"generated/model/A.java"⟩, .written⟩]⟩ := by
    decide +kernel
  exact ⟨same.1, succeeded.trans (congrArg Except.ok report)⟩

/-- An absolute name is not confined: it takes the place of the root, and what is read there comes
into the generated file. -/
theorem absolute_name_escapes :
    let files : FileSystem .linkFree := { root := .directory [("secret", .file (.text "hidden")),
      ("templates", .directory [("model", .directory
        [("Class.java.ftl", .file (.text "\x7b% include '/secret' %\x7d"))])])] }
    let task : Task := ⟨[⟨"model", [⟨"A", .single .int, "Class"⟩]⟩]⟩
    loadSource files ⟨"templates"⟩ "/secret" = .ok "hidden" ∧
      files.resolve (Path.join ⟨"templates"⟩ ⟨"/secret"⟩) = .ok ["secret"] ∧
      ¬ files.place ⟨"templates"⟩ <+: ["secret"] ∧
      (sampleExpander.expand files task).files.readText ⟨"generated/model/A.java"⟩ = .ok "hidden" := by
  refine ⟨?_, ?_, ?_, ?_⟩
  all_goals decide +kernel

end Expander

end Expansion

end Stencil
