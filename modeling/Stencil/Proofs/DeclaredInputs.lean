import Stencil.Proofs.FailureAtomicity
import Stencil.Proofs.Lockstep
import Stencil.Proofs.SettledOutputs
import Stencil.Proofs.TemplateFiles

namespace Stencil.Expansion

variable {τ : Type} {files other ready otherReady : FileSystem .linkFree}

theorem createRoots_of_directories {links : Linkage} {files : FileSystem links} {config : Config}
    (templates : files.isDirectory config.templateRoot = true)
    (output : files.isDirectory config.outputRoot = true) :
    Pass.createRoots files config = (.ok (), files) := by
  unfold Pass.createRoots createDirectories
  simp only [FileSystem.createDirectories_of_isDirectory templates,
    FileSystem.createDirectories_of_isDirectory output]

/-- Two trees that are used from one directory and hold the same in the files that a task lists as
its inputs. -/
structure SameInputs (task : Task) (root : Path) (files other : FileSystem .linkFree) : Prop where
  workingDirectory : other.workingDirectory = files.workingDirectory
  read : ∀ path ∈ task.inputFiles root, (other.read path).toOption = (files.read path).toOption

/-- A name that is refused, or under which a file is opened that a task lists as one of its inputs. -/
def IsDeclared (task : Task) (root : Path) (files : FileSystem .linkFree) (name : String) : Prop :=
  ".." ∈ Path.pieces ⟨name⟩ ∨
    ∃ path ∈ task.inputFiles root, files.isFile path = true ∧
      files.place (root.join ⟨name⟩) = files.place path

namespace SameInputs

variable {task : Task} {root : Path} {declaration : Declaration}

theorem place (same : SameInputs task root files other) (path : Path) :
    other.place path = files.place path :=
  FileSystem.place_congr same.workingDirectory path

theorem isFile (same : SameInputs task root files other) (member : declaration ∈ task.declarations) :
    other.isFile (declaration.templateFile root) = files.isFile (declaration.templateFile root) := by
  obtain ⟨path, listed, resolves⟩ := Task.exists_inputFile member root
  have respelled (fs : FileSystem .linkFree) :
      fs.isFile (declaration.templateFile root) = fs.isFile path := by
    rw [Bool.eq_iff_iff, FileSystem.isFile_iff, FileSystem.isFile_iff, resolves]
  rw [respelled, respelled, FileSystem.isFile_eq_read, FileSystem.isFile_eq_read,
    same.read path listed]

theorem item {path : Path} (same : SameInputs task root files other)
    (listed : path ∈ task.inputFiles root) (held : files.isFile path = true) :
    ∃ content, files.item? (files.place path) = some (.file content) ∧
      other.item? (files.place path) = some (.file content) := by
  have agree := same.read path listed
  rw [FileSystem.isFile_eq_read] at held
  cases read : files.read path with
  | error fault =>
    rw [read] at held
    cases held
  | ok content =>
    cases otherRead : other.read path with
    | error fault =>
      rw [read, otherRead] at agree
      cases agree
    | ok otherContent =>
      rw [read, otherRead] at agree
      cases agree
      have otherHeld := (FileSystem.read_ok otherRead).2
      rw [same.place] at otherHeld
      exact ⟨content, (FileSystem.read_ok read).2, otherHeld⟩

end SameInputs

variable {expander current : Expander τ} {tree : FileSystem .linkFree} {done : List Declaration}
  {declaration : Declaration} {task : Task}

/-- Whether the template of a directive exists is settled when a pass starts. -/
theorem Reach.isFile_templateFile (reach : Reach expander files done current tree)
    (templates : files.follow (files.start expander.config.templateRoot)
      expander.config.templateRoot.stem = .ok (files.place expander.config.templateRoot))
    (output : files.follow (files.start expander.config.outputRoot)
      expander.config.outputRoot.stem = .ok (files.place expander.config.outputRoot))
    (contained : declaration.isContained = true)
    (stays : ".." ∉ Path.pieces ⟨declaration.templateKey⟩) :
    tree.isFile (declaration.templateFile expander.config.templateRoot) =
      files.isFile (declaration.templateFile expander.config.templateRoot) := by
  refine (reach.growth_below output).isFile_templateFile contained stays templates ?_
  rintro location ⟨other, _, otherContained, here⟩
  exact ⟨other, _, otherContained, here⟩

/-- A declared template loads the same wherever two passes have come to. -/
theorem SameInputs.loadSource {root : Path} {otherTree : FileSystem .linkFree} {name : String}
    {made written otherMade otherWritten : Location → Prop} (same : SameInputs task root files other)
    (leads : files.follow (files.start root) root.stem = .ok (files.place root))
    (otherLeads : other.follow (other.start root) root.stem = .ok (other.place root))
    (growth : Growth files tree made written)
    (otherGrowth : Growth other otherTree otherMade otherWritten)
    (together : ChangedTogether files other tree otherTree)
    (declared : IsDeclared task root files name) :
    Expansion.loadSource otherTree root name = Expansion.loadSource tree root name := by
  rcases declared with refused | ⟨path, listed, there, samePlace⟩
  · rw [loadSource_of_up tree _ refused, loadSource_of_up otherTree _ refused]
  · obtain ⟨content, held, otherHeld⟩ := same.item listed there
    rw [← samePlace] at held otherHeld
    obtain ⟨_, still⟩ := growth.file held
    have now := together.eq (otherHeld.trans held.symm)
    rw [← growth.place] at still now
    have kept : otherTree.workingDirectory = tree.workingDirectory := by
      rw [otherGrowth.workingDirectory, growth.workingDirectory, same.workingDirectory]
    have leadsNow := growth.leads leads
    have otherLeadsNow := otherGrowth.leads otherLeads
    rw [otherGrowth.place, same.place, ← growth.place] at otherLeadsNow
    exact loadSource_of_present kept leadsNow otherLeadsNow (by simp [still]) now

theorem SameInputs.rendersAlike (same : SameInputs task expander.config.templateRoot files other)
    (roots : Pass.createRoots files expander.config = (.ok (), files))
    (otherRoots : Pass.createRoots other expander.config = (.ok (), other))
    (declared : ∀ name ∈ expander.requested files task,
      IsDeclared task expander.config.templateRoot files name) :
    RendersAlike expander.clear files other task.declarations := by
  intro done declaration current tree otherTree within reach otherReach together contained
  have config : current.config = expander.config := reach.alike.config
  by_cases up : ".." ∈ Path.pieces ⟨declaration.templateKey⟩
  · rw [reach.rooted.render_of_up tree up, reach.rooted.render_of_up otherTree up]
  · obtain ⟨leads, output⟩ := Pass.createRoots_ok roots
    obtain ⟨otherLeads, otherOutput⟩ := Pass.createRoots_ok otherRoots
    refine Expander.render_congr contained ?_ fun name asked => Expander.load_congr ?_
    · have member : declaration ∈ task.declarations := within.subset (by simp)
      have sooner := reach.isFile_templateFile leads output contained up
      have otherSooner := otherReach.isFile_templateFile otherLeads otherOutput contained up
      rw [config]
      exact otherSooner.trans ((same.isFile member).trans sooner.symm)
    · rw [config]
      exact same.loadSource leads otherLeads reach.growth otherReach.growth together
        (declared name (reach.requested roots within asked))

namespace Expander

/-- The declared inputs determine the outputs, as far as templates are declared: when all that a pass
asks for is listed by its task, its result and its report depend on nothing else, and neither does
what it leaves below the output root. -/
theorem expand_of_same_inputs (expander : Expander τ) (files other : FileSystem .linkFree) (task : Task)
    (same : SameInputs task expander.config.templateRoot files other)
    (templates : files.isDirectory expander.config.templateRoot = true)
    (otherTemplates : other.isDirectory expander.config.templateRoot = true)
    (output : files.isDirectory expander.config.outputRoot = true)
    (otherOutput : other.isDirectory expander.config.outputRoot = true)
    (sameOutput : ∀ location, files.place expander.config.outputRoot <+: location →
      other.item? location = files.item? location)
    (declared : ∀ name ∈ expander.requested files task,
      IsDeclared task expander.config.templateRoot files name) :
    (expander.expand other task).result = (expander.expand files task).result ∧
      (expander.expand other task).report = (expander.expand files task).report ∧
      ∀ location, files.place expander.config.outputRoot <+: location →
        (expander.expand other task).files.item? location =
          (expander.expand files task).files.item? location := by
  have roots := createRoots_of_directories templates output
  have otherRoots := createRoots_of_directories otherTemplates otherOutput
  have outputLeads := (Pass.createRoots_ok roots).2
  have otherOutputLeads := (Pass.createRoots_ok otherRoots).2
  have beside : Beside expander.config.outputRoot files other := by
    refine ⟨⟨same.workingDirectory, fun location below => .of_eq (sameOutput location below)⟩,
      outputLeads, ?_⟩
    rw [otherOutputLeads, same.place]
  have renders : RendersAlike expander.clear files other task.declarations :=
    same.rendersAlike roots otherRoots declared
  obtain ⟨failure, report, together⟩ := renders.expandInto beside roots otherRoots
    (.pending task expander.config.outputRoot)
  refine ⟨?_, report, fun location below => together.eq (sameOutput location below)⟩
  unfold Pass.result expand
  rw [failure, report]

/-- One template and a text beside it, and nothing generated yet. -/
def sharedFiles (template shared : String) : FileSystem .linkFree where
  root := .directory [("generated", .empty), ("templates", .directory
    [("model", .directory [("Class.java.ftl", .file (.text template))]),
      ("shared.txt", .file (.text shared))])]

theorem sharedFiles_stored (template shared other : String) :
    Stored (sharedFiles template shared) (sharedFiles template other) ["templates", "shared.txt"]
      (.text other) := by
  have held : (sharedFiles template shared).item? (["templates"] ++ ["shared.txt"]) =
      some (.file (.text shared)) := rfl
  have replaced : sharedFiles template other =
      (sharedFiles template shared).put (["templates"] ++ ["shared.txt"]) (.file (.text other)) := rfl
  rw [replaced]
  exact FileSystem.stored_replaced (.text other) held

theorem sharedFiles_sameOutput (template shared other : String) (location : Location)
    (below : (sharedFiles template shared).place sampleExpander.config.outputRoot <+: location) :
    (sharedFiles template other).item? location = (sharedFiles template shared).item? location := by
  have outputRoot : (sharedFiles template shared).place sampleExpander.config.outputRoot =
      ["generated"] := by
    change (Path.pieces ⟨"generated"⟩).foldl Location.advance [] = ["generated"]
    decide +kernel
  have elsewhere : location ≠ ["templates", "shared.txt"] := by
    rintro rfl
    rw [outputRoot] at below
    exact absurd below (by decide)
  rw [(sharedFiles_stored template shared other).item, if_neg elsewhere]

/-- The text is no input of a task. -/
theorem sharedFiles_sameInputs (template shared other : String) :
    SameInputs ⟨[⟨"model", [⟨"A", .single .int, "Class"⟩]⟩]⟩ ⟨"templates"⟩
      (sharedFiles template shared) (sharedFiles template other) := by
  have inputs : Task.inputFiles ⟨[⟨"model", [⟨"A", .single .int, "Class"⟩]⟩]⟩ ⟨"templates"⟩ =
      [⟨"templates/model/Class.java.ftl"⟩] := by decide +kernel
  refine ⟨rfl, fun path listed => ?_⟩
  rw [inputs, List.mem_singleton] at listed
  have stored := sharedFiles_stored template shared other
  have held : (sharedFiles template shared).item? ["templates", "shared.txt"] =
      some (.file (.text shared)) := rfl
  have like := stored.like held
  have place : (sharedFiles template shared).place ⟨"templates/model/Class.java.ftl"⟩ =
      ["templates", "model", "Class.java.ftl"] := by
    change (Path.pieces ⟨"templates/model/Class.java.ftl"⟩).foldl Location.advance [] = _
    decide +kernel
  rw [listed, FileSystem.read_congr (like.resolve _)]
  rw [place, stored.item, if_neg (by decide)]

/-- A text that no template asks for may be anything. -/
theorem expand_of_same_inputs_unused :
    let task : Task := ⟨[⟨"model", [⟨"A", .single .int, "Class"⟩]⟩]⟩
    (sampleExpander.expand (sharedFiles "class" "two") task).result =
        (sampleExpander.expand (sharedFiles "class" "one") task).result ∧
      (sampleExpander.expand (sharedFiles "class" "one") task).files.readText
        ⟨"generated/model/A.java"⟩ = .ok "class" := by
  intro task
  have requests : sampleExpander.requested (sharedFiles "class" "one") task =
      ["model/Class.java.ftl"] := by decide +kernel
  have result := expand_of_same_inputs sampleExpander (sharedFiles "class" "one")
    (sharedFiles "class" "two") task (sharedFiles_sameInputs "class" "one" "two")
    (by decide +kernel) (by decide +kernel) (by decide +kernel) (by decide +kernel)
    (sharedFiles_sameOutput "class" "one" "two")
    (fun name asked => by
      rw [requests, List.mem_singleton] at asked
      rw [asked]
      exact .inr ⟨⟨"templates/model/Class.java.ftl"⟩, by decide +kernel, by decide +kernel,
        by decide +kernel⟩)
  exact ⟨result.1, by decide +kernel⟩

/-- An included file that is no template of a directive is not listed, and still decides what is
generated. -/
theorem undeclared_input_decides :
    let files := sharedFiles "\x7b% include 'shared.txt' %\x7d" "one"
    let other := sharedFiles "\x7b% include 'shared.txt' %\x7d" "two"
    let task : Task := ⟨[⟨"model", [⟨"A", .single .int, "Class"⟩]⟩]⟩
    sampleExpander.config.Apart files ∧
      (∀ fs ∈ [files, other], fs.isDirectory sampleExpander.config.templateRoot = true ∧
        fs.isDirectory sampleExpander.config.outputRoot = true) ∧
      SameInputs task sampleExpander.config.templateRoot files other ∧
      (∀ location, files.place sampleExpander.config.outputRoot <+: location →
        other.item? location = files.item? location) ∧
      (sampleExpander.expand files task).files.readText ⟨"generated/model/A.java"⟩ = .ok "one" ∧
      (sampleExpander.expand other task).files.readText ⟨"generated/model/A.java"⟩ = .ok "two" := by
  intro files other task
  refine ⟨by decide +kernel, ?_, sharedFiles_sameInputs _ "one" "two",
    sharedFiles_sameOutput _ "one" "two", by decide +kernel, by decide +kernel⟩
  decide +kernel

/-- Two templates and a note, to which the link of an output leads. -/
def notedFiles (note : Node .linked) : FileSystem where
  root := .directory [("generated", .directory [("model", .directory
      [("A.java", .link rfl ⟨"../../note"⟩)])]),
    ("note", note),
    ("templates", .directory [("model", .directory
      [("Class.java.ftl", .file (.text "one")), ("Record.java.ftl", .file (.text "two"))])])]

/-- Where there are links, the declared inputs do not determine the outputs, although no other template
is asked for: a note that is a link to one of them makes the first output write over it. -/
theorem linked_note_decides :
    let files := notedFiles (.link rfl ⟨"templates/model/Record.java.ftl"⟩)
    let other := notedFiles (.file (.text "two"))
    let task : Task := ⟨[⟨"model", [⟨"A", .single .int, "Class"⟩, ⟨"B", .single .int, "Record"⟩]⟩]⟩
    (∀ fs ∈ [files, other], fs.resolve sampleExpander.config.templateRoot = .ok ["templates"] ∧
        fs.resolve sampleExpander.config.outputRoot = .ok ["generated"]) ∧
      (∀ path ∈ task.inputFiles sampleExpander.config.templateRoot,
        (files.readText path).isOk = true ∧ other.readText path = files.readText path) ∧
      other.get? ["generated"] = files.get? ["generated"] ∧
      (∀ name ∈ sampleExpander.requested files task,
        ∃ path ∈ task.inputFiles sampleExpander.config.templateRoot, files.isFile path = true ∧
          sampleExpander.config.templateRoot.join ⟨name⟩ = path) ∧
      (sampleExpander.expand files task).files.readText ⟨"generated/model/B.java"⟩ = .ok "one" ∧
      (sampleExpander.expand other task).files.readText ⟨"generated/model/B.java"⟩ = .ok "two" := by
  refine ⟨by decide +kernel, by decide +kernel, rfl, ?_, by decide +kernel, by decide +kernel⟩
  decide +kernel

end Expander

end Stencil.Expansion
