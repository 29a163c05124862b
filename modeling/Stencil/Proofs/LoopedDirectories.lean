import Stencil.Proofs.DeclaredInputs
import Stencil.Proofs.EntryLookups
import Stencil.Proofs.NamedTasks
import Stencil.Proofs.TemplateAddresses

namespace Stencil

/-- A directory that is each of its own subdirectories, and one text under the names of all files. -/
def loopedFiles (names : List String) (text : String) : FileSystem where
  root := .directory [("files", .directory (Entries.ofInsertions (names.map fun name =>
      (name, .link rfl (if '.' ∈ name.toList then ⟨"/text"⟩ else ⟨"/files"⟩))))),
    ("text", .file (.text text))]

/-- A name that a directory can have. -/
structure FileSystem.CanHold (name : String) : Prop where
  ordinary : name ≠ "" ∧ name ≠ "." ∧ name ≠ ".."
  short : name.utf8ByteSize ≤ maxNameBytes
  clean : '\x00' ∉ name.toList

namespace FileSystem

theorem CanHold.enter {links : Linkage} {fs : FileSystem links} {here : Location} {name : String}
    (holds : CanHold name) (opens : fs.item? here = some .directory)
    (there : fs.item? (here ++ [name]) ≠ none) : fs.enter here name = .ok (here ++ [name]) :=
  enter_name opens there
    (Location.advance_name here holds.ordinary.1 holds.ordinary.2.1 holds.ordinary.2.2) holds.short

section

variable {names : List String} {name text : String} {depth : Nat}

theorem looped_directory : (loopedFiles names text).item? ["files"] = some .directory := by
  simp [item?, get?, loopedFiles, Node.get?, Entries.find?, Node.item]

theorem looped_text : (loopedFiles names text).item? ["text"] = some (.file (.text text)) := by
  simp [item?, get?, loopedFiles, Node.get?, Entries.find?, Node.item]

theorem looped_link (member : name ∈ names) :
    (loopedFiles names text).item? ["files", name] =
      some (.link rfl (if '.' ∈ name.toList then ⟨"/text"⟩ else ⟨"/files"⟩)) := by
  simp only [item?, get?, loopedFiles, Node.get?, Entries.find?, if_true,
    Entries.find?_ofInsertions_map member
      (fun name => Node.link rfl (if '.' ∈ name.toList then ⟨"/text"⟩ else ⟨"/files"⟩)), Option.map_some,
    Node.item]

theorem looped_put (text new : String) :
    (loopedFiles names text).put ["text"] (.file (.text new)) = loopedFiles names new := by
  have order : ¬ "text" < "files" := by decide +kernel
  simp [put, loopedFiles, Node.put, Entries.find?, Entries.insert, order]

theorem looped_enter (holds : CanHold name) (member : name ∈ names) :
    (loopedFiles names text).enter ["files"] name = .ok ["files", name] :=
  holds.enter looped_directory (by simp [looped_link member])

theorem looped_idle :
    [""].foldlM ((loopedFiles names text).stepWithin depth) [] = .ok [] := by
  have idle : (loopedFiles names text).enter [] "" = .ok [] := rfl
  have top : (loopedFiles names text).item? [] = some .directory := rfl
  rw [List.foldlM_cons, stepWithin_of_unlinked idle (.of_directory top)]
  rfl

theorem looped_enter_top (holds : CanHold name)
    (there : (loopedFiles names text).item? [name] ≠ none) :
    (loopedFiles names text).enter [] name = .ok [name] :=
  holds.enter rfl there

theorem looped_walk (holds : CanHold name) (there : (loopedFiles names text).item? [name] ≠ none)
    (unlinked : (loopedFiles names text).Unlinked [name]) :
    ["", name].foldlM ((loopedFiles names text).stepWithin depth) [] = .ok [name] := by
  have split : ["", name] = [""] ++ [name] := rfl
  rw [split, List.foldlM_append, looped_idle]
  simp only [Bind.bind, Except.bind, List.foldlM_cons, List.foldlM_nil,
    stepWithin_of_unlinked (looped_enter_top holds there) unlinked]
  rfl

theorem looped_walk_files :
    (Path.pieces ⟨"/files"⟩).foldlM ((loopedFiles names text).stepWithin depth) [] = .ok ["files"] := by
  have spelled : Path.pieces ⟨"/files"⟩ = ["", "files"] := by decide +kernel
  rw [spelled]
  exact looped_walk ⟨by decide, by decide, by decide⟩ (by simp [looped_directory])
    (.of_directory looped_directory)

theorem looped_walk_text :
    (Path.pieces ⟨"/text"⟩).foldlM ((loopedFiles names text).stepWithin depth) [] = .ok ["text"] := by
  have spelled : Path.pieces ⟨"/text"⟩ = ["", "text"] := by decide +kernel
  rw [spelled]
  exact looped_walk ⟨by decide, by decide, by decide⟩ (by simp [looped_text])
    (by simp [Unlinked, looped_text])

theorem looped_root : (loopedFiles names text).isDirectory ⟨"/files"⟩ = true := by
  have start : (loopedFiles names text).start ⟨"/files"⟩ = [] := rfl
  refine isDirectory_iff.mpr
    ⟨["files"], resolve_eq_ok.mpr ⟨by decide, by decide, ?_⟩, looped_directory⟩
  rw [start]
  exact looped_walk_files

/-- In the directory, a name without a dot leads back to it, and a name with one to the text. -/
theorem looped_step (holds : CanHold name) (member : name ∈ names) :
    (loopedFiles names text).step ["files"] name =
      .ok (if '.' ∈ name.toList then ["text"] else ["files"]) := by
  have entered : (loopedFiles names text).enter ["files"] name = _ := looped_enter holds member
  refine (stepWithin_of_link entered (looped_link member) 39).trans ?_
  split
  · exact looped_walk_text
  · exact looped_walk_files

theorem looped_follow {words : List String} (holds : ∀ word ∈ words, CanHold word)
    (known : ∀ word ∈ words, word ∈ names) (undotted : ∀ word ∈ words, '.' ∉ word.toList) :
    (loopedFiles names text).follow ["files"] words = .ok ["files"] := by
  induction words with
  | nil => rfl
  | cons word rest ih =>
    have moves : (loopedFiles names text).step ["files"] word = _ :=
      looped_step (holds word List.mem_cons_self) (known word List.mem_cons_self)
    rw [if_neg (undotted word List.mem_cons_self)] at moves
    rw [follow_of_ok moves]
    exact ih (fun other member => holds other (List.mem_cons_of_mem word member))
      (fun other member => known other (List.mem_cons_of_mem word member))
      fun other member => undotted other (List.mem_cons_of_mem word member)

/-- A file that is aimed at by such a name is the text. -/
theorem looped_target (holds : CanHold name) (member : name ∈ names) (dotted : '.' ∈ name.toList)
    {path : Path} {front : List String} (clean : hasNul path = false)
    (spelled : path.pieces = front ++ [name])
    (leads : (loopedFiles names text).follow ((loopedFiles names text).start path) front = .ok ["files"]) :
    (loopedFiles names text).target path = .ok ["text"] := by
  have notEmpty : path.spelling.isEmpty = false :=
    Path.isEmpty_eq_false_of_last (by rw [spelled, List.getLast?_concat]) holds.ordinary.1
  have linked : (loopedFiles names text).get? ["files", name] = _ :=
    item?_eq_link.mp (looped_link member)
  rw [if_pos dotted] at linked
  rw [target_eq_bind, clean, notEmpty, spelled, List.dropLast_concat, List.getLast?_concat, leads]
  simp only [Bool.false_eq_true, if_false, Except.bind, Option.getD_some, looped_enter holds member, linked]
  change (loopedFiles names text).targetWithin 39 _ (Path.pieces ⟨"/text"⟩) = _
  have last : Path.pieces ⟨"/text"⟩ = ["", "text"] := by decide +kernel
  have enters : (loopedFiles names text).enter [] "text" = .ok ["text"] :=
    looped_enter_top ⟨by decide, by decide, by decide⟩ (by simp [looped_text])
  have held : (loopedFiles names text).get? ["text"] = _ := item?_eq_file.mp looped_text
  rw [last, targetWithin.eq_def]
  change ([""].foldlM ((loopedFiles names text).stepWithin 39) []).bind _ = _
  rw [looped_idle]
  simp only [Except.bind, List.getLast?_cons_cons, List.getLast?_singleton, Option.getD_some, enters, held]

end

end FileSystem

namespace Declaration

/-- The names by which the template and the output of a directive are found below the roots. -/
def stepNames (declaration : Declaration) : List String :=
  declaration.segments ++ [declaration.fileName, declaration.directive.templateName ++ templateSuffix]

theorem IsNamed.canHold {declaration : Declaration} (named : declaration.IsNamed) {name : String}
    (member : name ∈ declaration.stepNames) (short : name.utf8ByteSize ≤ FileSystem.maxNameBytes) :
    FileSystem.CanHold name := by
  rcases List.mem_append.mp member with segment | last
  · refine ⟨(named.segments name segment).ordinary, short, fun nul => ?_⟩
    exact absurd ((named.segments name segment).isLower _ nul) (by decide)
  · simp only [List.mem_cons, List.not_mem_nil, or_false] at last
    rcases last with rfl | rfl
    · refine ⟨(fileName_ordinary named.isContained).1.ordinary, short, ?_⟩
      rw [fileName, String.toList_append, List.mem_append, not_or]
      exact ⟨named.directive.output.not_mem (by decide), by decide⟩
    · refine ⟨(solidEnd_templateSuffix _).ordinary, short, ?_⟩
      rw [String.toList_append, List.mem_append, not_or]
      exact ⟨named.directive.template.not_mem (by decide), by decide⟩

end Declaration

namespace Expansion

section

variable {names : List String} {text : String} {declaration : Declaration}

/-- A directive that finds its way in the looped directory. -/
structure Looped (names : List String) (declaration : Declaration) : Prop where
  named : declaration.IsNamed
  known : ∀ name ∈ declaration.stepNames, name ∈ names ∧ FileSystem.CanHold name

namespace Looped

/-- With links for all its names, the directives of a task find their way. -/
theorem of_isNamed {task : Task} (named : task.IsNamed)
    (short : ∀ ns ∈ task.namespaces,
      (∀ segment ∈ Text.pieces '.' ns.name, segment.utf8ByteSize ≤ FileSystem.maxNameBytes) ∧
      ∀ directive ∈ ns.directives,
        (directive.outputName ++ outputSuffix).utf8ByteSize ≤ FileSystem.maxNameBytes ∧
        (directive.templateName ++ templateSuffix).utf8ByteSize ≤ FileSystem.maxNameBytes) :
    ∀ declaration ∈ task.declarations,
      Looped (task.declarations.flatMap Declaration.stepNames) declaration := by
  intro declaration member
  have isNamed := named.declarations declaration member
  refine ⟨isNamed, fun name step => ⟨List.mem_flatMap.mpr ⟨declaration, member, step⟩, ?_⟩⟩
  obtain ⟨ns, inTask, within⟩ := List.mem_flatMap.mp member
  obtain ⟨directive, inNamespace, rfl⟩ := List.mem_map.mp within
  refine isNamed.canHold step ?_
  rcases List.mem_append.mp step with segment | last
  · exact (short ns inTask).1 name segment
  · simp only [List.mem_cons, List.not_mem_nil, or_false] at last
    rcases last with rfl | rfl
    · exact ((short ns inTask).2 directive inNamespace).1
    · exact ((short ns inTask).2 directive inNamespace).2

theorem segment (looped : Looped names declaration) {segment : String}
    (member : segment ∈ declaration.segments) : segment ∈ names ∧ FileSystem.CanHold segment :=
  looped.known segment (List.mem_append_left _ member)

/-- The directory of a directive is the one directory. -/
theorem directory (looped : Looped names declaration) (text : String) :
    (loopedFiles names text).follow [] (Path.join ⟨"/files"⟩ declaration.directory).pieces =
      .ok ["files"] := by
  have top : (loopedFiles names text).follow [] (Path.stem ⟨"/files"⟩) = .ok ["files"] :=
    FileSystem.looped_walk_files
  rw [directory_pieces_join looped.named.isContained, FileSystem.follow_append, top, Except.bind]
  exact FileSystem.looped_follow (fun word member => (looped.segment member).2)
    (fun word member => (looped.segment member).1) fun word member => Text.not_mem_of_mem_pieces member

theorem clean (looped : Looped names declaration) {path : Path} {last : List String}
    (spelled : path.pieces = (Path.join ⟨"/files"⟩ declaration.directory).pieces ++ last)
    (lastClean : ∀ name ∈ last, '\x00' ∉ name.toList) : FileSystem.hasNul path = false := by
  have stem : Path.stem ⟨"/files"⟩ = ["", "files"] := by decide +kernel
  rw [directory_pieces_join looped.named.isContained, stem] at spelled
  rw [← Bool.not_eq_true, FileSystem.hasNul_iff, spelled]
  rintro ⟨piece, member, nul⟩
  rcases List.mem_append.mp member with above | isLast
  · rcases List.mem_append.mp above with root | segment
    · have rootClean : ∀ piece ∈ ["", "files"], '\x00' ∉ piece.toList := by decide +kernel
      exact rootClean piece root nul
    · exact (looped.segment segment).2.clean nul
  · exact lastClean piece isLast nul

theorem isDirectory (looped : Looped names declaration) (text : String) :
    (loopedFiles names text).isDirectory (Path.join ⟨"/files"⟩ declaration.directory) = true := by
  have clean := looped.clean (List.append_nil _).symm (fun _ member => nomatch member)
  have named := Declaration.directory_join_ne_empty looped.named.isContained ⟨"/files"⟩
  have start : (loopedFiles names text).start (Path.join ⟨"/files"⟩ declaration.directory) = [] :=
    directory_start looped.named.isContained _ _
  refine FileSystem.isDirectory_iff.mpr ⟨["files"], FileSystem.resolve_eq_ok.mpr
    ⟨clean, String.isEmpty_eq_false_iff.mpr named, ?_⟩, FileSystem.looped_directory⟩
  rw [start]
  exact looped.directory text

theorem start (looped : Looped names declaration) (text : String) {name : String}
    (single : '/' ∉ name.toList) :
    (loopedFiles names text).start ((Path.join ⟨"/files"⟩ declaration.directory).join ⟨name⟩) = [] := by
  have top : (loopedFiles names text).start ⟨"/files"⟩ = [] := rfl
  rw [FileSystem.start_join _ _ (Path.isRelative_of_single single),
    directory_start looped.named.isContained, top]

theorem resolve_template (looped : Looped names declaration) (text : String) :
    (loopedFiles names text).resolve (declaration.templateFile ⟨"/files"⟩) = .ok ["text"] := by
  obtain ⟨solid, relative, _⟩ := Declaration.directory_pieces looped.named.isContained
  have title : Path.IsTitle (declaration.directive.templateName ++ templateSuffix) :=
    looped.named.directive.template.isTitle (by decide) (by decide)
  have spelled : (declaration.templateFile ⟨"/files"⟩).pieces =
      (Path.join ⟨"/files"⟩ declaration.directory).pieces ++
        [declaration.directive.templateName ++ templateSuffix] := by
    rw [← Path.pieces_of_single title.single]
    exact (Path.SolidEnd.of_join ⟨"/files"⟩ solid relative).pieces_append
      (Path.isRelative_of_single title.single)
  obtain ⟨known, holds⟩ := looped.known (declaration.directive.templateName ++ templateSuffix)
    (by simp [Declaration.stepNames])
  have dotted : '.' ∈ (declaration.directive.templateName ++ templateSuffix).toList := by
    simp [templateSuffix]
  have moves : (loopedFiles names text).step ["files"] _ = _ := FileSystem.looped_step holds known
  rw [if_pos dotted] at moves
  have begins : (loopedFiles names text).start (declaration.templateFile ⟨"/files"⟩) = [] :=
    looped.start text title.single
  refine FileSystem.resolve_eq_ok.mpr ⟨looped.clean spelled (List.forall_mem_singleton.mpr holds.clean),
    Path.isEmpty_eq_false_of_last (by rw [spelled, List.getLast?_concat]) holds.ordinary.1, ?_⟩
  rw [begins, spelled, FileSystem.follow_append, looped.directory, Except.bind,
    FileSystem.follow_of_ok moves, FileSystem.follow_nil]

theorem target_output (looped : Looped names declaration) (text : String) :
    (loopedFiles names text).target (declaration.outputFile ⟨"/files"⟩) = .ok ["text"] := by
  have spelled := Declaration.outputFile_pieces looped.named.isContained ⟨"/files"⟩
  obtain ⟨known, holds⟩ := looped.known declaration.fileName (by simp [Declaration.stepNames])
  have begins : (loopedFiles names text).start (declaration.outputFile ⟨"/files"⟩) = [] :=
    looped.start text (Declaration.fileName_ordinary looped.named.isContained).2
  refine FileSystem.looped_target holds known (by simp [Declaration.fileName, outputSuffix])
    (looped.clean spelled (List.forall_mem_singleton.mpr holds.clean)) spelled ?_
  rw [begins]
  exact looped.directory text

/-- A text that is stored as an output is stored as all templates. -/
theorem store (looped : Looped names declaration) (text new : String) :
    Expansion.store (loopedFiles names text) (declaration.outputFile ⟨"/files"⟩) new =
      (.ok (), loopedFiles names new) := by
  have created := FileSystem.createDirectories_of_isDirectory (looped.isDirectory text)
  have written : (loopedFiles names text).write (declaration.outputFile ⟨"/files"⟩) (.text new) =
      .ok (loopedFiles names new) := by
    rw [FileSystem.write_eq, looped.target_output, Except.map, FileSystem.looped_put]
  exact store_of_write looped.named.isContained created written

end Looped

end

section

variable {τ : Type} {engine : Engine τ} {whitespace : Whitespace} {names : List String}
  {text printed : String} {declaration : Declaration} {expander : Expander τ}

/-- Whatever it is rendered with, a template makes one text. -/
def Prints (engine : Engine τ) (template : τ) (printed : String) : Prop :=
  ∀ model, engine.render template model = .done (.ok printed)

/-- Under any name, a text compiles to a template that makes one text. -/
def PrintsAs (engine : Engine τ) (whitespace : Whitespace) (text printed : String) : Prop :=
  ∀ name, ∃ template, engine.compile whitespace name text = .ok template ∧ Prints engine template printed

/-- An expander at work in the looped directory. What it has loaded makes one text. -/
structure Looped.Worker (engine : Engine τ) (whitespace : Whitespace) (printed : String)
    (expander : Expander τ) : Prop where
  equipped : expander.engine = engine
  config : expander.config = ⟨⟨"/files"⟩, ⟨"/files"⟩, whitespace⟩
  prints : ∀ name template, expander.cache.find? name = some template → Prints engine template printed

namespace Looped

theorem load (looped : Looped names declaration) (worker : Worker engine whitespace printed expander)
    (prints : PrintsAs engine whitespace text printed) :
    ∃ template, expander.load (loopedFiles names text) declaration.templateKey = .ok template ∧
      Prints engine template printed := by
  obtain ⟨template, compiled, made⟩ := prints declaration.templateKey
  refine ⟨template, ?_, made⟩
  have contained := (Bool.and_eq_true_iff.mp looped.named.isContained).1
  have title : Path.IsTitle (declaration.directive.templateName ++ templateSuffix) :=
    looped.named.directive.template.isTitle (by decide) (by decide)
  have resolves : (loopedFiles names text).resolve (Path.join ⟨"/files"⟩ ⟨declaration.templateKey⟩) =
      .ok ["text"] :=
    (Declaration.resolve_addresses contained (Path.isRelative_of_single title.single) _ _).trans
      (looped.resolve_template text)
  have stays : ".." ∉ Path.pieces ⟨declaration.templateKey⟩ := by
    rw [declaration.templateKey_pieces, Declaration.directoryText_pieces contained,
      Declaration.source, Path.pieces_of_single title.single]
    intro up
    have step : ".." ∈ declaration.stepNames := by
      rcases List.mem_append.mp up with inside | last
      · exact List.mem_append_left _ inside
      · rw [List.mem_singleton.mp last]
        simp [Declaration.stepNames]
    exact (looped.known ".." step).2.ordinary.2.2 rfl
  have held := FileSystem.read_of_item resolves FileSystem.looped_text
  unfold Expander.load
  rw [worker.config, loadSource_of_text stays held, worker.equipped]
  exact compiled

theorem fetch (looped : Looped names declaration) (worker : Worker engine whitespace printed expander)
    (prints : PrintsAs engine whitespace text printed) :
    ∃ template after, expander.fetch (loopedFiles names text) declaration.templateKey =
      (.ok template, after) ∧ Prints engine template printed ∧
        Worker engine whitespace printed after := by
  unfold Expander.fetch
  cases found : expander.cache.find? declaration.templateKey with
  | some template => exact ⟨template, expander, rfl, worker.prints _ template found, worker⟩
  | none =>
    obtain ⟨template, loaded, made⟩ := looped.load worker prints
    simp only [loaded]
    refine ⟨template, _, rfl, made, worker.equipped, worker.config, fun name other held => ?_⟩
    rw [Entries.find?_insert] at held
    split at held
    · cases held
      exact made
    · exact worker.prints name other held

theorem expandDirective (looped : Looped names declaration)
    (worker : Worker engine whitespace printed expander)
    (prints : PrintsAs engine whitespace text printed) :
    ∃ path after, expander.expandDirective (loopedFiles names text) declaration =
      (.ok path, after, loopedFiles names printed) ∧ Worker engine whitespace printed after := by
  obtain ⟨template, after, fetched, made, works⟩ := looped.fetch worker prints
  have isFile : (loopedFiles names text).isFile (declaration.templateFile ⟨"/files"⟩) = true :=
    FileSystem.isFile_iff.mpr ⟨_, _, looped.resolve_template text, FileSystem.looped_text⟩
  have rendered : expander.render (loopedFiles names text) declaration = (.ok printed, after) := by
    unfold Expander.render
    simp only [worker.config, isFile, if_true, fetched, works.equipped]
    rw [made declaration.directive.model]
    rfl
  exact ⟨_, after, Expander.expandDirective_of_ok looped.named.isContained rendered
    (by rw [worker.config]; exact looped.store text printed), works⟩

/-- All directives go through, and the first of them prints over the text. -/
theorem reach {declarations : List Declaration}
    (looped : ∀ declaration ∈ declarations, Looped names declaration)
    (worker : Worker engine whitespace printed expander)
    (prints : PrintsAs engine whitespace text printed)
    (settled : PrintsAs engine whitespace printed printed) (notNil : declarations ≠ []) :
    ∃ current, Reach expander (loopedFiles names text) declarations current
      (loopedFiles names printed) := by
  induction declarations generalizing expander text with
  | nil => exact absurd rfl notNil
  | cons declaration rest ih =>
    obtain ⟨path, after, step, works⟩ :=
      (looped declaration List.mem_cons_self).expandDirective worker prints
    have first : Reach expander (loopedFiles names text) [declaration] after
        (loopedFiles names printed) := .next .start step
    by_cases last : rest = []
    · exact ⟨after, last ▸ first⟩
    · obtain ⟨current, reach⟩ := ih (fun other member => looped other (List.mem_cons_of_mem _ member))
        works settled last
      exact ⟨current, first.append reach⟩

theorem createRoots (names : List String) (text : String) (whitespace : Whitespace) :
    Pass.createRoots (loopedFiles names text) ⟨⟨"/files"⟩, ⟨"/files"⟩, whitespace⟩ =
      (.ok (), loopedFiles names text) :=
  createRoots_of_directories FileSystem.looped_root FileSystem.looped_root

/-- A pass over such directives goes through, and all that it leaves of the templates is what they
print. -/
theorem expand {task : Task} (looped : ∀ declaration ∈ task.declarations, Looped names declaration)
    (config : expander.config = ⟨⟨"/files"⟩, ⟨"/files"⟩, whitespace⟩)
    (prints : PrintsAs expander.engine whitespace text printed)
    (settled : PrintsAs expander.engine whitespace printed printed) (notNil : task.declarations ≠ []) :
    (expander.expand (loopedFiles names text) task).failure = none ∧
      (expander.expand (loopedFiles names text) task).files = loopedFiles names printed := by
  have ready := createRoots names text whitespace
  have worker : Worker expander.engine whitespace printed expander.clear :=
    ⟨rfl, config, fun _ _ found => nomatch found⟩
  obtain ⟨current, reach⟩ := Looped.reach looped worker prints settled notNil
  rw [← config] at ready
  obtain ⟨went, _, leaves⟩ := Expander.expand_of_reach ready reach
  exact ⟨went, leaves⟩

end Looped

end

end Expansion

end Stencil
