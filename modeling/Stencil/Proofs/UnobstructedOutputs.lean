import Stencil.Proofs.FailureAtomicity

namespace Stencil

namespace FileSystem

variable {links : Linkage} {fs after : FileSystem links} {here : Location} {names : List String} {root : Path}

/-- Below a directory, short names at which nothing but directories stands are created one in the
other. -/
theorem createFrom_of_free (opens : fs.item? here = some .directory)
    (ordinary : ∀ name ∈ names, name ≠ "" ∧ name ≠ "." ∧ name ≠ "..")
    (short : ∀ name ∈ names, name.utf8ByteSize ≤ maxNameBytes)
    (free : ∀ above, above ≠ [] → above <+: names →
      fs.item? (here ++ above) = none ∨ fs.item? (here ++ above) = some .directory) :
    ∃ after, fs.createFrom here names = (.ok (), after) := by
  induction names generalizing fs here with
  | nil => exact ⟨fs, by rw [createFrom_nil, opens]⟩
  | cons name rest ih =>
    obtain ⟨notEmpty, notDot, notUp⟩ := ordinary name List.mem_cons_self
    have named := here.advance_name notEmpty notDot notUp
    have fits := short name List.mem_cons_self
    have ordinaryRest := fun other member => ordinary other (List.mem_cons_of_mem name member)
    have shortRest := fun other member => short other (List.mem_cons_of_mem name member)
    have freeRest (above : List String) (notNil : above ≠ []) (within : above <+: rest) :
        fs.item? (here ++ [name] ++ above) = none ∨
          fs.item? (here ++ [name] ++ above) = some .directory := by
      rw [List.append_assoc]
      exact free ([name] ++ above) (by simp) (List.cons_prefix_cons.mpr ⟨rfl, within⟩)
    -- A name is created where there is none. That changes nothing for the names below it.
    rcases free [name] (by simp) (List.cons_prefix_cons.mpr ⟨rfl, List.nil_prefix⟩) with held | held
    · have goesOn : endsIdle rest = false := by
        have absent : "." ∉ rest := fun dot => (ordinaryRest "." dot).2.1 rfl
        simp [endsIdle, absent]
      rw [createFrom_of_notFound (enter_missing opens held named fits) goesOn]
      have items := item?_put_empty opens held
      refine ih (by rw [items, if_pos rfl]) ordinaryRest shortRest fun above notNil within => ?_
      have below : here ++ [name] ++ above ≠ here ++ [name] := by simpa using notNil
      rw [items, if_neg below]
      exact freeRest above notNil within
    · rw [createFrom_of_ok
        (step_of_unlinked (enter_name opens (by simp [held]) named fits) (.of_directory held))]
      exact ih held ordinaryRest shortRest freeRest

instance : (node : Option (Node links)) → Decidable (node = some .empty)
  | some (.directory []) => .isTrue rfl
  | some (.directory (_ :: _)) => .isFalse (by simp [Node.empty])
  | some (.file _) => .isFalse (by simp [Node.empty])
  | some (.link _ _) => .isFalse (by simp [Node.empty])
  | none => .isFalse (by simp)

theorem not_hasNul_of_created (created : fs.createDirectories root = (.ok (), after)) :
    hasNul root = false := by
  unfold createDirectories at created
  cases clean : hasNul root with
  | true => simp [clean] at created
  | false => rfl

end FileSystem

/-- The names of which an output is made can stand in a directory: none is too long, and none has a
NUL. -/
def Declaration.Fits (declaration : Declaration) : Prop :=
  ∀ name ∈ declaration.segments ++ [declaration.fileName],
    name.utf8ByteSize ≤ FileSystem.maxNameBytes ∧ '\x00' ∉ name.toList

instance (declaration : Declaration) : Decidable declaration.Fits :=
  inferInstanceAs (Decidable (∀ name ∈ _, _ ∧ _))

namespace Expansion

variable {links : Linkage} {declaration : Declaration} {files made tree after : FileSystem links}
  {root : Path} {base location : Location} {isMade isWritten : Location → Prop}

/-- Nothing stands where an output goes: nothing but directories where it needs them, and at most a file
in its own place. Whether the directories may be written to and have room is not part of a tree. -/
structure Unobstructed (tree : FileSystem links) (base : Location) (declaration : Declaration) : Prop where
  way : ∀ location, OnWay base declaration location →
    tree.item? location = none ∨ tree.item? location = some .directory
  free : Item.TakesFile (tree.item? (base ++ declaration.segments ++ [declaration.fileName]))

theorem not_hasNul_output (contained : declaration.isContained = true) (fits : declaration.Fits)
    (clean : FileSystem.hasNul root = false) :
    FileSystem.hasNul (root.join declaration.directory) = false ∧
      FileSystem.hasNul (declaration.outputFile root) = false := by
  have rootClean (piece : String) (member : piece ∈ root.stem) : '\x00' ∉ piece.toList := fun nul => by
    have dirty := (FileSystem.hasNul_iff root).mpr
      ⟨piece, Path.mem_pieces_of_mem_stem member, nul⟩
    simp [clean] at dirty
  have below (piece : String)
      (member : piece ∈ root.stem ++ declaration.segments ++ [declaration.fileName]) :
      '\x00' ∉ piece.toList := by
    rw [List.append_assoc] at member
    rcases List.mem_append.mp member with above | name
    · exact rootClean piece above
    · exact (fits piece name).2
  constructor
  · rw [← Bool.not_eq_true, FileSystem.hasNul_iff, directory_pieces_join contained]
    rintro ⟨piece, member, nul⟩
    exact below piece (List.mem_append_left _ member) nul
  · rw [← Bool.not_eq_true, FileSystem.hasNul_iff, Declaration.outputFile_pieces contained,
      directory_pieces_join contained]
    rintro ⟨piece, member, nul⟩
    exact below piece member nul

/-- The directories of an output do not take its own place. -/
theorem not_onWay_output : ¬ OnWay base declaration
    (base ++ declaration.segments ++ [declaration.fileName]) := by
  rintro ⟨above, _, within, same⟩
  rw [List.append_assoc, List.append_cancel_left_eq] at same
  have length := within.length_le
  rw [← same, List.length_append, List.length_singleton] at length
  omega

/-- A text comes to its place if nothing stands in its way. -/
theorem store_of_unobstructed (contained : declaration.isContained = true) (fits : declaration.Fits)
    (clean : FileSystem.hasNul root = false)
    (leads : files.follow (files.start root) root.stem = .ok base)
    (opens : files.item? base = some .directory) (unlinked : files.UnlinkedBelow base)
    (unobstructed : Unobstructed files base declaration) (text : String) :
    ∃ after, store files (declaration.outputFile root) text = (.ok (), after) := by
  obtain ⟨cleanDirectory, cleanOutput⟩ := not_hasNul_output contained fits clean
  obtain ⟨made, built⟩ := FileSystem.createFrom_of_free opens
    (fun name member => names_ordinary contained (List.mem_append_left _ member))
    (fun name member => (fits name (List.mem_append_left _ member)).1)
    fun above notNil within => unobstructed.way _ ⟨above, notNil, within, rfl⟩
  have created := (createDirectories_of_root contained cleanDirectory leads).trans built
  have growth := createDirectories_onWay contained leads unlinked
  rw [created] at growth
  have free : Item.TakesFile (made.item? (base ++ declaration.segments ++ [declaration.fileName])) := by
    refine ⟨fun taken => ?_, growth.unlinked (by rw [List.append_assoc]; exact unlinked _)⟩
    exact unobstructed.free.notDirectory (growth.directory_before taken fun _ => not_onWay_output)
  obtain ⟨reached, atEnd⟩ := directory_created_below contained leads unlinked created
  obtain ⟨after, written⟩ := write_of_leads contained reached atEnd free cleanOutput
    (fits _ (List.mem_append_right _ List.mem_cons_self)).1 text
  exact ⟨after, store_of_write contained created written⟩

theorem segment_undotted {name : String} (member : name ∈ declaration.segments) : '.' ∉ name.toList :=
  Text.not_mem_of_mem_pieces member

theorem fileName_dotted (declaration : Declaration) : '.' ∈ declaration.fileName.toList := by
  simp [Declaration.fileName, outputSuffix]

/-- Below a location there are no links, and files are told from directories by their names: a directory
is reached by names without a dot, while a file's own name has one. -/
structure Dotted (tree : FileSystem links) (base : Location) : Prop where
  directory : ∀ names, tree.item? (base ++ names) = some .directory → ∀ name ∈ names, '.' ∉ name.toList
  file : ∀ names content, tree.item? (base ++ names) = some (.file content) →
    ∃ front name, names = front ++ [name] ∧ '.' ∈ name.toList
  unlinked : tree.UnlinkedBelow base

namespace Dotted

theorem of_empty (empty : tree.get? base = some .empty) : Dotted tree base := by
  have bare (names : List String) (notNil : names ≠ []) : tree.item? (base ++ names) = none := by
    have split : tree.get? (base ++ names) = (tree.get? base).bind (·.get? names) :=
      Node.get?_append tree.root base names
    rw [FileSystem.item?, split, empty, Option.bind_some, Node.bare_empty names notNil]
    rfl
  have opens : tree.item? base = some .directory := FileSystem.item?_eq_directory.mpr ⟨[], empty⟩
  refine ⟨?_, ?_, ?_⟩
  · intro names there name member
    rw [bare names (List.ne_nil_of_mem member)] at there
    cases there
  · intro names content there
    by_cases same : names = []
    · rw [same, List.append_nil, opens] at there
      cases there
    · rw [bare names same] at there
      cases there
  · intro names
    by_cases same : names = []
    · rw [same, List.append_nil]
      exact .of_directory opens
    · intro allowed target there
      rw [bare names same] at there
      cases there

/-- It stays so when directories are created on the way to outputs, and outputs are written. -/
theorem grown (dotted : Dotted files base) (growth : Growth files tree isMade isWritten)
    (directories : ∀ location, isMade location → ∃ declaration, OnWay base declaration location)
    (outputs : ∀ location, isWritten location → ∃ declaration : Declaration,
      location = base ++ declaration.segments ++ [declaration.fileName]) :
    Dotted tree base := by
  refine ⟨?_, ?_, fun names => growth.unlinked (dotted.unlinked names)⟩
  · intro names opens
    rcases growth.item (base ++ names) with same | ⟨_, _, made⟩ | ⟨_, ⟨content, isFile⟩, _⟩
    · exact dotted.directory names (same.symm.trans opens)
    · obtain ⟨declaration, above, _, within, place⟩ := directories _ made
      rw [List.append_cancel_left_eq] at place
      exact fun name member => segment_undotted (within.subset (place ▸ member))
    · rw [opens] at isFile
      cases isFile
  · intro names content held
    rcases growth.item (base ++ names) with same | ⟨_, opens, _⟩ | ⟨_, _, written⟩
    · exact dotted.file names content (same.symm.trans held)
    · rw [held] at opens
      cases opens
    · obtain ⟨declaration, place⟩ := outputs _ written
      rw [List.append_assoc, List.append_cancel_left_eq] at place
      exact ⟨_, _, place, fileName_dotted declaration⟩

theorem unobstructed (dotted : Dotted tree base) (declaration : Declaration) :
    Unobstructed tree base declaration := by
  constructor
  · rintro location ⟨above, _, within, rfl⟩
    match held : tree.item? (base ++ above) with
    | none => exact .inl rfl
    | some .directory => exact .inr rfl
    | some (.link allowed target) => exact absurd held (dotted.unlinked above allowed target)
    | some (.file content) =>
      obtain ⟨front, name, split, dot⟩ := dotted.file above content held
      have member : name ∈ declaration.segments :=
        within.subset (split ▸ List.mem_append_right front List.mem_cons_self)
      exact absurd dot (segment_undotted member)
  · rw [List.append_assoc]
    refine ⟨fun opens => ?_, dotted.unlinked _⟩
    exact dotted.directory _ opens _ (List.mem_append_right _ List.mem_cons_self)
      (fileName_dotted declaration)

end Dotted

variable {τ : Type} {expander current after : Expander τ} {ready left : FileSystem links}
  {done : List Declaration} {task : Task} {cause : Error}

/-- All trees that the directives of a pass lead to from an empty output root are such. -/
theorem Reach.dotted (reach : Reach expander files done current tree)
    (leads : files.follow (files.start expander.config.outputRoot) expander.config.outputRoot.stem =
      .ok base) (empty : files.get? base = some .empty) : Dotted tree base := by
  have dotted := Dotted.of_empty empty
  refine dotted.grown (reach.growth_from leads dotted.unlinked) ?_ ?_
  · rintro location ⟨declaration, _, _, onWay⟩
    exact ⟨declaration, onWay⟩
  · rintro location ⟨declaration, _, _, here⟩
    exact ⟨declaration, here⟩

/-- The errors that a directive can end with before its text is stored. -/
inductive Refusal (config : Config) (declaration : Declaration) : Error → Prop
  | outputName : declaration.isContained = false →
      Refusal config declaration
        (.invalidOutputName declaration.namespaceName declaration.directive.outputName)
  | templateNotFound :
      Refusal config declaration (.templateNotFound (declaration.templateFile config.templateRoot))
  | templateSyntax (fault : Template.Error) :
      Refusal config declaration (.templateSyntax declaration.templateKey fault)
  | render (fault : Template.Error) :
      Refusal config declaration (.render declaration.templateKey fault)

theorem Refusal.ofTemplate (config : Config) (declaration : Declaration) (fault : Template.Error) :
    Refusal config declaration (.ofTemplate declaration.templateKey fault) := by
  unfold Error.ofTemplate
  split
  · exact .templateSyntax fault
  · exact .render fault

namespace Expander

theorem render_refusal (failed : (expander.render files declaration).1 = .error cause) :
    Refusal expander.config declaration cause := by
  unfold render at failed
  simp only at failed
  split at failed
  · split at failed
    · split at failed <;> cases failed
      · exact .templateNotFound
      · exact .ofTemplate ..
    · split at failed <;> cases failed
      exact .ofTemplate ..
  · cases failed
    exact .templateNotFound

/-- Where nothing stands in the way of its output, a directive fails only before it is stored. -/
theorem expandDirective_refusal (fits : declaration.Fits)
    (clean : FileSystem.hasNul expander.config.outputRoot = false)
    (leads : files.follow (files.start expander.config.outputRoot) expander.config.outputRoot.stem =
      .ok base)
    (opens : files.item? base = some .directory) (unlinked : files.UnlinkedBelow base)
    (unobstructed : Unobstructed files base declaration)
    (fails : expander.expandDirective files declaration = (.error cause, after, left)) :
    Refusal expander.config declaration cause := by
  rcases expander.expandDirective_cases files declaration with ⟨escapes, whole⟩ | ⟨contained,
    ⟨fault, _, rendered, whole⟩ | ⟨text, _, _, _, _, stored, _⟩ | ⟨_, _, _, _, _, whole⟩⟩
  · rw [whole] at fails
    cases fails
    exact .outputName escapes
  · rw [whole] at fails
    cases fails
    exact render_refusal (by rw [rendered])
  · obtain ⟨_, comes⟩ := store_of_unobstructed contained fits clean leads opens unlinked unobstructed text
    rw [comes] at stored
    cases stored
  · rw [whole] at fails
    cases fails

/-- The outputs of a pass do not block each other. If the roots can be created and the output root is
then an empty directory, a pass over names that fit fails at most on a directive that is refused, and
after any of its directives no file stands where the output of another one needs a directory, and no
directory where it goes. This is about the outputs only: a tree has neither permissions nor an end of its
space, for which creating and writing may fail as well. -/
theorem expand_unobstructed (expander : Expander τ) {files ready : FileSystem links} {task : Task}
    {base : Location} (roots : Pass.createRoots files expander.config = (.ok (), ready))
    (leads : ready.follow (ready.start expander.config.outputRoot) expander.config.outputRoot.stem =
      .ok base) (empty : ready.get? base = some .empty)
    (fits : ∀ declaration ∈ task.declarations, declaration.Fits) :
    (∀ cause, (expander.expand files task).result = .error cause →
      ∃ declaration ∈ task.declarations, Refusal expander.config declaration cause) ∧
    ∀ done current tree, done <+: task.declarations → Reach expander.clear ready done current tree →
      ∀ declaration ∈ task.declarations,
        Unobstructed tree base declaration := by
  refine ⟨fun cause failed => ?_, fun done current tree _ reach declaration _ =>
    (reach.dotted leads empty).unobstructed declaration⟩
  rw [Pass.result_eq_error] at failed
  rcases Reach.complete_or_first_failure expander.clear ready task.declarations with
    ⟨current, tree, reach⟩ | ⟨done, declaration, rest, current, tree, fault, after, left, split, reach, fails⟩
  · rw [(expand_of_reach roots reach).1] at failed
    cases failed
  · rw [(expand_of_failure roots split reach fails).1] at failed
    cases failed
    have member : declaration ∈ task.declarations := by simp [split]
    obtain ⟨_, _, created⟩ := Pass.createRoots_eq_ok.mp roots
    have dotted := reach.dotted leads empty
    have growth := reach.growth_from leads (Dotted.of_empty empty).unlinked
    have opens : tree.item? base = some .directory :=
      growth.directory (FileSystem.item?_eq_directory.mpr ⟨[], empty⟩)
    have config : expander.config = current.config := reach.alike.config.symm
    rw [config] at created ⊢
    have refused := expandDirective_refusal (fits declaration member)
      (FileSystem.not_hasNul_of_created created)
      (by rw [growth.start, ← config]; exact growth.follow leads)
      opens dotted.unlinked (dotted.unobstructed declaration) fails
    exact ⟨declaration, member, refused⟩

/-- A class in a namespace that is called like the file of another class finds its way free. Its own
template is missing. -/
theorem expand_unobstructed_nested :
    let first : Declaration := ⟨"model", ⟨"A", .single .int, "Class"⟩⟩
    let second : Declaration := ⟨"model.A.java", ⟨"B", .single .int, "Class"⟩⟩
    let task : Task := ⟨[⟨"model", [first.directive]⟩, ⟨"model.A.java", [second.directive]⟩]⟩
    let ready := (Pass.createRoots sampleFiles sampleExpander.config).2
    (sampleExpander.expand sampleFiles task).result =
        .error (.templateNotFound ⟨"templates/model/A/java/Class.java.ftl"⟩) ∧
      (∃ declaration ∈ task.declarations, Refusal sampleExpander.config declaration
        (.templateNotFound ⟨"templates/model/A/java/Class.java.ftl"⟩)) ∧
      ∃ current tree, Reach sampleExpander.clear ready [first] current tree ∧
        tree.isFile ⟨"generated/model/A.java"⟩ = true ∧
        Unobstructed tree ["generated"] second := by
  intro first second task ready
  have created : (Pass.createRoots sampleFiles sampleExpander.config).1 = .ok () := by decide +kernel
  have roots : Pass.createRoots sampleFiles sampleExpander.config = (.ok (), ready) :=
    Pass.createRoots_of_fst created
  have leads : ready.follow (ready.start sampleExpander.config.outputRoot)
      sampleExpander.config.outputRoot.stem = .ok ["generated"] := by decide +kernel
  have empty : ready.get? ["generated"] = some .empty := by decide +kernel
  have failed : (sampleExpander.expand sampleFiles task).result =
      .error (.templateNotFound ⟨"templates/model/A/java/Class.java.ftl"⟩) :=
    Pass.result_eq_error.mpr (by decide +kernel)
  have written : (sampleExpander.clear.expandDirective ready first).1 =
      .ok ⟨"generated/model/A.java"⟩ := by decide +kernel
  have fits : ∀ declaration ∈ task.declarations, declaration.Fits := by decide +kernel
  obtain ⟨refused, free⟩ := expand_unobstructed sampleExpander roots leads empty fits
  have reach := Reach.single written
  have unobstructed := free [first] _ _ ⟨[second], rfl⟩ reach second (by decide)
  exact ⟨failed, refused _ failed, _, _, reach, by decide +kernel, unobstructed⟩

end Expander

end Expansion

end Stencil
