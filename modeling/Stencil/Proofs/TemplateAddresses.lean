import Stencil.Proofs.ExpanderHistory
import Stencil.Proofs.FailureAtomicity
import Stencil.Proofs.ParserFaults

namespace Stencil

namespace Declaration

variable {links : Linkage}

variable {declaration : Declaration}

/-- The directive under another output name. Its template has the same addresses. -/
def renamed (declaration : Declaration) (name : String) : Declaration :=
  { declaration with directive := { declaration.directive with outputName := name } }

theorem isContained_renamed (plain : declaration.segments.all isPlainSegment = true) :
    (declaration.renamed "A").isContained = true := by
  have name : isPlainSegment "A" = true := by decide
  exact Bool.and_eq_true_iff.mpr ⟨plain, name⟩

/-- Where no segment has a slash, the slashes of a key are the dots of its namespace. -/
theorem directoryText_pieces (plain : declaration.segments.all isPlainSegment = true) :
    Path.pieces ⟨declaration.directoryText⟩ = declaration.segments := by
  have noSlash : '/' ∉ declaration.namespaceName.toList := by
    intro slash
    obtain ⟨cs, inCut, within⟩ := (Text.mem_iff_mem_cut (by decide : '/' ≠ '.') _).mp slash
    have member : String.ofList cs ∈ declaration.segments := List.mem_map_of_mem inCut
    have single := (segment_ordinary (isContained_renamed plain) member).2
    rw [String.toList_ofList] at single
    exact single within
  unfold directoryText segments Path.pieces Text.pieces
  rw [String.toList_map]
  generalize declaration.namespaceName.toList = cs at noSlash
  congr 1
  induction cs with
  | nil => rfl
  | cons c rest ih =>
    simp only [List.mem_cons, not_or] at noSlash
    have later := ih noSlash.2
    by_cases dot : c = '.'
    · simp [Text.cut, dot, later]
    · have notSlash : c ≠ '/' := fun same => noSlash.1 same.symm
      simp [Text.cut, dot, notSlash, later]

theorem source_isAbsolute (declaration : Declaration) :
    declaration.source.isAbsolute = true ↔
      declaration.directive.templateName.toList.head? = some '/' := by
  unfold source Path.isAbsolute
  rw [String.toList_append]
  cases declaration.directive.templateName.toList with
  | nil => simp [templateSuffix]
  | cons c rest => simp

/-- A key starts with a name. -/
theorem templateKey_head (plain : declaration.segments.all isPlainSegment = true) :
    ∃ first rest, Path.pieces ⟨declaration.templateKey⟩ = first :: rest ∧ first ≠ "" ∧ first ≠ "." := by
  have spelled := declaration.templateKey_pieces
  rw [directoryText_pieces plain] at spelled
  cases found : declaration.segments with
  | nil => exact absurd found declaration.segments_ne_nil
  | cons first others =>
    rw [found] at spelled
    have member : first ∈ (declaration.renamed "A").segments :=
      found.symm ▸ (List.mem_cons_self : first ∈ first :: others)
    obtain ⟨notEmpty, notDot, _⟩ := (segment_ordinary (isContained_renamed plain) member).1.ordinary
    exact ⟨first, _, spelled, notEmpty, notDot⟩

theorem templateKey_isRelative (plain : declaration.segments.all isPlainSegment = true) :
    Path.isAbsolute ⟨declaration.templateKey⟩ = false := by
  obtain ⟨first, rest, begins, notEmpty, _⟩ := templateKey_head plain
  rw [← Bool.not_eq_true, Path.isAbsolute_iff_pieces]
  rintro ⟨others, _, same⟩
  rw [begins] at same
  exact notEmpty (List.cons.inj same).1

theorem templateKey_components (plain : declaration.segments.all isPlainSegment = true) (root : Path) :
    (root.join ⟨declaration.templateKey⟩).components =
      root.components ++ (declaration.segments.map .name ++
        declaration.source.pieces.filterMap Path.Component.ofPiece?) := by
  obtain ⟨first, rest, begins, _, notDot⟩ := templateKey_head plain
  have joined := Path.components_join root (templateKey_isRelative plain) (by simp [begins, notDot])
  have names := @filterMap_segments (declaration.renamed "A") (isContained_renamed plain)
  rw [joined, declaration.templateKey_pieces, directoryText_pieces plain, List.filterMap_append]
  exact congrArg (fun steps => root.components ++ (steps ++ _)) names

/-- A relative template name adds its own steps to the directory of its namespace. -/
theorem templateFile_components (plain : declaration.segments.all isPlainSegment = true)
    (relative : declaration.source.isAbsolute = false) (root : Path) :
    (declaration.templateFile root).components =
      root.components ++ (declaration.segments.map .name ++
        declaration.source.pieces.filterMap Path.Component.ofPiece?) := by
  have contained := isContained_renamed plain
  have named : (root.join declaration.directory).spelling ≠ "" :=
    directory_join_ne_empty contained root
  have joined := Path.components_join (root.join declaration.directory) relative
    fun empty => absurd empty named
  have directory : (root.join declaration.directory).components =
      root.components ++ declaration.segments.map .name := directory_components contained root
  rw [directory, List.append_assoc] at joined
  exact joined

/-- The two addresses of a template have the same components if and only if its name is relative. An
absolute name replaces all that stands before it in the path of the file, but not in the key. -/
theorem components_addresses_iff (plain : declaration.segments.all isPlainSegment = true)
    (root : Path) :
    (root.join ⟨declaration.templateKey⟩).components = (declaration.templateFile root).components ↔
      declaration.source.isAbsolute = false := by
  cases absolute : declaration.source.isAbsolute with
  | false =>
    simp only [iff_true]
    rw [templateKey_components plain, templateFile_components plain absolute]
  | true =>
    simp only [Bool.true_eq_false, iff_false]
    have alone : declaration.templateFile root = declaration.source :=
      Path.join_of_isAbsolute absolute
    have steps : declaration.source.components =
        [.root] ++ declaration.source.pieces.filterMap Path.Component.ofPiece? := by
      rw [Path.components, if_pos absolute]
      rfl
    rw [templateKey_components plain, alone, steps, ← List.append_assoc, List.append_cancel_right_eq]
    -- What stands before the common end is a name for the key, but the root for the file.
    intro same
    rcases List.eq_nil_or_concat declaration.segments with none | ⟨front, final, split⟩
    · exact declaration.segments_ne_nil none
    · have last := congrArg List.getLast? same
      simp [split] at last

theorem resolve_addresses (plain : declaration.segments.all isPlainSegment = true)
    (relative : declaration.source.isAbsolute = false) (files : FileSystem links) (root : Path) :
    files.resolve (root.join ⟨declaration.templateKey⟩) =
      files.resolve (declaration.templateFile root) := by
  have same := (components_addresses_iff plain root).mpr relative
  obtain ⟨front, last, spelled⟩ := declaration.source_pieces
  obtain ⟨fileLast, fileEnds⟩ := declaration.templateFile_last root
  have keyEnds : (root.join ⟨declaration.templateKey⟩).pieces.getLast? =
      some (last ++ templateSuffix) := by
    rw [Path.pieces_join root (templateKey_isRelative plain), declaration.templateKey_pieces, spelled,
      ← List.append_assoc, ← List.append_assoc, List.getLast?_concat]
  have moves (name : String) : ¬ Path.IsIdle (name ++ templateSuffix) :=
    (solidEnd_templateSuffix name).not_isIdle
  exact FileSystem.resolve_of_components same keyEnds (moves last) fileEnds (moves fileLast)

end Declaration

namespace Expansion.Expander

variable {τ : Type} {expander : Expander τ} {files : FileSystem links} {declaration : Declaration}

theorem Rooted.expandDirective (rooted : expander.Rooted) (files : FileSystem links)
    (declaration : Declaration) : (expander.expandDirective files declaration).2.1.Rooted := by
  rw [expandDirective_expander]
  split
  · exact rooted.render files declaration
  · exact rooted

theorem rooted_expandInto (expander : Expander τ) (files : FileSystem links) (task : Task)
    (report : Report) : (expander.expandInto files task report).expander.Rooted := by
  have course := expander.course files task report
  generalize expander.expandInto files task report = pass at course
  cases course with
  | blocked roots => exact expander.rooted_clear
  | finished roots reach => exact reach.rooted
  | @stopped ready done declaration rest current tree cause after left log roots split reach fails =>
    have last := reach.rooted.expandDirective tree declaration
    rwa [fails] at last

theorem Rooted.after (rooted : expander.Rooted) (request : Request links) :
    (expander.after request).Rooted := by
  cases request with
  | render files declaration => exact rooted.render files declaration
  | expand files task => exact expander.rooted_expandInto files task _
  | expandInto files task report => exact expander.rooted_expandInto files task report

/-- Whatever an expander has been asked for, it keeps no template under a name that leads up. -/
theorem rooted_history (engine : Engine τ) (config : Config) (history : List (Request links)) :
    (history.foldl Expander.after ⟨engine, config, []⟩).Rooted := by
  have kept (expander : Expander τ) (rooted : expander.Rooted) :
      (history.foldl Expander.after expander).Rooted := by
    induction history generalizing expander with
    | nil => exact rooted
    | cons request rest ih => exact ih _ (rooted.after request)
  exact kept _ fun _ _ found => nomatch found

/-- Where both addresses of a template are one, it is missing if its file is missing or its key leads
up. What is loaded already makes no difference. -/
theorem Rooted.missesTemplate_iff (rooted : expander.Rooted) (finds : expander.engine.FindsSources)
    (plain : declaration.segments.all isPlainSegment = true)
    (relative : declaration.source.isAbsolute = false) :
    expander.MissesTemplate files declaration ↔
      files.isFile (declaration.templateFile expander.config.templateRoot) = false ∨
        ".." ∈ Path.pieces ⟨declaration.templateKey⟩ := by
  unfold MissesTemplate
  rw [fetch_notFound_iff finds]
  cases present : files.isFile (declaration.templateFile expander.config.templateRoot) with
  | false => simp
  | true =>
    simp only [Bool.true_eq_false, false_or]
    constructor
    · rintro ⟨_, lost⟩
      by_contra stays
      obtain ⟨location, content, found, atFile⟩ := FileSystem.isFile_iff.mp present
      have held : files.read (expander.config.templateRoot.join ⟨declaration.templateKey⟩) =
          .ok content :=
        FileSystem.read_of_item ((Declaration.resolve_addresses plain relative ..).trans found) atFile
      exact loadSource_of_read stays held lost
    · intro up
      refine ⟨?_, loadSource_of_up files _ up⟩
      cases kept : expander.cache.find? declaration.templateKey with
      | none => rfl
      | some template => exact absurd up (rooted _ template kept)

/-- The two addresses of a template, that of the file whose presence is checked and that under which
it is loaded, agree exactly for relative template names. For these, whatever an expander has done
before, a template counts as missing if and only if its file is missing or its key has a `..` step. -/
theorem template_addresses (engine : Engine τ) (config : Config) (declaration : Declaration)
    (plain : declaration.segments.all isPlainSegment = true) (finds : engine.FindsSources) :
    ((config.templateRoot.join ⟨declaration.templateKey⟩).components =
        (declaration.templateFile config.templateRoot).components ↔
      declaration.directive.templateName.toList.head? ≠ some '/') ∧
    (declaration.directive.templateName.toList.head? ≠ some '/' →
      ∀ (history : List (Request links)) (files : FileSystem links) (path : Path),
        ((history.foldl Expander.after ⟨engine, config, []⟩).render files declaration).1 =
            .error (.templateNotFound path) ↔
          path = declaration.templateFile config.templateRoot ∧
            (files.isFile (declaration.templateFile config.templateRoot) = false ∨
              ".." ∈ Path.pieces ⟨declaration.templateKey⟩)) := by
  have isRelative : declaration.source.isAbsolute = false ↔
      declaration.directive.templateName.toList.head? ≠ some '/' := by
    rw [← Bool.not_eq_true, declaration.source_isAbsolute]
  refine ⟨?_, fun relative history files path => ?_⟩
  · rw [Declaration.components_addresses_iff plain, isRelative]
  · have alike := history_alike ⟨engine, config, []⟩ history
    have rooted := rooted_history engine config history
    rw [render_eq_templateNotFound_iff, rooted.missesTemplate_iff (alike.engine ▸ finds) plain
      (isRelative.mpr relative), alike.config]

/-- A name that leads up is not asked for, although it leads back to a file that is there. -/
theorem template_addresses_up :
    let declaration : Declaration := ⟨"model", ⟨"A", .single .int, "../model/Class"⟩⟩
    sampleFiles.isFile (declaration.templateFile sampleExpander.config.templateRoot) = true ∧
      (sampleExpander.render sampleFiles declaration).1 =
        .error (.templateNotFound ⟨"templates/model/../model/Class.java.ftl"⟩) := by
  intro declaration
  have there : sampleFiles.isFile (declaration.templateFile sampleExpander.config.templateRoot) = true := by
    decide +kernel
  have missing := (template_addresses Template.engine sampleExpander.config declaration (by decide)
    Template.engine_findsSources).2 (by decide) [] sampleFiles
  exact ⟨there, (missing _).mpr ⟨by decide +kernel, .inr (by decide +kernel)⟩⟩

end Expansion.Expander

end Stencil
