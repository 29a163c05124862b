import Stencil.Proofs.PathListings
import Stencil.Proofs.PathSpellings
import Stencil.Proofs.RenderingRuns
import Stencil.Proofs.StoredFiles
import Stencil.Proofs.TemplateLoading
import Stencil.Task

namespace Stencil

namespace Declaration

variable {declaration : Declaration}

/-- The last of what a template's path is joined from. It may be any path. -/
def source (declaration : Declaration) : Path :=
  ⟨declaration.directive.templateName ++ templateSuffix⟩

theorem source_pieces (declaration : Declaration) :
    ∃ front last, declaration.source.pieces = front ++ [last ++ templateSuffix] :=
  Text.pieces_append_of_not_mem (by decide) _

theorem solidEnd_templateSuffix (name : String) : Path.SolidEnd ⟨name ++ templateSuffix⟩ :=
  ⟨'l', by simp [templateSuffix], by decide, by decide⟩

theorem templateFile_last (declaration : Declaration) (root : Path) :
    ∃ last, (declaration.templateFile root).pieces.getLast? = some (last ++ templateSuffix) := by
  obtain ⟨front, last, spelled⟩ := declaration.source_pieces
  refine ⟨last, ?_⟩
  change ((root.join declaration.directory).join declaration.source).pieces.getLast? = _
  cases absolute : declaration.source.isAbsolute with
  | true => rw [Path.join_of_isAbsolute absolute, spelled, List.getLast?_concat]
  | false => rw [Path.pieces_join _ absolute, spelled, ← List.append_assoc, List.getLast?_concat]

theorem templateKey_pieces (declaration : Declaration) :
    Path.pieces ⟨declaration.templateKey⟩ =
      Path.pieces ⟨declaration.directoryText⟩ ++ declaration.source.pieces := by
  have cuts := Text.pieces_append '/' declaration.directoryText declaration.source.spelling
  unfold templateKey
  rw [String.append_assoc]
  exact cuts

/-- The template's path is the root's with one path joined to it that does not lead up, unless the
key does so. -/
theorem templateFile_eq_join (contained : declaration.isContained = true) :
    ∃ tail : Path, (∀ root, declaration.templateFile root = root.join tail) ∧
      (".." ∈ tail.pieces → ".." ∈ Path.pieces ⟨declaration.templateKey⟩) := by
  obtain ⟨solid, relative, spelled⟩ := directory_pieces contained
  rw [templateKey_pieces]
  cases absolute : declaration.source.isAbsolute with
  | true =>
    refine ⟨declaration.source, fun root => ?_, List.mem_append_right _⟩
    change (root.join declaration.directory).join declaration.source = _
    rw [Path.join_of_isAbsolute absolute, Path.join_of_isAbsolute absolute]
  | false =>
    refine ⟨declaration.directory.join declaration.source, fun root => ?_, fun up => ?_⟩
    · exact solid.join_assoc relative absolute
    · rw [solid.pieces_append absolute, spelled] at up
      rcases List.mem_append.mp up with inside | last
      · exact absurd rfl (segment_ordinary contained inside).1.ordinary.2.2
      · exact List.mem_append_right _ last

/-- No template is where an output is put. -/
theorem place_templateFile_ne (declaration : Declaration) {other : Declaration}
    (contained : other.isContained = true) (files : FileSystem .linkFree) (root outputRoot : Path) :
    files.place (declaration.templateFile root) ≠ files.place (other.outputFile outputRoot) := by
  obtain ⟨last, ends⟩ := declaration.templateFile_last root
  obtain ⟨front, spelled⟩ := List.getLast?_eq_some_iff.mp ends
  obtain ⟨notEmpty, notDot, notUp⟩ := (solidEnd_templateSuffix last).ordinary
  rw [place_outputFile contained, FileSystem.place, spelled, List.foldl_append, List.foldl_cons,
    List.foldl_nil, Location.advance_name _ notEmpty notDot notUp]
  intro same
  have sameName := List.singleton_inj.mp (List.append_inj' same rfl).2
  have sameLast := congrArg (fun name => name.toList.getLast?) sameName
  simp [fileName, templateSuffix, outputSuffix] at sameLast

end Declaration

theorem FileSystem.isFile_eq_read {links : Linkage} (fs : FileSystem links) (path : Path) :
    fs.isFile path = (fs.read path).toOption.isSome := by
  rw [Bool.eq_iff_iff, isFile_iff_read]
  cases fs.read path <;> simp [Except.toOption]

/-- Whether a path that is joined to a root without leading up is that of a file changes only by a
file that is written there. -/
theorem Growth.isFile_join {before after : FileSystem .linkFree} {made written : Location → Prop}
    (growth : Growth before after made written) {root tail : Path} (stays : ".." ∉ tail.pieces)
    (leads : before.follow (before.start root) root.stem = .ok (before.place root))
    (notWritten : ¬ written (before.place (root.join tail))) :
    after.isFile (root.join tail) = before.isFile (root.join tail) := by
  rw [Bool.eq_iff_iff]
  refine ⟨fun held => ?_, growth.isFile⟩
  obtain ⟨location, content, found, atFile⟩ := FileSystem.isFile_iff.mp held
  obtain rfl : location = before.place (root.join tail) := by
    rw [FileSystem.resolve_eq_place found, growth.place]
  rcases growth.item (before.place (root.join tail)) with same | ⟨_, opens, _⟩ | ⟨_, _, isWritten⟩
  · rw [same] at atFile
    have present : before.item? (before.place (root.join tail)) ≠ none := by simp [atFile]
    have resolves := FileSystem.resolve_join_along stays growth.workingDirectory leads
      (by rw [growth.start]; exact growth.follow leads)
      fun above within => FileSystem.like_above present (.of_eq same) within
    exact FileSystem.isFile_iff.mpr ⟨_, content, resolves.symm.trans found, atFile⟩
  · simp [opens] at atFile
  · exact absurd isWritten notWritten

/-- Outputs that are written, wherever that is, add no template and remove none. -/
theorem Growth.isFile_templateFile {before after : FileSystem .linkFree} {made written : Location → Prop}
    {declaration : Declaration} {root : Path} (growth : Growth before after made written)
    (contained : declaration.isContained = true)
    (stays : ".." ∉ Path.pieces ⟨declaration.templateKey⟩)
    (leads : before.follow (before.start root) root.stem = .ok (before.place root))
    (outputs : ∀ location, written location → ∃ (other : Declaration) (outputRoot : Path),
      other.isContained = true ∧ location = before.place (other.outputFile outputRoot)) :
    after.isFile (declaration.templateFile root) = before.isFile (declaration.templateFile root) := by
  obtain ⟨tail, joined, up⟩ := Declaration.templateFile_eq_join contained
  have notWritten : ¬ written (before.place (declaration.templateFile root)) := by
    intro isWritten
    obtain ⟨other, outputRoot, otherContained, here⟩ := outputs _ isWritten
    exact declaration.place_templateFile_ne otherContained before root outputRoot here
  rw [joined] at notWritten ⊢
  exact growth.isFile_join (fun inTail => stays (up inTail)) leads notWritten

/-- The template of every directive is listed, if perhaps in another spelling. -/
theorem Task.exists_inputFile {task : Task} {declaration : Declaration}
    (member : declaration ∈ task.declarations) (root : Path) :
    ∃ path ∈ task.inputFiles root, ∀ (links : Linkage) (fs : FileSystem links),
      fs.resolve path = fs.resolve (declaration.templateFile root) := by
  obtain ⟨path, listed, same⟩ := Path.exists_mem_listing
    (List.mem_map_of_mem (f := (·.templateFile root)) member)
  obtain ⟨other, _, rfl⟩ := List.mem_map.mp (Path.mem_of_mem_listing listed)
  obtain ⟨last, ends⟩ := declaration.templateFile_last root
  obtain ⟨otherLast, otherEnds⟩ := other.templateFile_last root
  have moves (name : String) : ¬ Path.IsIdle (name ++ templateSuffix) :=
    (Declaration.solidEnd_templateSuffix name).not_isIdle
  exact ⟨_, listed, fun _ _ =>
    FileSystem.resolve_of_components same otherEnds (moves otherLast) ends (moves last)⟩

end Stencil
