import Mathlib.Data.List.Basic
import Stencil.Proofs.PathPieces

namespace Stencil.Declaration

variable {declaration : Declaration}

theorem segments_ne_nil (declaration : Declaration) : declaration.segments ≠ [] :=
  Text.pieces_ne_nil '.' declaration.namespaceName

theorem isPlainSegment_iff (segment : String) :
    isPlainSegment segment = true ↔ segment ≠ "" ∧ segment ≠ "." ∧ segment ≠ ".." ∧
      '/' ∉ segment.toList ∧ '\\' ∉ segment.toList := by
  simp [isPlainSegment, and_assoc]

/-- The segments of a contained directive have no slash, and being cut at the dots no dot either. -/
theorem segment_ordinary (contained : declaration.isContained = true) {segment : String}
    (member : segment ∈ declaration.segments) :
    Path.SolidEnd ⟨segment⟩ ∧ '/' ∉ segment.toList := by
  simp only [isContained, Bool.and_eq_true, List.all_eq_true] at contained
  obtain ⟨notEmpty, _, _, noSlash, _⟩ := (isPlainSegment_iff segment).mp (contained.1 segment member)
  have noDot : '.' ∉ segment.toList := Text.not_mem_of_mem_pieces member
  refine ⟨?_, noSlash⟩
  have notNil : segment.toList ≠ [] := fun empty => notEmpty (String.toList_eq_nil_iff.mp empty)
  have within := List.getLast_mem notNil
  refine ⟨_, List.getLast?_eq_some_getLast notNil, ?_, ?_⟩
  · intro slash
    exact noSlash (slash ▸ within)
  · intro dot
    exact noDot (dot ▸ within)

/-- The name of the file that a directive writes. -/
def fileName (declaration : Declaration) : String :=
  declaration.directive.outputName ++ outputSuffix

theorem fileName_ordinary (contained : declaration.isContained = true) :
    Path.SolidEnd ⟨declaration.fileName⟩ ∧ '/' ∉ declaration.fileName.toList := by
  simp only [isContained, Bool.and_eq_true] at contained
  obtain ⟨_, _, _, noSlash, _⟩ := (isPlainSegment_iff _).mp contained.2
  constructor
  · exact ⟨'a', by simp [fileName, outputSuffix], by decide, by decide⟩
  · simp [fileName, outputSuffix, noSlash]

theorem directory_pieces (contained : declaration.isContained = true) :
    declaration.directory.SolidEnd ∧ declaration.directory.isAbsolute = false ∧
      declaration.directory.pieces = declaration.segments := by
  match found : declaration.segments with
  | [] => exact absurd found declaration.segments_ne_nil
  | first :: rest =>
    have each : ∀ segment ∈ first :: rest, Path.SolidEnd ⟨segment⟩ ∧ '/' ∉ segment.toList :=
      fun segment member => segment_ordinary contained (found ▸ member)
    obtain ⟨closed, single⟩ := each first List.mem_cons_self
    have begins : declaration.directory = Path.joinAll ⟨first⟩ rest := by
      have relative := Path.isRelative_of_single single
      simp [directory, found, Path.joinAll, Path.join, relative]
    obtain ⟨ends, absolute, pieces⟩ := closed.joinAll fun segment member =>
      each segment (List.mem_cons_of_mem _ member)
    rw [begins]
    refine ⟨ends, absolute.trans (Path.isRelative_of_single single), pieces.trans ?_⟩
    rw [Path.pieces_of_single single, List.singleton_append]

theorem directory_join_ne_empty (contained : declaration.isContained = true) (root : Path) :
    (root.join declaration.directory).spelling ≠ "" := by
  obtain ⟨solid, relative, _⟩ := directory_pieces contained
  obtain ⟨c, last, _⟩ := Path.SolidEnd.of_join root solid relative
  intro empty
  simp [empty] at last

theorem filterMap_segments (contained : declaration.isContained = true) :
    declaration.segments.filterMap Path.Component.ofPiece? =
      declaration.segments.map Path.Component.name := by
  rw [← List.filterMap_eq_map]
  apply List.filterMap_congr
  intro segment member
  obtain ⟨notEmpty, notDot, notDots⟩ := (segment_ordinary contained member).1.ordinary
  exact Path.Component.ofPiece?_eq_name notEmpty notDot notDots

theorem directory_components (contained : declaration.isContained = true) (root : Path) :
    (root.join declaration.directory).components =
      root.components ++ declaration.segments.map Path.Component.name := by
  obtain ⟨_, relative, pieces⟩ := directory_pieces contained
  rw [← filterMap_segments contained, ← pieces]
  apply Path.components_join root relative
  rw [pieces]
  intro _ dot
  have member := List.mem_of_mem_head? (Option.mem_def.mpr dot)
  exact (segment_ordinary contained member).1.ordinary.2.1 rfl

theorem outputFile_pieces (contained : declaration.isContained = true) (root : Path) :
    (declaration.outputFile root).pieces =
      (root.join declaration.directory).pieces ++ [declaration.fileName] := by
  obtain ⟨solid, relative, _⟩ := directory_pieces contained
  obtain ⟨_, single⟩ := fileName_ordinary contained
  rw [← Path.pieces_of_single single]
  exact (Path.SolidEnd.of_join root solid relative).pieces_append (Path.isRelative_of_single single)

theorem outputFile_isAbsolute (contained : declaration.isContained = true) (root : Path) :
    (declaration.outputFile root).isAbsolute = root.isAbsolute := by
  obtain ⟨_, relative, _⟩ := directory_pieces contained
  obtain ⟨_, single⟩ := fileName_ordinary contained
  exact (Path.isAbsolute_join (Path.isRelative_of_single single)).trans (Path.isAbsolute_join relative)

theorem outputFile_components (contained : declaration.isContained = true) (root : Path) :
    (declaration.outputFile root).components =
      root.components ++ declaration.segments.map Path.Component.name ++
        [.name declaration.fileName] := by
  obtain ⟨closed, single⟩ := fileName_ordinary contained
  obtain ⟨notEmpty, notDot, notDots⟩ := closed.ordinary
  have alone := Path.pieces_of_single single
  have joined := Path.components_join (root.join declaration.directory)
    (Path.isRelative_of_single single) (by simp [alone, notDot])
  rw [alone, directory_components contained root] at joined
  rw [List.filterMap_cons_some (Path.Component.ofPiece?_eq_name notEmpty notDot notDots),
    List.filterMap_nil] at joined
  exact joined

theorem outputFile_parent? (contained : declaration.isContained = true) (root : Path) :
    (declaration.outputFile root).parent? = some (root.join declaration.directory) := by
  obtain ⟨solid, relative, _⟩ := directory_pieces contained
  obtain ⟨closed, single⟩ := fileName_ordinary contained
  exact (Path.SolidEnd.of_join root solid relative).parent?_join closed single

/-- Two directives that are declared under the same names. -/
def SameOutput (declaration other : Declaration) : Prop :=
  declaration.namespaceName = other.namespaceName ∧
    declaration.directive.outputName = other.directive.outputName

instance (declaration other : Declaration) : Decidable (declaration.SameOutput other) :=
  inferInstanceAs (Decidable (_ ∧ _))

theorem sameOutput_of_names {other : Declaration}
    (same : declaration.segments ++ [declaration.fileName] = other.segments ++ [other.fileName]) :
    declaration.SameOutput other := by
  obtain ⟨sameSegments, sameName⟩ := List.append_inj' same rfl
  refine ⟨Text.pieces_injective sameSegments, ?_⟩
  have spelled := congrArg String.toList (List.singleton_inj.mp sameName)
  simp only [fileName, String.toList_append, List.append_cancel_right_eq] at spelled
  exact String.toList_injective spelled

end Stencil.Declaration
