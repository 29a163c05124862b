import Stencil.Proofs.DirectoryCreation

namespace Stencil

namespace Path

/-- A piece that leads nowhere. -/
def IsIdle (piece : String) : Prop :=
  piece = "" ∨ piece = "."

instance (piece : String) : Decidable (IsIdle piece) :=
  inferInstanceAs (Decidable (_ ∨ _))

theorem SolidEnd.not_isIdle {name : String} (solid : SolidEnd ⟨name⟩) : ¬ IsIdle name :=
  fun idle => idle.elim solid.ordinary.1 solid.ordinary.2.1

/-- The pieces of a path that lead somewhere. -/
def steps (path : Path) : List String :=
  path.pieces.filter (¬ IsIdle ·)

/-- The piece that a component was read from. -/
def Component.piece : Component → String
  | .parent => ".."
  | component => component.text

theorem Component.ofPiece?_eq_none {piece : String} (idle : IsIdle piece) :
    ofPiece? piece = none := by
  rcases idle with rfl | rfl <;> rfl

theorem Component.ofPiece?_piece {piece : String} (moves : ¬ IsIdle piece) :
    ∃ component, ofPiece? piece = some component ∧ component.piece = piece ∧
      component ≠ .root ∧ component ≠ .current := by
  by_cases up : piece = ".."
  · exact ⟨.parent, by simp [up, ofPiece?], by simp [up, Component.piece], by simp, by simp⟩
  · have notEmpty : piece ≠ "" := fun empty => moves (.inl empty)
    have notDot : piece ≠ "." := fun dot => moves (.inr dot)
    exact ⟨.name piece, ofPiece?_eq_name notEmpty notDot up, rfl, by simp, by simp⟩

theorem map_piece_filterMap (pieces : List String) :
    (pieces.filterMap Component.ofPiece?).map Component.piece = pieces.filter (¬ IsIdle ·) := by
  induction pieces with
  | nil => rfl
  | cons piece rest ih =>
    by_cases idle : IsIdle piece
    · rw [List.filterMap_cons_none (Component.ofPiece?_eq_none idle), ih,
        List.filter_cons_of_neg (by simpa using idle)]
    · obtain ⟨component, read, back, _⟩ := Component.ofPiece?_piece idle
      rw [List.filterMap_cons_some read, List.map_cons, back, ih,
        List.filter_cons_of_pos (by simpa using idle)]

theorem filterMap_ofPiece? {pieces : List String} (stays : ".." ∉ pieces) :
    pieces.filterMap Component.ofPiece? = (pieces.filter (¬ IsIdle ·)).map .name := by
  induction pieces with
  | nil => rfl
  | cons piece rest ih =>
    simp only [List.mem_cons, not_or] at stays
    by_cases idle : IsIdle piece
    · rw [List.filterMap_cons_none (Component.ofPiece?_eq_none idle), ih stays.2,
        List.filter_cons_of_neg (by simpa using idle)]
    · have named := Component.ofPiece?_eq_name (fun empty => idle (.inl empty))
        (fun dot => idle (.inr dot)) fun up => stays.1 up.symm
      rw [List.filterMap_cons_some named, ih stays.2, List.filter_cons_of_pos (by simpa using idle),
        List.map_cons]

theorem ordinary_of_mem_filterMap {pieces : List String} {component : Component}
    (member : component ∈ pieces.filterMap Component.ofPiece?) :
    component ≠ .root ∧ component ≠ .current := by
  obtain ⟨piece, _, read⟩ := List.mem_filterMap.mp member
  by_cases idle : IsIdle piece
  · simp [Component.ofPiece?_eq_none idle] at read
  · obtain ⟨other, same, _, ordinary⟩ := Component.ofPiece?_piece idle
    rw [same, Option.some.injEq] at read
    exact read ▸ ordinary

theorem root_mem_components (path : Path) : .root ∈ path.components ↔ path.isAbsolute = true := by
  have notRoot : .root ∉ path.pieces.filterMap Component.ofPiece? := fun member =>
    (ordinary_of_mem_filterMap member).1 rfl
  unfold components
  cases path.isAbsolute with
  | true => simp
  | false =>
    simp only [Bool.false_eq_true, if_false, iff_false]
    split
    · simpa using notRoot
    · exact notRoot

theorem filter_components (path : Path) :
    path.components.filter (fun component => component ≠ .root ∧ component ≠ .current) =
      path.pieces.filterMap Component.ofPiece? := by
  have kept : (path.pieces.filterMap Component.ofPiece?).filter
      (fun component => component ≠ .root ∧ component ≠ .current) =
        path.pieces.filterMap Component.ofPiece? :=
    List.filter_eq_self.mpr fun component member =>
      decide_eq_true (ordinary_of_mem_filterMap member)
  unfold components
  split
  · exact (List.filter_cons_of_neg (by simp)).trans kept
  · split
    · exact (List.filter_cons_of_neg (by simp)).trans kept
    · exact kept

/-- From the components of a path it is known where it starts and what it goes along. -/
theorem eq_of_components {path other : Path} (same : path.components = other.components) :
    path.isAbsolute = other.isAbsolute ∧ path.steps = other.steps := by
  constructor
  · rw [Bool.eq_iff_iff, ← root_mem_components, ← root_mem_components, same]
  · unfold steps
    rw [← map_piece_filterMap, ← map_piece_filterMap, ← filter_components, ← filter_components, same]

end Path

theorem Location.advance_idle (here : Location) {piece : String} (idle : Path.IsIdle piece) :
    here.advance piece = here := by
  unfold Path.IsIdle at idle
  rw [advance, if_pos idle]

/-- Pieces that do not lead up lead along those of them that are names. -/
theorem Location.foldl_advance_steps (here : Location) {pieces : List String} (stays : ".." ∉ pieces) :
    pieces.foldl advance here = here ++ pieces.filter (¬ Path.IsIdle ·) := by
  induction pieces generalizing here with
  | nil => simp
  | cons piece rest ih =>
    simp only [List.mem_cons, not_or] at stays
    rw [List.foldl_cons, ih _ stays.2]
    by_cases idle : Path.IsIdle piece
    · rw [List.filter_cons_of_neg (by simpa using idle), advance_idle here idle]
    · have named : here.advance piece = here ++ [piece] :=
        advance_name here (fun empty => idle (.inl empty)) (fun dot => idle (.inr dot))
          fun up => stays.1 up.symm
      rw [List.filter_cons_of_pos (by simpa using idle), named, List.append_assoc,
        List.singleton_append]

namespace FileSystem

variable {links : Linkage} {fs : FileSystem links}

theorem step_idle {here : Location} {piece : String} (idle : Path.IsIdle piece)
    (opens : fs.item? here = some .directory) : fs.step here piece = .ok here := by
  unfold Path.IsIdle at idle
  refine step_of_unlinked ?_ (.of_directory opens)
  rw [enter_eq, opens]
  simp only [idle, if_true]

/-- Where no directory is, all pieces fail alike. -/
theorem step_of_closed {here : Location} (closed : fs.item? here ≠ some .directory)
    (piece other : String) : fs.step here piece = fs.step here other ∧
      ∃ fault, fs.step here piece = .error fault := by
  have stops : ∃ fault, ∀ piece, fs.enter here piece = .error fault := by
    match held : fs.item? here with
    | none => exact ⟨.notFound, fun piece => by rw [enter_eq, held]⟩
    | some (.file content) => exact ⟨.notADirectory, fun piece => by rw [enter_eq, held]⟩
    | some (.link allowed target) => exact ⟨.notADirectory, fun piece => by rw [enter_eq, held]⟩
    | some .directory => exact absurd held closed
  obtain ⟨fault, fails⟩ := stops
  have stopped (piece : String) : fs.step here piece = .error fault := stepWithin_of_error (fails piece)
  exact ⟨(stopped piece).trans (stopped other).symm, fault, stopped piece⟩

/-- Idle pieces can be left out before a piece that is not. -/
theorem follow_filter {here : Location} {pieces : List String} {last : String}
    (ends : pieces.getLast? = some last) (moves : ¬ Path.IsIdle last) :
    fs.follow here pieces = fs.follow here (pieces.filter (¬ Path.IsIdle ·)) := by
  induction pieces generalizing here with
  | nil => cases ends
  | cons piece rest ih =>
    cases rest with
    | nil =>
      obtain rfl : piece = last := by simpa using ends
      rw [List.filter_cons_of_pos (by simpa using moves), List.filter_nil]
    | cons next others =>
      have later : (next :: others).getLast? = some last := by simpa using ends
      by_cases idle : Path.IsIdle piece
      · rw [List.filter_cons_of_neg (by simpa using idle)]
        by_cases opens : fs.item? here = some .directory
        · rw [follow_cons, step_idle idle opens]
          exact ih later
        · have member : last ∈ (next :: others).filter (¬ Path.IsIdle ·) :=
            List.mem_filter.mpr ⟨List.mem_of_getLast? later, by simpa using moves⟩
          cases remaining : (next :: others).filter (¬ Path.IsIdle ·) with
          | nil =>
            rw [remaining] at member
            cases member
          | cons first behind =>
            obtain ⟨same, fault, fails⟩ := step_of_closed opens piece first
            rw [follow_cons, follow_cons, ← same, fails]
            rfl
      · rw [List.filter_cons_of_pos (by simpa using idle), follow_cons, follow_cons]
        cases fs.step here piece with
        | error fault => rfl
        | ok reached => exact ih later

/-- Two spellings of a path that end in a piece that leads somewhere, and have the same components,
resolve alike. -/
theorem resolve_of_components {path other : Path} {last otherLast : String}
    (same : path.components = other.components) (ends : path.pieces.getLast? = some last)
    (moves : ¬ Path.IsIdle last) (otherEnds : other.pieces.getLast? = some otherLast)
    (otherMoves : ¬ Path.IsIdle otherLast) : fs.resolve path = fs.resolve other := by
  obtain ⟨absolute, steps⟩ := Path.eq_of_components same
  have start : fs.start path = fs.start other := by
    unfold FileSystem.start startIn
    rw [absolute]
  have follows : fs.follow (fs.start path) path.pieces = fs.follow (fs.start other) other.pieces := by
    rw [follow_filter ends moves, follow_filter otherEnds otherMoves, start]
    exact congrArg _ steps
  have nul (candidate : Path) : hasNul candidate = true ↔
      ∃ piece ∈ candidate.steps, '\x00' ∈ piece.toList := by
    rw [hasNul_iff]
    constructor
    · rintro ⟨piece, member, dirty⟩
      refine ⟨piece, List.mem_filter.mpr ⟨member, ?_⟩, dirty⟩
      rw [decide_eq_true_iff]
      rintro (rfl | rfl) <;> simp at dirty
    · rintro ⟨piece, member, dirty⟩
      exact ⟨piece, (List.mem_filter.mp member).1, dirty⟩
  have clean : hasNul path = hasNul other := by
    rw [Bool.eq_iff_iff, nul, nul, steps]
  have notEmpty := Path.isEmpty_eq_false_of_last ends fun empty => moves (.inl empty)
  have otherNotEmpty := Path.isEmpty_eq_false_of_last otherEnds fun empty => otherMoves (.inl empty)
  unfold resolve
  rw [clean, follows, notEmpty, otherNotEmpty]

end FileSystem

end Stencil
