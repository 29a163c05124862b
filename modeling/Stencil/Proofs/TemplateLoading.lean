import Stencil.Expansion.Expander
import Stencil.Proofs.TreeGrowth

namespace Stencil

theorem Location.prefix_advance {base here : Location} {piece : String} (below : base <+: here)
    (notUp : piece ≠ "..") : base <+: here.advance piece := by
  unfold advance
  rw [if_neg notUp]
  split
  · exact below
  · exact below.trans (List.prefix_append _ _)

theorem Location.prefix_foldl_advance (here : Location) {pieces : List String}
    (stays : ".." ∉ pieces) : here <+: pieces.foldl advance here := by
  induction pieces generalizing here with
  | nil => exact List.prefix_refl here
  | cons piece rest ih =>
    simp only [List.mem_cons, not_or] at stays
    exact (prefix_advance (List.prefix_refl here) fun up => stays.1 up.symm).trans (ih _ stays.2)

namespace FileSystem

section

variable {links : Linkage} {fs : FileSystem links}

theorem read_eq (fs : FileSystem links) (path : Path) :
    fs.read path = (fs.resolve path).bind fun location =>
      match fs.item? location with
      | some (.file content) => .ok content
      | some .directory => .error .isADirectory
      | _ => .error .notFound := by
  unfold read
  cases fs.resolve path with
  | error fault => rfl
  | ok location =>
    simp only [Bind.bind, Except.bind, item?]
    cases fs.get? location with
    | none => rfl
    | some node => cases node <;> rfl

theorem read_of_item {path : Path} {location : Location} {content : Content}
    (found : fs.resolve path = .ok location) (held : fs.item? location = some (.file content)) :
    fs.read path = .ok content := by
  rw [read_eq, found, Except.bind, held]

theorem exists_of_read {path : Path} {content : Content} (held : fs.read path = .ok content) :
    ∃ location, fs.resolve path = .ok location ∧ fs.item? location = some (.file content) := by
  rw [read_eq] at held
  cases found : fs.resolve path with
  | error fault => rw [found] at held; cases held
  | ok location =>
    rw [found, Except.bind] at held
    split at held
    · next kept atFile =>
      cases held
      exact ⟨location, rfl, atFile⟩
    · cases held
    · cases held

theorem isFile_iff_read {path : Path} :
    fs.isFile path = true ↔ ∃ content, fs.read path = .ok content :=
  isFile_iff.trans ⟨fun ⟨_, content, found, held⟩ => ⟨content, read_of_item found held⟩,
    fun ⟨content, read⟩ =>
      let ⟨location, found, held⟩ := exists_of_read read
      ⟨location, content, found, held⟩⟩

theorem readText_ok {path : Path} {value : String} (held : fs.readText path = .ok value) :
    fs.read path = .ok (.text value) := by
  unfold readText at held
  cases found : fs.read path with
  | error fault => rw [found] at held; cases held
  | ok content =>
    rw [found] at held
    cases content with
    | text kept => cases held; rfl
    | binary bytes => cases held

end

section

variable {fs other : FileSystem .linkFree} {base here : Location}

theorem read_ok {path : Path} {content : Content} (held : fs.read path = .ok content) :
    fs.resolve path = .ok (fs.place path) ∧ fs.item? (fs.place path) = some (.file content) := by
  obtain ⟨location, found, atFile⟩ := exists_of_read held
  have place := resolve_eq_place found
  exact ⟨place ▸ found, place ▸ atFile⟩

/-- Where pieces lead that do not lead up is seen from what kind of thing stands on the way. -/
theorem follow_along {pieces : List String} (stays : ".." ∉ pieces)
    (like : ∀ location, here <+: location → location <+: pieces.foldl Location.advance here →
      Item.Like (fs.item? location) (other.item? location)) :
    other.follow here pieces = fs.follow here pieces := by
  induction pieces generalizing here with
  | nil => rw [follow_nil, follow_nil]
  | cons piece rest ih =>
    simp only [List.mem_cons, not_or] at stays
    have next := Location.prefix_advance (List.prefix_refl here) fun up => stays.1 up.symm
    have last := Location.prefix_foldl_advance (here.advance piece) stays.2
    have first : other.step here piece = fs.step here piece :=
      step_like (like here (List.prefix_refl here) (next.trans last)) fun named =>
        named ▸ like _ next last
    cases moves : fs.step here piece with
    | error fault => rw [follow_of_error moves, follow_of_error (first.trans moves)]
    | ok reached =>
      rw [follow_of_ok moves, follow_of_ok (first.trans moves)]
      obtain ⟨_, rfl, _⟩ := step_ok moves
      exact ih stays.2 fun location below within => like location (next.trans below) within

theorem place_of_pieces {path : Path} {front rest : List String}
    (spelled : path.pieces = front ++ rest) (leads : fs.follow (fs.start path) front = .ok base) :
    fs.place path = rest.foldl Location.advance base := by
  rw [place, spelled, List.foldl_append, ← follow_ok leads]

/-- The same for a path that goes on from a location to which its first pieces lead in both trees. -/
theorem resolve_along {path : Path} {front rest : List String}
    (spelled : path.pieces = front ++ rest) (start : other.start path = fs.start path)
    (leads : fs.follow (fs.start path) front = .ok base)
    (otherLeads : other.follow (fs.start path) front = .ok base) (stays : ".." ∉ rest)
    (like : ∀ location, base <+: location → location <+: fs.place path →
      Item.Like (fs.item? location) (other.item? location)) :
    other.resolve path = fs.resolve path := by
  rw [place_of_pieces spelled leads] at like
  have follows : other.follow (fs.start path) path.pieces = fs.follow (fs.start path) path.pieces := by
    rw [spelled, follow_append, follow_append, leads, otherLeads]
    exact follow_along stays like
  unfold resolve
  rw [start, follows]

/-- A path that is joined to a root without leading up resolves alike in trees that have the root in
one place, if the same kinds of things stand on the way. -/
theorem resolve_join_along {root tail : Path} (stays : ".." ∉ tail.pieces)
    (kept : other.workingDirectory = fs.workingDirectory)
    (leads : fs.follow (fs.start root) root.stem = .ok (fs.place root))
    (otherLeads : other.follow (other.start root) root.stem = .ok (fs.place root))
    (like : ∀ location, location <+: fs.place (root.join tail) →
      Item.Like (fs.item? location) (other.item? location)) :
    other.resolve (root.join tail) = fs.resolve (root.join tail) := by
  have start (path : Path) : other.start path = fs.start path := start_congr kept path
  cases absolute : tail.isAbsolute with
  | true =>
    rw [Path.join_of_isAbsolute absolute] at like ⊢
    have spelled : tail.pieces = [] ++ tail.pieces := rfl
    exact resolve_along spelled (start tail) rfl rfl stays fun location _ => like location
  | false =>
    rw [start] at otherLeads
    rw [← fs.start_join root absolute] at leads otherLeads
    exact resolve_along (Path.pieces_join root absolute) (start _) leads otherLeads stays
      fun location _ => like location

/-- Above what stands at a location there are directories. -/
theorem like_above {location : Location} (present : fs.item? location ≠ none)
    (like : Item.Like (fs.item? location) (other.item? location)) {above : Location}
    (within : above <+: location) : Item.Like (fs.item? above) (other.item? above) := by
  obtain ⟨below, rfl⟩ := within
  cases below with
  | nil => simpa using like
  | cons name rest =>
    have opens := item?_of_append present (List.cons_ne_nil name rest)
    have otherOpens := item?_of_append (fun missing => present (like.none_iff.mp missing))
      (List.cons_ne_nil name rest)
    rw [opens, otherOpens]
    exact .directory

theorem read_congr {path : Path} (resolves : other.resolve path = fs.resolve path)
    (same : other.item? (fs.place path) = fs.item? (fs.place path)) :
    other.read path = fs.read path := by
  rw [read_eq, read_eq, resolves]
  cases found : fs.resolve path with
  | error fault => rfl
  | ok location => rw [Except.bind, Except.bind, resolve_eq_place found, same]

end

end FileSystem

namespace Expansion

section

variable {links : Linkage} {fs other : FileSystem links} {root : Path} {name : String}

theorem loadSource_of_up (fs : FileSystem links) (root : Path) (up : ".." ∈ Path.pieces ⟨name⟩) :
    loadSource fs root name = .error (.ofKind .templateNotFound) := by
  have refused : (Text.pieces '/' name).contains ".." = true := List.contains_iff_mem.mpr up
  unfold loadSource
  rw [if_pos refused]

theorem loadSource_ok {source : String} (loaded : loadSource fs root name = .ok source) :
    ".." ∉ Path.pieces ⟨name⟩ ∧ fs.read (root.join ⟨name⟩) = .ok (.text source) := by
  by_cases up : ".." ∈ Path.pieces ⟨name⟩
  · rw [loadSource_of_up fs root up] at loaded
    cases loaded
  · refine ⟨up, FileSystem.readText_ok ?_⟩
    have accepted : ¬ (Text.pieces '/' name).contains ".." = true := fun refused =>
      up (List.contains_iff_mem.mp refused)
    unfold loadSource at loaded
    rw [if_neg accepted] at loaded
    cases found : fs.readText (root.join ⟨name⟩) with
    | ok kept =>
      simp only [found, Except.ok.injEq] at loaded
      rw [loaded]
    | error fault =>
      rw [found] at loaded
      cases fault <;> cases loaded

theorem loadSource_of_text {source : String} (stays : ".." ∉ Path.pieces ⟨name⟩)
    (held : fs.read (root.join ⟨name⟩) = .ok (.text source)) : loadSource fs root name = .ok source := by
  have accepted : ¬ (Text.pieces '/' name).contains ".." = true := fun refused =>
    stays (List.contains_iff_mem.mp refused)
  unfold loadSource FileSystem.readText
  rw [if_neg accepted, held]
  rfl

theorem loadSource_congr
    (same : ".." ∉ Path.pieces ⟨name⟩ → other.read (root.join ⟨name⟩) = fs.read (root.join ⟨name⟩)) :
    loadSource other root name = loadSource fs root name := by
  by_cases up : ".." ∈ Path.pieces ⟨name⟩
  · rw [loadSource_of_up other root up, loadSource_of_up fs root up]
  · unfold loadSource FileSystem.readText
    rw [same up]

theorem Expander.load_congr {τ : Type} {expander : Expander τ}
    (same : loadSource other expander.config.templateRoot name =
      loadSource fs expander.config.templateRoot name) :
    expander.load other name = expander.load fs name := by
  unfold load
  rw [same]

end

section

variable {fs other : FileSystem .linkFree} {root : Path} {name : String}

/-- A relative name loads the same in trees that are the same below the root. -/
theorem loadSource_of_same {base : Location} (start : other.start root = fs.start root)
    (leads : fs.follow (fs.start root) root.stem = .ok base)
    (otherLeads : other.follow (fs.start root) root.stem = .ok base)
    (relative : Path.isAbsolute ⟨name⟩ = false)
    (same : ∀ location, base <+: location → other.item? location = fs.item? location) :
    loadSource other root name = loadSource fs root name := by
  refine loadSource_congr fun stays => ?_
  have spelled := Path.pieces_join root relative
  rw [← fs.start_join root relative] at leads otherLeads
  have goes : other.start (root.join ⟨name⟩) = fs.start (root.join ⟨name⟩) := by
    rw [fs.start_join root relative, other.start_join root relative, start]
  refine FileSystem.read_congr (FileSystem.resolve_along spelled goes leads otherLeads stays
    fun location below _ => .of_eq (same location below)) (same _ ?_)
  rw [FileSystem.place_of_pieces spelled leads]
  exact Location.prefix_foldl_advance base stays

/-- So does any name under which the same stands in both trees. -/
theorem loadSource_of_present (kept : other.workingDirectory = fs.workingDirectory)
    (leads : fs.follow (fs.start root) root.stem = .ok (fs.place root))
    (otherLeads : other.follow (other.start root) root.stem = .ok (fs.place root))
    (present : fs.item? (fs.place (root.join ⟨name⟩)) ≠ none)
    (same : other.item? (fs.place (root.join ⟨name⟩)) = fs.item? (fs.place (root.join ⟨name⟩))) :
    loadSource other root name = loadSource fs root name := by
  refine loadSource_congr fun stays => ?_
  have resolves := FileSystem.resolve_join_along stays kept leads otherLeads
    fun location => FileSystem.like_above present (.of_eq same)
  exact FileSystem.read_congr resolves same

end

end Expansion

namespace Growth

variable {before after : FileSystem .linkFree} {made written : Location → Prop}

theorem unchanged (growth : Growth before after made written) {location : Location}
    (notMade : ¬ made location) (notWritten : ¬ written location) :
    after.item? location = before.item? location := by
  rcases growth.item location with same | ⟨_, _, isMade⟩ | ⟨_, _, isWritten⟩
  · exact same
  · exact absurd isMade notMade
  · exact absurd isWritten notWritten

/-- Templates load as before if nothing has changed below the template root. -/
theorem loadSource (growth : Growth before after made written) {root : Path} {base : Location}
    {name : String} (leads : before.follow (before.start root) root.stem = .ok base)
    (relative : Path.isAbsolute ⟨name⟩ = false)
    (apart : ∀ location, base <+: location → ¬ made location ∧ ¬ written location) :
    Expansion.loadSource after root name = Expansion.loadSource before root name :=
  Expansion.loadSource_of_same (growth.start root) leads (growth.follow leads) relative
    fun location below => growth.unchanged (apart location below).1 (apart location below).2

end Growth

end Stencil
