import Stencil.Proofs.TreePlaces

namespace Stencil

variable {links : Linkage}

/-- A file can be written where nothing stands, or where a file does. -/
structure Item.TakesFile (item : Option (Item links)) : Prop where
  notDirectory : item ≠ some .directory
  notLink : ∀ allowed target, item ≠ some (.link allowed target)

theorem Item.TakesFile.of_linkFree {item : Option (Item .linkFree)} (closed : item ≠ some .directory) :
    TakesFile item :=
  ⟨closed, fun allowed => nomatch allowed⟩

theorem Item.TakesFile.of_none : TakesFile (none : Option (Item links)) :=
  ⟨by simp, by simp⟩

/-- What can have become of what stands at a location: it is as it was, or a directory that was
missing, or a file that is new or has new content. -/
def Item.Grown (before after : Option (Item links)) (made written : Prop) : Prop :=
  after = before ∨ (before = none ∧ after = some .directory ∧ made) ∨
    (TakesFile before ∧ (∃ content, after = some (.file content)) ∧ written)

theorem Item.Grown.trans {before between after : Option (Item links)} {made written : Prop}
    (first : Grown before between made written) (second : Grown between after made written) :
    Grown before after made written := by
  rcases second with same | ⟨absent, present, isMade⟩ | ⟨free, present, isWritten⟩
  · rw [same]
    exact first
  · rcases first with earlier | ⟨_, there, _⟩ | ⟨_, ⟨content, there⟩, _⟩
    · exact .inr (.inl ⟨earlier ▸ absent, present, isMade⟩)
    · simp [absent] at there
    · simp [absent] at there
  · refine .inr (.inr ⟨?_, present, isWritten⟩)
    rcases first with earlier | ⟨absent, _⟩ | ⟨closed, _⟩
    · exact earlier ▸ free
    · exact absent ▸ .of_none
    · exact closed

theorem FileSystem.foldlM_mono {walk walk' : Location → String → Except AccessError Location}
    (kept : ∀ {here next piece}, walk here piece = .ok next → walk' here piece = .ok next)
    {here location : Location} {pieces : List String} (moves : pieces.foldlM walk here = .ok location) :
    pieces.foldlM walk' here = .ok location := by
  induction pieces generalizing here with
  | nil => exact moves
  | cons piece rest ih =>
    rw [List.foldlM_cons] at moves ⊢
    cases first : walk here piece with
    | error fault => rw [first] at moves; cases moves
    | ok next =>
      rw [first] at moves
      rw [kept first]
      exact ih moves

/-- A tree comes from another one by new directories at some locations and by files that are new or
have new content at others. All else is as it was. -/
structure Growth (before after : FileSystem links) (made written : Location → Prop) : Prop where
  workingDirectory : after.workingDirectory = before.workingDirectory
  item : ∀ location, after.item? location = before.item? location ∨
    (before.item? location = none ∧ after.item? location = some .directory ∧ made location) ∨
    (Item.TakesFile (before.item? location) ∧
      (∃ content, after.item? location = some (.file content)) ∧ written location)

namespace Growth

variable {before between after : FileSystem links} {made written made' written' : Location → Prop}

theorem refl (fs : FileSystem links) (made written : Location → Prop) : Growth fs fs made written :=
  ⟨rfl, fun _ => .inl rfl⟩

theorem of_same (kept : after.workingDirectory = before.workingDirectory)
    (same : ∀ location, after.item? location = before.item? location) :
    Growth before after made written :=
  ⟨kept, fun location => .inl (same location)⟩

theorem mono (growth : Growth before after made written)
    (more : ∀ location, made location → made' location)
    (moreWritten : ∀ location, written location → written' location) :
    Growth before after made' written' := by
  refine ⟨growth.workingDirectory, fun location => ?_⟩
  rcases growth.item location with same | ⟨absent, present, isMade⟩ | ⟨free, present, isWritten⟩
  · exact .inl same
  · exact .inr (.inl ⟨absent, present, more location isMade⟩)
  · exact .inr (.inr ⟨free, present, moreWritten location isWritten⟩)

theorem trans (first : Growth before between made written)
    (second : Growth between after made written) : Growth before after made written :=
  ⟨second.workingDirectory.trans first.workingDirectory,
    fun location => Item.Grown.trans (first.item location) (second.item location)⟩

theorem directory (growth : Growth before after made written) {location : Location}
    (opens : before.item? location = some .directory) : after.item? location = some .directory := by
  rcases growth.item location with same | ⟨absent, _⟩ | ⟨closed, _⟩
  · rw [same, opens]
  · simp [absent] at opens
  · exact absurd opens closed.notDirectory

/-- A directory that was not made was there before. -/
theorem directory_before (growth : Growth before after made written) {location : Location}
    (opens : after.item? location = some .directory)
    (notMade : before.item? location = none → ¬ made location) :
    before.item? location = some .directory := by
  rcases growth.item location with same | ⟨absent, _, isMade⟩ | ⟨_, ⟨_, isFile⟩, _⟩
  · rw [← same, opens]
  · exact absurd isMade (notMade absent)
  · simp [opens] at isFile

theorem file (growth : Growth before after made written) {location : Location} {content : Content}
    (held : before.item? location = some (.file content)) :
    ∃ content, after.item? location = some (.file content) := by
  rcases growth.item location with same | ⟨absent, _⟩ | ⟨_, present, _⟩
  · exact ⟨content, same.trans held⟩
  · simp [absent] at held
  · exact present

/-- A file that is not written is neither removed nor changed, and none is added. -/
theorem get?_file (growth : Growth before after made written) {location : Location}
    (notWritten : ¬ written location) (content : Content) :
    after.get? location = some (.file content) ↔ before.get? location = some (.file content) := by
  rw [← FileSystem.item?_eq_file, ← FileSystem.item?_eq_file]
  rcases growth.item location with same | ⟨absent, opens, _⟩ | ⟨_, _, isWritten⟩
  · rw [same]
  · simp [absent, opens]
  · exact absurd isWritten notWritten

theorem present (growth : Growth before after made written) {location : Location}
    (there : before.item? location ≠ none) : after.item? location ≠ none := by
  rcases growth.item location with same | ⟨_, opens, _⟩ | ⟨_, ⟨_, held⟩, _⟩
  · rwa [same]
  · rw [opens]
    simp
  · rw [held]
    simp

theorem link (growth : Growth before after made written) {location : Location}
    {allowed : links = .linked} {target : Path}
    (linked : before.item? location = some (.link allowed target)) :
    after.item? location = some (.link allowed target) := by
  rcases growth.item location with same | ⟨absent, _⟩ | ⟨taken, _⟩
  · rw [same, linked]
  · simp [absent] at linked
  · exact absurd linked (taken.notLink allowed target)

/-- No links are added. -/
theorem unlinked (growth : Growth before after made written) {location : Location}
    (unlinked : before.Unlinked location) : after.Unlinked location := by
  intro allowed target linked
  rcases growth.item location with same | ⟨_, opens, _⟩ | ⟨_, ⟨_, held⟩, _⟩
  · exact unlinked allowed target (same ▸ linked)
  · simp [opens] at linked
  · simp [held] at linked

theorem start (growth : Growth before after made written) (path : Path) :
    after.start path = before.start path :=
  FileSystem.start_congr growth.workingDirectory path

theorem enter (growth : Growth before after made written) {here next : Location} {piece : String}
    (entered : before.enter here piece = .ok next) : after.enter here piece = .ok next := by
  have reached := FileSystem.enter_ok entered
  have opens := growth.directory reached.1
  rw [FileSystem.enter_eq, reached.1] at entered
  rw [FileSystem.enter_eq, opens]
  simp only at entered ⊢
  by_cases idle : piece = "" ∨ piece = "."
  · simpa only [idle, if_true] using entered
  · by_cases up : piece = ".."
    · simpa only [up, if_true] using entered
    · by_cases long : piece.utf8ByteSize > FileSystem.maxNameBytes
      · simp [idle, up, long] at entered
      · simp only [idle, up, long, if_false] at entered ⊢
        split at entered
        · next there =>
          have kept := growth.present (Option.isSome_iff_ne_none.mp there)
          rwa [if_pos (Option.isSome_iff_ne_none.mpr kept)]
        · cases entered

/-- What leads somewhere before leads to the same place after, also through links. -/
theorem stepWithin (growth : Growth before after made written) {depth : Nat} {here next : Location}
    {piece : String} (moves : before.stepWithin depth here piece = .ok next) :
    after.stepWithin depth here piece = .ok next := by
  induction depth generalizing here next piece with
  | zero =>
    rcases FileSystem.stepWithin_cases moves with ⟨entered, unlinked⟩ | ⟨_, _, _, _, _, _, positive, _⟩
    · exact FileSystem.stepWithin_of_unlinked (growth.enter entered) (growth.unlinked unlinked)
    · cases positive
  | succ depth ih =>
    rcases FileSystem.stepWithin_cases moves with ⟨entered, unlinked⟩ |
      ⟨between, allowed, target, _, entered, linked, same, onwards⟩
    · exact FileSystem.stepWithin_of_unlinked (growth.enter entered) (growth.unlinked unlinked)
    · cases same
      rw [FileSystem.stepWithin_of_link (growth.enter entered) (growth.link linked)]
      exact FileSystem.foldlM_mono ih onwards

theorem step (growth : Growth before after made written) {here next : Location} {piece : String}
    (moves : before.step here piece = .ok next) : after.step here piece = .ok next :=
  growth.stepWithin moves

theorem follow (growth : Growth before after made written) {here location : Location}
    {pieces : List String} (moves : before.follow here pieces = .ok location) :
    after.follow here pieces = .ok location :=
  FileSystem.foldlM_mono growth.step moves

theorem resolve (growth : Growth before after made written) {path : Path} {location : Location}
    (found : before.resolve path = .ok location) : after.resolve path = .ok location := by
  rw [FileSystem.resolve_eq_ok] at found ⊢
  rw [growth.start]
  exact ⟨found.1, found.2.1, growth.follow found.2.2⟩

theorem onPath (growth : Growth before after made written) {path : Path} {location : Location}
    (onPath : before.OnPath path location) : after.OnPath path location := by
  obtain ⟨above, within, found⟩ := onPath
  exact ⟨above, within, growth.resolve found⟩

/-- A path of a file stays the path of a file. -/
theorem isFile (growth : Growth before after made written) {path : Path}
    (held : before.isFile path = true) : after.isFile path = true := by
  obtain ⟨location, _, found, atFile⟩ := FileSystem.isFile_iff.mp held
  obtain ⟨content, kept⟩ := growth.file atFile
  exact FileSystem.isFile_iff.mpr ⟨location, content, growth.resolve found, kept⟩

/-- What is made was missing. -/
theorem narrow (growth : Growth before after made written) :
    Growth before after (fun location => made location ∧ before.item? location = none) written := by
  refine ⟨growth.workingDirectory, fun location => ?_⟩
  rcases growth.item location with same | ⟨absent, present, isMade⟩ | isWritten
  · exact .inl same
  · exact .inr (.inl ⟨absent, present, isMade, absent⟩)
  · exact .inr (.inr isWritten)

/-- Trees that change at one location only, and then have the same there, differ nowhere else than
they did before. -/
theorem settle (growth : Growth before after made written) {settled later : FileSystem links}
    (location : Location) (kept : settled.workingDirectory = before.workingDirectory)
    (laterKept : later.workingDirectory = after.workingDirectory)
    (same : later.item? location = settled.item? location)
    (elsewhere : ∀ other, other ≠ location → settled.item? other = before.item? other)
    (laterElsewhere : ∀ other, other ≠ location → later.item? other = after.item? other) :
    Growth settled later made fun other => written other ∧ other ≠ location := by
  refine ⟨by rw [laterKept, kept, growth.workingDirectory], fun other => ?_⟩
  by_cases here : other = location
  · rw [here]
    exact .inl same
  · rw [elsewhere other here, laterElsewhere other here]
    rcases growth.item other with unchanged | isMade | ⟨closed, present, isWritten⟩
    · exact .inl unchanged
    · exact .inr (.inl isMade)
    · exact .inr (.inr ⟨closed, present, isWritten, here⟩)

section

variable {before after : FileSystem .linkFree}

theorem place (growth : Growth before after made written) (path : Path) :
    after.place path = before.place path :=
  FileSystem.place_congr growth.workingDirectory path

/-- A root stays where it is. -/
theorem leads (growth : Growth before after made written) {root : Path}
    (leads : before.follow (before.start root) root.stem = .ok (before.place root)) :
    after.follow (after.start root) root.stem = .ok (after.place root) := by
  rw [growth.start, growth.place]
  exact growth.follow leads

end

end Growth

/-- A tree comes from another one by a file at one location. -/
structure Stored (before after : FileSystem links) (location : Location) (content : Content) : Prop where
  workingDirectory : after.workingDirectory = before.workingDirectory
  free : Item.TakesFile (before.item? location)
  item : ∀ other, after.item? other =
    if other = location then some (.file content) else before.item? other

theorem Stored.growth {before after : FileSystem links} {location : Location} {content : Content}
    (stored : Stored before after location content) :
    Growth before after (fun _ => False) (· = location) := by
  refine ⟨stored.workingDirectory, fun other => ?_⟩
  rw [stored.item]
  by_cases here : other = location
  · rw [if_pos here]
    exact .inr (.inr ⟨here ▸ stored.free, ⟨content, rfl⟩, here⟩)
  · rw [if_neg here]
    exact .inl rfl

end Stencil
