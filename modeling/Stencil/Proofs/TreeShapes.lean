import Stencil.Proofs.StoredFiles
import Stencil.Proofs.TemplateLoading

namespace Stencil

/-- Two trees that are used from one directory and differ, at a location and below it, at most in the
contents of files. -/
structure LikeBelow (fs other : FileSystem .linkFree) (base : Location) : Prop where
  workingDirectory : other.workingDirectory = fs.workingDirectory
  item : ∀ location, base <+: location → Item.Like (fs.item? location) (other.item? location)

/-- Pieces that do not lead out of a location, wherever they are followed below it. -/
def Location.Keeps (base : Location) (pieces : List String) : Prop :=
  ".." ∉ pieces ∨ base = []

theorem Location.Keeps.advance {base here : Location} {piece : String} {pieces : List String}
    (keeps : base.Keeps pieces) (member : piece ∈ pieces) (below : base <+: here) :
    base <+: here.advance piece := by
  rcases keeps with stays | rfl
  · exact prefix_advance below fun up => stays (up ▸ member)
  · exact List.nil_prefix

theorem Location.Keeps.tail {base : Location} {piece : String} {rest : List String}
    (keeps : base.Keeps (piece :: rest)) : base.Keeps rest :=
  keeps.imp (fun stays member => stays (List.mem_cons_of_mem _ member)) id

namespace FileSystem

theorem target_of_isFile {fs : FileSystem .linkFree} {path : Path} (held : fs.isFile path = true) :
    ∃ location, fs.target path = .ok location := by
  obtain ⟨location, content, found, atEnd⟩ := isFile_iff.mp held
  obtain ⟨clean, notEmpty, leads⟩ := resolve_eq_ok.mp found
  obtain ⟨front, last, spelled⟩ :=
    (List.eq_nil_or_concat path.pieces).resolve_left (Text.pieces_ne_nil '/' path.spelling)
  rw [List.concat_eq_append] at spelled
  rw [spelled] at leads
  obtain ⟨above, enters, moves⟩ := follow_concat_ok leads
  rw [target_eq, clean, notEmpty, spelled, List.dropLast_concat, List.getLast?_concat, enters]
  simp only [Bool.false_eq_true, if_false, Except.bind, Option.getD_some, moves, atEnd]
  exact ⟨location, rfl⟩

/-- The path of a file, short of its last name, is that of a directory. -/
theorem isDirectory_of_isFile {fs : FileSystem .linkFree} {path above : Path} {name : String}
    (held : fs.isFile path = true) (spelled : path.pieces = above.pieces ++ [name])
    (start : fs.start above = fs.start path) (notEmpty : above.spelling ≠ "") :
    fs.isDirectory above = true := by
  obtain ⟨location, content, found, atEnd⟩ := isFile_iff.mp held
  obtain ⟨clean, _, leads⟩ := resolve_eq_ok.mp found
  have cleanAbove : hasNul above = false := by
    rw [← Bool.not_eq_true, hasNul_iff]
    rintro ⟨piece, member, nul⟩
    have dirty := (hasNul_iff path).mpr ⟨piece, spelled ▸ List.mem_append_left _ member, nul⟩
    simp [clean] at dirty
  rw [spelled, ← start] at leads
  obtain ⟨here, enters, moves⟩ := follow_concat_ok leads
  have opens := (step_ok moves).1
  have resolves : fs.resolve above = .ok here :=
    resolve_eq_ok.mpr ⟨cleanAbove, String.isEmpty_eq_false_iff.mpr notEmpty, enters⟩
  exact isDirectory_iff.mpr ⟨here, resolves, opens⟩

end FileSystem

namespace LikeBelow

open FileSystem

variable {fs other : FileSystem .linkFree} {base here : Location} {pieces : List String} {path : Path}

theorem mono (like : LikeBelow fs other base) {inner : Location} (below : base <+: inner) :
    LikeBelow fs other inner :=
  ⟨like.workingDirectory, fun location within => like.item location (below.trans within)⟩

theorem start (like : LikeBelow fs other base) (path : Path) : other.start path = fs.start path :=
  start_congr like.workingDirectory path

theorem place (like : LikeBelow fs other base) (path : Path) : other.place path = fs.place path :=
  place_congr like.workingDirectory path

theorem step (like : LikeBelow fs other base) (below : base <+: here) (piece : String) :
    other.step here piece = fs.step here piece :=
  step_like (like.item here below) fun _ =>
    like.item _ (below.trans (List.prefix_append here [piece]))

theorem follow (like : LikeBelow fs other base) (below : base <+: here) (keeps : base.Keeps pieces) :
    other.follow here pieces = fs.follow here pieces ∧
      ∀ location, fs.follow here pieces = .ok location → base <+: location := by
  induction pieces generalizing here with
  | nil =>
    rw [follow_nil, follow_nil]
    refine ⟨rfl, fun location reached => ?_⟩
    cases reached
    exact below
  | cons piece rest ih =>
    have same := like.step below piece
    cases moves : fs.step here piece with
    | error fault =>
      rw [follow_of_error moves, follow_of_error (same.trans moves)]
      exact ⟨rfl, fun _ reached => nomatch reached⟩
    | ok next =>
      rw [follow_of_ok moves, follow_of_ok (same.trans moves)]
      obtain ⟨_, rfl, _⟩ := step_ok moves
      exact ih (keeps.advance List.mem_cons_self below) keeps.tail

theorem resolve (like : LikeBelow fs other []) (path : Path) :
    other.resolve path = fs.resolve path := by
  unfold FileSystem.resolve
  rw [like.start, (like.follow List.nil_prefix (.inr rfl)).1]

/-- The same name is created in both trees, if it is missing. -/
theorem put_empty {piece : String} (like : LikeBelow fs other base) (below : base <+: here)
    (lost : fs.step here piece = .error .notFound) :
    LikeBelow (fs.put (here ++ [piece]) .empty) (other.put (here ++ [piece]) .empty) base := by
  refine ⟨like.workingDirectory, fun location within => ?_⟩
  have atHere := like.item here below
  rcases step_notFound lost with missing | ⟨opens, free, _⟩
  · rw [item?_put_of_missing piece .empty missing,
      item?_put_of_missing piece .empty (atHere.none_iff.mpr missing)]
    exact like.item location within
  · have atName := like.item (here ++ [piece]) (below.trans (List.prefix_append here [piece]))
    rw [item?_put .empty opens (by simp [free]) Node.bare_empty,
      item?_put .empty (atHere.directory_iff.mpr opens) (by simp [atName.none_iff.mpr free])
        Node.bare_empty]
    split
    · exact .refl _
    · exact like.item location within

theorem createFrom (like : LikeBelow fs other base) (below : base <+: here)
    (keeps : base.Keeps pieces) :
    (other.createFrom here pieces).1 = (fs.createFrom here pieces).1 ∧
      LikeBelow (fs.createFrom here pieces).2 (other.createFrom here pieces).2 base := by
  induction pieces generalizing fs other here with
  | nil =>
    have atHere := like.item here below
    rw [createFrom_nil, createFrom_nil]
    generalize fs.item? here = item, other.item? here = otherItem at atHere
    cases atHere <;> exact ⟨rfl, like⟩
  | cons piece rest ih =>
    rw [FileSystem.createFrom, FileSystem.createFrom, like.step below]
    have next := keeps.advance List.mem_cons_self below
    cases moves : fs.step here piece with
    | ok reached =>
      obtain ⟨_, rfl, _⟩ := step_ok moves
      exact ih like next keeps.tail
    | error fault =>
      cases fault with
      | notFound =>
        have lost : fs.enter here piece = .error .notFound := fs.step_eq_enter here piece ▸ moves
        have otherLost : other.enter here piece = .error .notFound := by
          rw [← step_eq_enter, like.step below, moves]
        simp only [lost, otherLost, Except.isOk, Except.toBool, Bool.false_eq_true, if_false]
        split
        · exact ⟨rfl, like⟩
        · exact ih (like.put_empty below moves) (below.trans (List.prefix_append here [piece]))
            keeps.tail
      | _ => exact ⟨rfl, like⟩

theorem createDirectories (like : LikeBelow fs other base) {front back : List String}
    (spelled : path.pieces = front ++ back) (leads : fs.follow (fs.start path) front = .ok base)
    (otherLeads : other.follow (fs.start path) front = .ok base) (keeps : base.Keeps back) :
    (other.createDirectories path).1 = (fs.createDirectories path).1 ∧
      LikeBelow (fs.createDirectories path).2 (other.createDirectories path).2 base := by
  unfold FileSystem.createDirectories
  split
  · exact ⟨rfl, like⟩
  · split
    · exact ⟨rfl, like⟩
    · rw [like.start, spelled, createFrom_append leads, createFrom_append otherLeads]
      exact like.createFrom (List.prefix_refl base) keeps

theorem target (like : LikeBelow fs other base) {front back : List String} {name : String}
    (spelled : path.pieces = front ++ back ++ [name])
    (leads : fs.follow (fs.start path) front = .ok base)
    (otherLeads : other.follow (fs.start path) front = .ok base) (keeps : base.Keeps (back ++ [name])) :
    other.target path = fs.target path := by
  have keepsBack : base.Keeps back :=
    keeps.imp (fun stays member => stays (List.mem_append_left _ member)) id
  obtain ⟨follows, ends⟩ := like.follow (List.prefix_refl base) keepsBack
  rw [target_eq, target_eq, like.start, spelled, List.dropLast_concat, follow_append, follow_append,
    leads, otherLeads, Except.bind, Except.bind, follows, List.getLast?_concat, Option.getD_some]
  cases reached : fs.follow base back with
  | error fault => rfl
  | ok above =>
    have below := ends above reached
    simp only [Except.bind, like.step below]
    cases moves : fs.step above name with
    | error fault => cases fault <;> rfl
    | ok location =>
      obtain ⟨_, rfl, _⟩ := step_ok moves
      have atTarget := like.item _ (keeps.advance (List.mem_append_right _ List.mem_cons_self) below)
      simp only
      generalize fs.item? (above.advance name) = item, other.item? (above.advance name) = otherItem
        at atTarget
      cases atTarget <;> rfl

end LikeBelow

theorem FileSystem.write_of_target {fs other : FileSystem .linkFree} {path : Path} (content : Content)
    (aims : other.target path = fs.target path) :
    (∃ fault, fs.write path content = .error fault ∧ other.write path content = .error fault) ∨
      ∃ after otherAfter, fs.write path content = .ok after ∧
        other.write path content = .ok otherAfter := by
  rw [write_eq, write_eq, aims]
  cases fs.target path with
  | error fault => exact .inl ⟨fault, rfl, rfl⟩
  | ok location => exact .inr ⟨_, _, rfl, rfl⟩

/-- Two trees that have changed together: at each location both are as they were, or one is now as
the other. -/
def ChangedTogether (fs other after otherAfter : FileSystem .linkFree) : Prop :=
  ∀ location, (after.item? location = fs.item? location ∧
      otherAfter.item? location = other.item? location) ∨
    otherAfter.item? location = after.item? location

namespace ChangedTogether

variable {fs other between otherBetween after otherAfter : FileSystem .linkFree}

theorem refl (fs other : FileSystem .linkFree) : ChangedTogether fs other fs other :=
  fun _ => .inl ⟨rfl, rfl⟩

theorem trans (first : ChangedTogether fs other between otherBetween)
    (second : ChangedTogether between otherBetween after otherAfter) :
    ChangedTogether fs other after otherAfter := by
  intro location
  rcases second location with ⟨kept, otherKept⟩ | same
  · rw [kept, otherKept]
    exact first location
  · exact .inr same

theorem eq (together : ChangedTogether fs other after otherAfter) {location : Location}
    (same : other.item? location = fs.item? location) :
    otherAfter.item? location = after.item? location := by
  rcases together location with ⟨kept, otherKept⟩ | now
  · rw [kept, otherKept, same]
  · exact now

/-- What changes together stays of one shape. -/
theorem likeBelow {base : Location} (together : ChangedTogether fs other after otherAfter)
    (like : LikeBelow fs other base) (kept : after.workingDirectory = fs.workingDirectory)
    (otherKept : otherAfter.workingDirectory = other.workingDirectory) :
    LikeBelow after otherAfter base := by
  refine ⟨by rw [otherKept, kept, like.workingDirectory], fun location below => ?_⟩
  rcases together location with ⟨same, otherSame⟩ | now
  · rw [same, otherSame]
    exact like.item location below
  · exact .of_eq now

/-- Trees of one shape in which only directories are created are changed together. -/
theorem of_growth {base : Location} {made otherMade : Location → Prop}
    (like : LikeBelow after otherAfter base)
    (growth : Growth fs after made fun _ => False) (within : ∀ location, made location → base <+: location)
    (otherGrowth : Growth other otherAfter otherMade fun _ => False)
    (otherWithin : ∀ location, otherMade location → base <+: location) :
    ChangedTogether fs other after otherAfter := by
  intro location
  rcases growth.item location with kept | ⟨_, created, isMade⟩ | ⟨_, _, nothing⟩
  · rcases otherGrowth.item location with otherKept | ⟨_, created, isMade⟩ | ⟨_, _, nothing⟩
    · exact .inl ⟨kept, otherKept⟩
    · have atLocation := like.item location (otherWithin location isMade)
      rw [created, atLocation.directory_iff.mp created]
      exact .inr rfl
    · exact nothing.elim
  · have atLocation := like.item location (within location isMade)
    rw [created, atLocation.directory_iff.mpr created]
    exact .inr rfl
  · exact nothing.elim

end ChangedTogether

/-- The same file in the same place leaves two trees of one shape. -/
theorem LikeBelow.stored {fs other after otherAfter : FileSystem .linkFree} {base location : Location}
    {content : Content} (like : LikeBelow fs other base) (stored : Stored fs after location content)
    (otherStored : Stored other otherAfter location content) :
    LikeBelow after otherAfter base ∧ ChangedTogether fs other after otherAfter := by
  refine ⟨⟨?_, fun place below => ?_⟩, fun place => ?_⟩
  · rw [otherStored.workingDirectory, stored.workingDirectory, like.workingDirectory]
  · rw [stored.item, otherStored.item]
    split
    · exact .refl _
    · exact like.item place below
  · rw [stored.item, otherStored.item]
    by_cases here : place = location
    · exact .inr (by rw [if_pos here, if_pos here])
    · exact .inl (by rw [if_neg here, if_neg here]; exact ⟨rfl, rfl⟩)

theorem FileSystem.stored_replaced {fs : FileSystem .linkFree} {above : Location} {name : String}
    {content : Content} (new : Content) (held : fs.item? (above ++ [name]) = some (.file content)) :
    Stored fs (fs.put (above ++ [name]) (.file new)) (above ++ [name]) new := by
  have present : fs.item? (above ++ [name]) ≠ none := by simp [held]
  have closed : fs.item? (above ++ [name]) ≠ some .directory := by simp [held]
  exact ⟨rfl, .of_linkFree closed, item?_put _ (item?_of_append present (by simp)) closed (Node.bare_file new)⟩

/-- A tree and the one in which a file has another content are of one shape. -/
theorem Stored.like {before after : FileSystem .linkFree} {location : Location} {content new : Content}
    (stored : Stored before after location new) (held : before.item? location = some (.file content)) :
    LikeBelow before after [] := by
  refine ⟨stored.workingDirectory, fun other _ => ?_⟩
  rw [stored.item]
  split
  · next here =>
    rw [here, held]
    exact .file content new
  · exact .refl _

end Stencil
