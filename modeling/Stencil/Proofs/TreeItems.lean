import Stencil.FileSystem

namespace Stencil

/-- What stands at a location, apart from what is below it. -/
inductive Item (links : Linkage) where
  | file (content : Content)
  | directory
  | link (allowed : links = .linked) (target : Path)

/-- What stands at two locations is no link and differs at most in the content of a file. -/
inductive Item.Like : Option (Item .linkFree) → Option (Item .linkFree) → Prop
  | none : Like none none
  | directory : Like (some .directory) (some .directory)
  | file (content other : Content) : Like (some (.file content)) (some (.file other))

namespace Item.Like

variable {item other : Option (Item .linkFree)}

theorem refl : (item : Option (Item .linkFree)) → Like item item
  | Option.none => none
  | some .directory => directory
  | some (.file content) => file content content

theorem of_eq (same : other = item) : Like item other :=
  same ▸ refl item

theorem directory_iff (like : Like item other) :
    other = some .directory ↔ item = some .directory := by
  cases like <;> simp

theorem none_iff (like : Like item other) : other = Option.none ↔ item = Option.none := by
  cases like <;> simp

theorem isSome_eq (like : Like item other) : other.isSome = item.isSome := by
  cases like <;> rfl

end Item.Like

variable {links : Linkage}

namespace Node

def item : Node links → Item links
  | .file content => .file content
  | .directory _ => .directory
  | .link allowed target => .link allowed target

/-- A node that has nothing below it. -/
def Bare (node : Node links) : Prop :=
  ∀ below, below ≠ [] → node.get? below = none

theorem bare_file (content : Content) : (file content : Node links).Bare := by
  intro below notNil
  cases below with
  | nil => exact absurd rfl notNil
  | cons name rest => rfl

theorem bare_empty : (empty : Node links).Bare := by
  intro below notNil
  cases below with
  | nil => exact absurd rfl notNil
  | cons name rest => rfl

/-- Nothing is put below a location at which there is nothing. -/
theorem item_put_of_missing (node new : Node links) {above : Location} {name : String}
    (missing : node.get? above = none) (other : Location) :
    ((node.put (above ++ [name]) new).get? other).map item = (node.get? other).map item := by
  induction above generalizing node other with
  | nil => simp [get?] at missing
  | cons first rest ih =>
    cases node with
    | file | link => simp [put]
    | directory held =>
      simp only [get?] at missing
      cases found : Entries.find? first held with
      | none => simp [put, found]
      | some child =>
        rw [found] at missing
        cases other with
        | nil => simp [put, get?, found, item]
        | cons head below =>
          by_cases same : first = head
          · subst same
            simp [put, get?, found, Entries.find?_insert_self, ih child missing]
          · simp [put, get?, found, Entries.find?_insert_of_ne same]

end Node

namespace FileSystem

def item? (fs : FileSystem links) (location : Location) : Option (Item links) :=
  (fs.get? location).map Node.item

theorem item?_eq_file {fs : FileSystem links} {location : Location} {content : Content} :
    fs.item? location = some (.file content) ↔ fs.get? location = some (.file content) := by
  unfold item?
  match fs.get? location with
  | none => simp
  | some (.file held) => simp [Node.item]
  | some (.directory children) => simp [Node.item]
  | some (.link allowed target) => simp [Node.item]

theorem item?_eq_directory {fs : FileSystem links} {location : Location} :
    fs.item? location = some .directory ↔
      ∃ children, fs.get? location = some (.directory children) := by
  unfold item?
  match fs.get? location with
  | none => simp
  | some (.file held) => simp [Node.item]
  | some (.directory children) => simp [Node.item]
  | some (.link allowed target) => simp [Node.item]

theorem item?_eq_link {fs : FileSystem links} {location : Location} {allowed : links = .linked}
    {target : Path} :
    fs.item? location = some (.link allowed target) ↔
      fs.get? location = some (.link allowed target) := by
  unfold item?
  match fs.get? location with
  | none => simp
  | some (.file held) => simp [Node.item]
  | some (.directory children) => simp [Node.item]
  | some (.link _ held) => simp [Node.item]

/-- There is something only below directories. -/
theorem item?_append {fs : FileSystem links} {location below : Location}
    (closed : fs.item? location ≠ some .directory) (notNil : below ≠ []) :
    fs.item? (location ++ below) = none := by
  have split : fs.get? (location ++ below) = (fs.get? location).bind (·.get? below) :=
    Node.get?_append fs.root location below
  unfold item?
  rw [split]
  match found : fs.get? location with
  | none => rfl
  | some (.directory children) => exact absurd (item?_eq_directory.mpr ⟨children, found⟩) closed
  | some (.file _) | some (.link _ _) =>
    cases below with
    | nil => exact absurd rfl notNil
    | cons name rest => rfl

theorem item?_of_append {fs : FileSystem links} {location below : Location}
    (present : fs.item? (location ++ below) ≠ none) (notNil : below ≠ []) :
    fs.item? location = some .directory :=
  Classical.byContradiction fun closed => present (item?_append closed notNil)

/-- Above a directory there are directories. -/
theorem item?_above {fs : FileSystem links} {location below : Location}
    (opens : fs.item? (location ++ below) = some .directory) : fs.item? location = some .directory := by
  cases below with
  | nil => rwa [List.append_nil] at opens
  | cons name rest => exact item?_of_append (by simp [opens]) (List.cons_ne_nil name rest)

theorem item?_dropLast {fs : FileSystem links} {location : Location}
    (opens : fs.item? location = some .directory) : fs.item? location.dropLast = some .directory := by
  by_cases empty : location = []
  · rw [empty] at opens ⊢
    exact opens
  · have split := List.dropLast_concat_getLast empty
    have present : fs.item? (location.dropLast ++ [location.getLast empty]) ≠ none := by
      rw [split, opens]
      simp
    exact item?_of_append present (by simp)

theorem item?_put_of_missing {fs : FileSystem links} {above : Location} (name : String) (new : Node links)
    (missing : fs.item? above = none) (other : Location) :
    (fs.put (above ++ [name]) new).item? other = fs.item? other :=
  Node.item_put_of_missing fs.root new (Option.map_eq_none_iff.mp missing) other

/-- What is put into a directory is there with all that is below it. -/
theorem item?_put_below {fs : FileSystem links} {above : Location} {name : String} (new : Node links)
    (parent : fs.item? above = some .directory) (below : Location) :
    (fs.put (above ++ [name]) new).item? (above ++ [name] ++ below) =
      (new.get? below).map Node.item := by
  obtain ⟨children, atParent⟩ := item?_eq_directory.mp parent
  have atSelf : (fs.put (above ++ [name]) new).get? (above ++ [name]) = some new :=
    Node.get?_put_self atParent
  have split : (fs.put (above ++ [name]) new).get? (above ++ [name] ++ below) =
      ((fs.put (above ++ [name]) new).get? (above ++ [name])).bind (·.get? below) :=
    Node.get?_append _ _ _
  rw [item?, split, atSelf, Option.bind_some]

/-- What is put into a directory changes nothing beside it, and the directories on the way to it stay
directories. -/
theorem item?_put_beside {fs : FileSystem links} {above other : Location} {name : String} (new : Node links)
    (parent : fs.item? above = some .directory) (beside : ¬ above ++ [name] <+: other) :
    (fs.put (above ++ [name]) new).item? other = fs.item? other := by
  by_cases before : other <+: above ++ [name]
  · obtain ⟨below, split⟩ := before
    have notNil : below ≠ [] := by
      rintro rfl
      rw [List.append_nil] at split
      exact beside (split ▸ List.prefix_refl other)
    have there : (fs.put (above ++ [name]) new).item? (above ++ [name] ++ []) = _ :=
      item?_put_below new parent []
    rw [List.append_nil] at there
    have after : (fs.put (above ++ [name]) new).item? other = some .directory :=
      item?_of_append (by rw [split, there]; simp [Node.get?]) notNil
    rcases List.prefix_concat_iff.mp ⟨below, split⟩ with same | ⟨back, rfl⟩
    · exact absurd (same ▸ List.prefix_refl _) beside
    · rw [after, item?_above parent]
  · unfold item? get? put
    rw [Node.get?_put_of_apart fs.root new before beside]

/-- A bare node, put into a directory at a name that no directory has, changes what stands at this
one location. -/
theorem item?_put {fs : FileSystem links} {above : Location} {name : String} (new : Node links)
    (parent : fs.item? above = some .directory)
    (free : fs.item? (above ++ [name]) ≠ some .directory)
    (bare : new.Bare) (other : Location) :
    (fs.put (above ++ [name]) new).item? other =
      if other = above ++ [name] then some new.item else fs.item? other := by
  by_cases beyond : above ++ [name] <+: other
  · obtain ⟨below, rfl⟩ := beyond
    rw [item?_put_below new parent]
    by_cases empty : below = []
    · rw [empty, List.append_nil, if_pos rfl]
      simp [Node.get?]
    · have elsewhere : above ++ [name] ++ below ≠ above ++ [name] := fun same =>
        empty (List.append_right_eq_self.mp same)
      rw [if_neg elsewhere, bare below empty, item?_append free empty]
      rfl
  · have elsewhere : other ≠ above ++ [name] := fun same => beyond (same ▸ List.prefix_refl other)
    rw [if_neg elsewhere, item?_put_beside new parent beyond]

end FileSystem

end Stencil
