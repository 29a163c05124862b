import Stencil.Proofs.PathPieces
import Stencil.Proofs.TreeItems

namespace Stencil

/-- Where a piece of a path leads to in a tree without links, if it leads anywhere. -/
def Location.advance (here : Location) (piece : String) : Location :=
  if piece = "" ∨ piece = "." then here
  else if piece = ".." then here.dropLast
  else here ++ [piece]

theorem Location.advance_name (here : Location) {piece : String} (notEmpty : piece ≠ "")
    (notDot : piece ≠ ".") (notDots : piece ≠ "..") : here.advance piece = here ++ [piece] := by
  simp [advance, notEmpty, notDot, notDots]

theorem Location.advance_empty (here : Location) : here.advance "" = here := by
  simp [advance]

theorem Location.ordinary_of_advance {here : Location} {piece : String}
    (named : here.advance piece = here ++ [piece]) : piece ≠ "" ∧ piece ≠ "." ∧ piece ≠ ".." := by
  have length := congrArg List.length named
  rw [List.length_append, List.length_singleton] at length
  refine ⟨?_, ?_, ?_⟩
  · rintro rfl
    simp [advance] at length
  · rintro rfl
    simp [advance] at length
  · rintro rfl
    simp [advance] at length

theorem Location.foldl_advance_names (here : Location) {names : List String}
    (ordinary : ∀ name ∈ names, name ≠ "" ∧ name ≠ "." ∧ name ≠ "..") :
    names.foldl advance here = here ++ names := by
  induction names generalizing here with
  | nil => exact (List.append_nil here).symm
  | cons name rest ih =>
    obtain ⟨notEmpty, notDot, notDots⟩ := ordinary name List.mem_cons_self
    rw [List.foldl_cons, advance_name here notEmpty notDot notDots,
      ih _ fun other member => ordinary other (List.mem_cons_of_mem _ member), List.append_assoc,
      List.singleton_append]

namespace FileSystem

section

variable {links : Linkage} {fs : FileSystem links} {here next : Location} {piece name : String}

/-- Where paths start depends on the working directory alone. -/
theorem start_congr {fs other : FileSystem links} (kept : other.workingDirectory = fs.workingDirectory)
    (path : Path) : other.start path = fs.start path := by
  unfold start
  rw [kept]

theorem start_join (fs : FileSystem links) (base : Path) {path : Path}
    (relative : path.isAbsolute = false) : fs.start (base.join path) = fs.start base := by
  unfold start startIn
  rw [Path.isAbsolute_join relative]

theorem enter_eq (fs : FileSystem links) (here : Location) (piece : String) :
    fs.enter here piece =
      match fs.item? here with
      | some .directory =>
        if piece = "" ∨ piece = "." then .ok here
        else if piece = ".." then .ok here.dropLast
        else if piece.utf8ByteSize > maxNameBytes then .error .nameTooLong
        else if (fs.item? (here ++ [piece])).isSome then .ok (here ++ [piece])
        else .error .notFound
      | none => .error .notFound
      | some _ => .error .notADirectory := by
  unfold enter item?
  match found : fs.get? here with
  | none => rfl
  | some (.file content) => rfl
  | some (.link allowed target) => rfl
  | some (.directory children) =>
    have split : fs.get? (here ++ [piece]) = (fs.get? here).bind (·.get? [piece]) :=
      Node.get?_append fs.root here [piece]
    have present : (Entries.find? piece children).isSome =
        ((fs.get? (here ++ [piece])).map Node.item).isSome := by
      rw [split, found, Option.bind_some, Node.get?]
      cases Entries.find? piece children <;> simp [Node.get?]
    simp only [Option.map_some, Node.item, present]

theorem enter_opens (entered : fs.enter here piece = .ok next) : fs.item? here = some .directory := by
  rw [enter_eq] at entered
  match at' : fs.item? here with
  | some .directory => rfl
  | none => simp [at'] at entered
  | some (.file content) => simp [at'] at entered
  | some (.link allowed target) => simp [at'] at entered

theorem enter_ok (entered : fs.enter here piece = .ok next) :
    fs.item? here = some .directory ∧ next = here.advance piece ∧ fs.item? next ≠ none := by
  have opens := enter_opens entered
  rw [enter_eq, opens] at entered
  refine ⟨opens, ?_⟩
  unfold Location.advance
  simp only at entered
  split at entered
  · next idle =>
    cases entered
    simp [idle, opens]
  · next notIdle =>
    split at entered
    · next up =>
      cases entered
      refine ⟨by simp [up], ?_⟩
      rw [item?_dropLast opens]
      simp
    · next notUp =>
      split at entered
      · cases entered
      · split at entered
        · next present =>
          cases entered
          exact ⟨by simp [notIdle, notUp], Option.isSome_iff_ne_none.mp present⟩
        · cases entered

theorem enter_name_short (entered : fs.enter here name = .ok next)
    (ordinary : name ≠ "" ∧ name ≠ "." ∧ name ≠ "..") : name.utf8ByteSize ≤ maxNameBytes := by
  obtain ⟨notEmpty, notDot, notDots⟩ := ordinary
  have opens := enter_opens entered
  rw [enter_eq, opens] at entered
  by_cases long : name.utf8ByteSize > maxNameBytes
  · simp [notEmpty, notDot, notDots, long] at entered
  · omega

/-- What is missed is only a name that a directory could have, or anything where there is nothing. -/
theorem enter_notFound (lost : fs.enter here piece = .error .notFound) :
    fs.item? here = none ∨
      fs.item? here = some .directory ∧ fs.item? (here ++ [piece]) = none ∧
        here.advance piece = here ++ [piece] ∧ piece ≠ "" ∧ piece.utf8ByteSize ≤ maxNameBytes := by
  rw [enter_eq] at lost
  match at' : fs.item? here with
  | none => exact .inl rfl
  | some (.file content) => simp [at'] at lost
  | some (.link allowed target) => simp [at'] at lost
  | some .directory =>
    simp only [at'] at lost
    unfold Location.advance
    split at lost
    · cases lost
    · next notIdle =>
      split at lost
      · cases lost
      · next notUp =>
        split at lost
        · cases lost
        · next short =>
          split at lost
          · cases lost
          · next absent =>
            refine .inr ⟨rfl, by simpa using absent, by simp [notIdle, notUp], ?_, by omega⟩
            exact fun empty => notIdle (.inl empty)

theorem enter_name (opens : fs.item? here = some .directory) (there : fs.item? (here ++ [piece]) ≠ none)
    (named : here.advance piece = here ++ [piece]) (short : piece.utf8ByteSize ≤ maxNameBytes) :
    fs.enter here piece = .ok (here ++ [piece]) := by
  obtain ⟨notEmpty, notDot, notUp⟩ := Location.ordinary_of_advance named
  have notLong : ¬ piece.utf8ByteSize > maxNameBytes := by omega
  have present : (fs.item? (here ++ [piece])).isSome = true := Option.isSome_iff_ne_none.mpr there
  rw [enter_eq, opens]
  simp only [notEmpty, notDot, or_self, notUp, notLong, present, if_false, if_true]

theorem enter_missing (opens : fs.item? here = some .directory)
    (free : fs.item? (here ++ [piece]) = none) (named : here.advance piece = here ++ [piece])
    (short : piece.utf8ByteSize ≤ maxNameBytes) : fs.enter here piece = .error .notFound := by
  obtain ⟨notEmpty, notDot, notUp⟩ := Location.ordinary_of_advance named
  have notLong : ¬ piece.utf8ByteSize > maxNameBytes := by omega
  rw [enter_eq, opens]
  simp only [notEmpty, notDot, or_self, notUp, notLong, free, Option.isSome_none,
    Bool.false_eq_true, if_false]

/-- A piece that is no name leads from a directory to a directory. -/
theorem item?_advance (opens : fs.item? here = some .directory)
    (unnamed : here.advance piece ≠ here ++ [piece]) :
    fs.item? (here.advance piece) = some .directory := by
  unfold Location.advance at unnamed ⊢
  split at unnamed
  · next idle => rwa [if_pos idle]
  · next notIdle =>
    rw [if_neg notIdle]
    split at unnamed
    · next up =>
      rw [if_pos up]
      exact item?_dropLast opens
    · exact absurd rfl unnamed

/-- No link stands at a location. -/
def Unlinked (fs : FileSystem links) (location : Location) : Prop :=
  ∀ allowed target, fs.item? location ≠ some (.link allowed target)

theorem Unlinked.of_linkFree (fs : FileSystem .linkFree) (location : Location) : fs.Unlinked location :=
  fun allowed => nomatch allowed

theorem Unlinked.of_directory (opens : fs.item? here = some .directory) : fs.Unlinked here := by
  intro allowed target linked
  rw [opens] at linked
  cases linked

/-- No link stands at a location or below it. -/
def UnlinkedBelow (fs : FileSystem links) (base : Location) : Prop :=
  ∀ names, fs.Unlinked (base ++ names)

theorem UnlinkedBelow.of_linkFree (fs : FileSystem .linkFree) (base : Location) :
    fs.UnlinkedBelow base :=
  fun names => .of_linkFree fs (base ++ names)

theorem unlinked_or_link (fs : FileSystem links) (location : Location) :
    fs.Unlinked location ∨ ∃ allowed target, fs.item? location = some (.link allowed target) := by
  match held : fs.item? location with
  | some (.link allowed target) => exact .inr ⟨allowed, target, rfl⟩
  | none | some (.file _) | some .directory =>
    refine .inl fun allowed target linked => ?_
    rw [held] at linked
    cases linked

theorem stepWithin_of_error {depth : Nat} {fault : AccessError}
    (stopped : fs.enter here piece = .error fault) :
    fs.stepWithin depth here piece = .error fault := by
  rw [stepWithin.eq_def, stopped]
  rfl

/-- Where no link stands, a piece leads there. -/
theorem stepWithin_of_unlinked {depth : Nat} (entered : fs.enter here piece = .ok next)
    (unlinked : fs.Unlinked next) : fs.stepWithin depth here piece = .ok next := by
  rw [stepWithin.eq_def, entered]
  simp only [bind, Except.bind]
  split
  · next allowed target found => exact absurd (item?_eq_link.mpr found) (unlinked allowed target)
  · rfl

/-- Where a link stands, a piece leads on as the link's target does. -/
theorem stepWithin_of_link {allowed : links = .linked} {target : Path}
    (entered : fs.enter here piece = .ok next) (linked : fs.item? next = some (.link allowed target))
    (depth : Nat) :
    fs.stepWithin (depth + 1) here piece =
      target.pieces.foldlM (fs.stepWithin depth) (startIn here target) := by
  rw [stepWithin.eq_def, entered]
  simp only [bind, Except.bind, item?_eq_link.mp linked]

theorem stepWithin_zero_of_link {allowed : links = .linked} {target : Path}
    (entered : fs.enter here piece = .ok next) (linked : fs.item? next = some (.link allowed target)) :
    fs.stepWithin 0 here piece = .error .tooManyLinks := by
  rw [stepWithin.eq_def, entered]
  simp only [bind, Except.bind, item?_eq_link.mp linked]

/-- A step leads to where its piece does, or on through a link that stands there. -/
theorem stepWithin_cases {depth : Nat} (moves : fs.stepWithin depth here piece = .ok next) :
    (fs.enter here piece = .ok next ∧ fs.Unlinked next) ∨
      ∃ between allowed target less, fs.enter here piece = .ok between ∧
        fs.item? between = some (.link allowed target) ∧ depth = less + 1 ∧
        target.pieces.foldlM (fs.stepWithin less) (startIn here target) = .ok next := by
  cases entered : fs.enter here piece with
  | error fault =>
    rw [stepWithin_of_error entered] at moves
    cases moves
  | ok between =>
    rcases fs.unlinked_or_link between with unlinked | ⟨allowed, target, linked⟩
    · rw [stepWithin_of_unlinked entered unlinked] at moves
      cases moves
      exact .inl ⟨rfl, unlinked⟩
    · cases depth with
      | zero =>
        rw [stepWithin_zero_of_link entered linked] at moves
        cases moves
      | succ less =>
        rw [stepWithin_of_link entered linked] at moves
        exact .inr ⟨between, allowed, target, less, rfl, linked, rfl, moves⟩

theorem exists_last_step {walk : Location → String → Except AccessError Location} {pieces : List String}
    (notNil : pieces ≠ []) (moves : pieces.foldlM walk here = .ok next) :
    ∃ above last, walk above last = .ok next := by
  rcases List.eq_nil_or_concat pieces with nil | ⟨front, last, rfl⟩
  · exact absurd nil notNil
  · rw [List.concat_eq_append, List.foldlM_append] at moves
    cases first : front.foldlM walk here with
    | error fault => rw [first] at moves; cases moves
    | ok above =>
      refine ⟨above, last, ?_⟩
      rw [first] at moves
      cases second : walk above last with
      | error fault => simp [second, bind, Except.bind] at moves
      | ok location =>
        simp only [second, bind, Except.bind, List.foldlM_cons, List.foldlM_nil] at moves
        exact moves

/-- A step starts from a directory, and ends at something that is no link. -/
theorem stepWithin_ok {depth : Nat} (moves : fs.stepWithin depth here piece = .ok next) :
    fs.item? here = some .directory ∧ fs.item? next ≠ none ∧ fs.Unlinked next := by
  induction depth generalizing here piece next with
  | zero =>
    rcases stepWithin_cases moves with ⟨entered, unlinked⟩ | ⟨_, _, _, _, _, _, positive, _⟩
    · exact ⟨enter_opens entered, (enter_ok entered).2.2, unlinked⟩
    · cases positive
  | succ depth ih =>
    rcases stepWithin_cases moves with ⟨entered, unlinked⟩ |
      ⟨between, _, target, _, entered, _, same, onwards⟩
    · exact ⟨enter_opens entered, (enter_ok entered).2.2, unlinked⟩
    · cases same
      obtain ⟨above, last, ends⟩ := exists_last_step (Text.pieces_ne_nil '/' target.spelling) onwards
      exact ⟨enter_opens entered, (ih ends).2⟩

theorem step_of_unlinked (entered : fs.enter here piece = .ok next) (unlinked : fs.Unlinked next) :
    fs.step here piece = .ok next :=
  stepWithin_of_unlinked entered unlinked

/-- Where a step finds nothing although there is no link, nothing is there. -/
theorem enter_of_step_notFound (lost : fs.step here piece = .error .notFound)
    (notEntered : (fs.enter here piece).isOk = false) : fs.enter here piece = .error .notFound := by
  cases entered : fs.enter here piece with
  | ok location => simp [entered, Except.isOk, Except.toBool] at notEntered
  | error fault =>
    rw [step, stepWithin_of_error entered] at lost
    rw [lost]

theorem follow_nil (fs : FileSystem links) (here : Location) : fs.follow here [] = .ok here :=
  rfl

theorem follow_cons (fs : FileSystem links) (here : Location) (piece : String) (rest : List String) :
    fs.follow here (piece :: rest) = (fs.step here piece).bind fun next => fs.follow next rest :=
  rfl

theorem follow_of_ok (moves : fs.step here piece = .ok next) (rest : List String) :
    fs.follow here (piece :: rest) = fs.follow next rest := by
  rw [follow_cons, moves, Except.bind]

theorem follow_of_error {fault : AccessError} (stopped : fs.step here piece = .error fault)
    (rest : List String) : fs.follow here (piece :: rest) = .error fault := by
  rw [follow_cons, stopped, Except.bind]

theorem follow_append (fs : FileSystem links) (here : Location) (front back : List String) :
    fs.follow here (front ++ back) =
      (fs.follow here front).bind fun next => fs.follow next back := by
  induction front generalizing here with
  | nil => rfl
  | cons piece rest ih =>
    rw [List.cons_append, follow_cons, follow_cons]
    cases fs.step here piece with
    | error fault => rfl
    | ok next => exact ih next

theorem follow_concat_ok {location : Location} {front : List String} {last : String}
    (moves : fs.follow here (front ++ [last]) = .ok location) :
    ∃ above, fs.follow here front = .ok above ∧ fs.step above last = .ok location := by
  rw [follow_append] at moves
  cases first : fs.follow here front with
  | error fault => rw [first] at moves; cases moves
  | ok above =>
    rw [first, Except.bind, follow_cons] at moves
    cases second : fs.step above last with
    | error fault => rw [second] at moves; cases moves
    | ok next =>
      rw [second] at moves
      cases moves
      exact ⟨above, rfl, second⟩

theorem resolve_eq_ok {fs : FileSystem links} {path : Path} {location : Location} :
    fs.resolve path = .ok location ↔ hasNul path = false ∧ path.spelling.isEmpty = false ∧
      fs.follow (fs.start path) path.pieces = .ok location := by
  unfold resolve
  cases hasNul path <;> cases path.spelling.isEmpty <;> simp

/-- The path, or one above it, leads to the location. -/
def OnPath (fs : FileSystem links) (path : Path) (location : Location) : Prop :=
  ∃ above : Path, above.components <+: path.components ∧ fs.resolve above = .ok location

theorem isFile_iff {fs : FileSystem links} {path : Path} :
    fs.isFile path = true ↔
      ∃ location content, fs.resolve path = .ok location ∧
        fs.item? location = some (.file content) := by
  unfold isFile nodeAt?
  cases found : fs.resolve path with
  | error fault => simp
  | ok location =>
    match held : fs.get? location with
    | none => simp [item?, held]
    | some (.file content) => simp [item?, held, Node.item]
    | some (.directory children) => simp [item?, held, Node.item]
    | some (.link allowed target) => simp [item?, held, Node.item]

theorem isDirectory_iff {fs : FileSystem links} {path : Path} :
    fs.isDirectory path = true ↔
      ∃ location, fs.resolve path = .ok location ∧ fs.item? location = some .directory := by
  unfold isDirectory nodeAt?
  cases found : fs.resolve path with
  | error fault => simp
  | ok location =>
    match held : fs.get? location with
    | none => simp [item?, held]
    | some (.file content) => simp [item?, held, Node.item]
    | some (.directory children) => simp [item?, held, Node.item]
    | some (.link allowed target) => simp [item?, held, Node.item]

end

/-- The location of a path in a tree without links, whether or not anything stands there. -/
def place (fs : FileSystem .linkFree) (path : Path) : Location :=
  path.pieces.foldl Location.advance (fs.start path)

section

variable {fs other : FileSystem .linkFree} {here next : Location} {piece name : String}

theorem place_congr (kept : other.workingDirectory = fs.workingDirectory) (path : Path) :
    other.place path = fs.place path := by
  unfold place
  rw [start_congr kept]

theorem step_eq_enter (fs : FileSystem .linkFree) (here : Location) (piece : String) :
    fs.step here piece = fs.enter here piece := by
  cases entered : fs.enter here piece with
  | error fault => exact stepWithin_of_error entered
  | ok next => exact stepWithin_of_unlinked entered (.of_linkFree fs next)

theorem step_ok (moves : fs.step here piece = .ok next) :
    fs.item? here = some .directory ∧ next = here.advance piece ∧ fs.item? next ≠ none :=
  enter_ok (step_eq_enter fs here piece ▸ moves)

theorem step_name_short (moves : fs.step here name = .ok next)
    (ordinary : name ≠ "" ∧ name ≠ "." ∧ name ≠ "..") : name.utf8ByteSize ≤ maxNameBytes :=
  enter_name_short (step_eq_enter fs here name ▸ moves) ordinary

theorem step_notFound (lost : fs.step here piece = .error .notFound) :
    fs.item? here = none ∨
      fs.item? here = some .directory ∧ fs.item? (here ++ [piece]) = none ∧
        here.advance piece = here ++ [piece] ∧ piece ≠ "" ∧ piece.utf8ByteSize ≤ maxNameBytes :=
  enter_notFound (step_eq_enter fs here piece ▸ lost)

/-- A step sees no more of a tree than what kind of thing stands here, and whether the name that it
goes to is there. -/
theorem step_like (at' : Item.Like (fs.item? here) (other.item? here))
    (beyond : here.advance piece = here ++ [piece] →
      Item.Like (fs.item? (here ++ [piece])) (other.item? (here ++ [piece]))) :
    other.step here piece = fs.step here piece := by
  rw [step_eq_enter, step_eq_enter, enter_eq, enter_eq]
  generalize fs.item? here = item, other.item? here = otherItem at at'
  cases at' with
  | none | file => rfl
  | directory =>
    simp only
    split
    · rfl
    · next notIdle =>
      split
      · rfl
      · next notUp =>
        have named : here.advance piece = here ++ [piece] := by
          simp [Location.advance, notIdle, notUp]
        rw [(beyond named).isSome_eq]

/-- In a tree without links it is the spelling of a path alone that says where it leads. -/
theorem follow_ok {location : Location} {pieces : List String}
    (moves : fs.follow here pieces = .ok location) :
    location = pieces.foldl Location.advance here := by
  induction pieces generalizing here with
  | nil => cases moves; rfl
  | cons piece rest ih =>
    rw [follow_cons] at moves
    cases first : fs.step here piece with
    | error fault => rw [first] at moves; cases moves
    | ok next =>
      rw [first] at moves
      rw [ih moves, (step_ok first).2.1]
      rfl

theorem resolve_eq_place {path : Path} {location : Location}
    (found : fs.resolve path = .ok location) : location = fs.place path :=
  follow_ok (resolve_eq_ok.mp found).2.2

end

end FileSystem

end Stencil
