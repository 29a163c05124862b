import Stencil.Proofs.TreeGrowth

namespace Stencil.FileSystem

variable {links : Linkage} {fs : FileSystem links} {here : Location}

/-- Where no link stands on the way, ordinary names lead one below the other. -/
theorem follow_names {location : Location} {names : List String}
    (moves : fs.follow here names = .ok location)
    (ordinary : ∀ name ∈ names, name ≠ "" ∧ name ≠ "." ∧ name ≠ "..")
    (unlinked : ∀ above, above <+: names → fs.Unlinked (here ++ above)) : location = here ++ names := by
  induction names generalizing here with
  | nil =>
    cases moves
    exact (List.append_nil _).symm
  | cons name rest ih =>
    obtain ⟨notEmpty, notDot, notDots⟩ := ordinary name List.mem_cons_self
    have named := here.advance_name notEmpty notDot notDots
    rw [follow_cons] at moves
    cases first : fs.step here name with
    | error fault => rw [first] at moves; cases moves
    | ok next =>
      rw [first] at moves
      have reached : next = here ++ [name] := by
        rcases stepWithin_cases first with ⟨entered, _⟩ | ⟨_, allowed, target, _, entered, linked, _⟩
        · exact (enter_ok entered).2.1.trans named
        · rw [(enter_ok entered).2.1, named] at linked
          exact absurd linked
            (unlinked [name] (List.cons_prefix_cons.mpr ⟨rfl, List.nil_prefix⟩) allowed target)
      subst reached
      rw [ih moves (fun other member => ordinary other (List.mem_cons_of_mem name member)) ?_,
        List.append_assoc, List.singleton_append]
      intro above within
      rw [List.append_assoc]
      exact unlinked ([name] ++ above) (List.cons_prefix_cons.mpr ⟨rfl, within⟩)

theorem createFrom_nil (fs : FileSystem links) (here : Location) :
    fs.createFrom here [] =
      match fs.item? here with
      | some .directory => (.ok (), fs)
      | _ => (.error .alreadyExists, fs) := by
  unfold createFrom item?
  cases fs.get? here with
  | none => rfl
  | some node => cases node <;> rfl

theorem createFrom_of_ok {next : Location} {piece : String} (moves : fs.step here piece = .ok next)
    (rest : List String) : fs.createFrom here (piece :: rest) = fs.createFrom next rest := by
  rw [createFrom, moves]

theorem createFrom_of_notFound {piece : String} {rest : List String}
    (lost : fs.enter here piece = .error .notFound) (goesOn : endsIdle rest = false) :
    fs.createFrom here (piece :: rest) =
      (fs.put (here ++ [piece]) .empty).createFrom (here ++ [piece]) rest := by
  have misses : fs.step here piece = .error .notFound := stepWithin_of_error lost
  rw [createFrom, misses]
  simp only [goesOn, lost, Except.isOk, Except.toBool, Bool.false_eq_true, if_false]

theorem createFrom_cases (fs : FileSystem links) (here : Location) (piece : String) (rest : List String) :
    (∃ next, fs.step here piece = .ok next ∧
      fs.createFrom here (piece :: rest) = fs.createFrom next rest) ∨
    (fs.enter here piece = .error .notFound ∧ endsIdle rest = false ∧
      fs.createFrom here (piece :: rest) =
        (fs.put (here ++ [piece]) .empty).createFrom (here ++ [piece]) rest) ∨
    ∃ fault, fs.createFrom here (piece :: rest) = (.error fault, fs) := by
  rw [createFrom]
  split
  · next next moves => exact .inl ⟨next, moves, rfl⟩
  · next lost =>
    split
    · exact .inr (.inr ⟨_, rfl⟩)
    · next goesOn =>
      split
      · exact .inr (.inr ⟨_, rfl⟩)
      · next notEntered =>
        rw [Bool.not_eq_true] at goesOn notEntered
        exact .inr (.inl ⟨enter_of_step_notFound lost notEntered, goesOn, rfl⟩)
  · next fault _ _ => exact .inr (.inr ⟨fault, rfl⟩)

/-- Below a location at which there is nothing, no directory can be created. -/
theorem createFrom_of_missing (missing : fs.item? here = none) (pieces : List String) :
    (fs.createFrom here pieces).1 ≠ .ok () ∧
      ∀ made written, Growth fs (fs.createFrom here pieces).2 made written := by
  induction pieces generalizing fs here with
  | nil =>
    have absent : fs.get? here = none := Option.map_eq_none_iff.mp missing
    rw [createFrom, absent]
    exact ⟨by simp, fun made written => .refl fs made written⟩
  | cons piece rest ih =>
    rcases createFrom_cases fs here piece rest with ⟨next, moves, _⟩ | ⟨_, _, whole⟩ | ⟨fault, whole⟩
    · have opens := (stepWithin_ok moves).1
      simp [missing] at opens
    · have same := item?_put_of_missing piece .empty missing
      have below : (fs.put (here ++ [piece]) .empty).item? (here ++ [piece]) = none := by
        rw [same]
        exact item?_append (by simp [missing]) (by simp)
      obtain ⟨fails, growth⟩ := ih below
      rw [whole]
      refine ⟨fails, fun made written => ?_⟩
      have unchanged : Growth fs (fs.put (here ++ [piece]) .empty) made written := .of_same rfl same
      exact unchanged.trans (growth made written)
    · rw [whole]
      exact ⟨by simp, fun made written => .refl fs made written⟩

/-- A directory that is created at a free name of a directory. -/
theorem item?_put_empty {piece : String} (opens : fs.item? here = some .directory)
    (free : fs.item? (here ++ [piece]) = none) (location : Location) :
    (fs.put (here ++ [piece]) .empty).item? location =
      if location = here ++ [piece] then some .directory else fs.item? location := by
  have closed : fs.item? (here ++ [piece]) ≠ some .directory := by simp [free]
  exact item?_put .empty opens closed Node.bare_empty location

theorem growth_put_empty {piece : String} (opens : fs.item? here = some .directory)
    (free : fs.item? (here ++ [piece]) = none) :
    (fs.put (here ++ [piece]) .empty).item? (here ++ [piece]) = some .directory ∧
      Growth fs (fs.put (here ++ [piece]) .empty) (· = here ++ [piece]) fun _ => False := by
  have items := item?_put_empty opens free
  refine ⟨by rw [items, if_pos rfl], rfl, fun location => ?_⟩
  rw [items]
  by_cases created : location = here ++ [piece]
  · rw [if_pos created]
    exact .inr (.inl ⟨created ▸ free, rfl, created⟩)
  · rw [if_neg created]
    exact .inl rfl

/-- A directory that was created can be entered. -/
theorem step_created {after : FileSystem links} {piece : String} {made written : Location → Prop}
    (growth : Growth fs after made written) (opens : fs.item? here = some .directory)
    (created : after.item? (here ++ [piece]) = some .directory)
    (named : here.advance piece = here ++ [piece]) (short : piece.utf8ByteSize ≤ maxNameBytes) :
    after.step here piece = .ok (here ++ [piece]) :=
  step_of_unlinked (enter_name (growth.directory opens) (by simp [created]) named short)
    (.of_directory created)

/-- Only directories that are missing on the way are created, each where the pieces up to it lead
to in the end. No file is touched. -/
theorem createFrom_growth (fs : FileSystem links) (here : Location) (pieces : List String) :
    Growth fs (fs.createFrom here pieces).2
      (fun location => ∃ front last, front ++ [last] <+: pieces ∧ last ≠ "" ∧
        (fs.createFrom here pieces).2.follow here (front ++ [last]) = .ok location)
      fun _ => False := by
  induction pieces generalizing fs here with
  | nil =>
    rw [createFrom]
    split <;> exact .refl ..
  | cons piece rest ih =>
    rcases createFrom_cases fs here piece rest with ⟨next, moves, whole⟩ | ⟨lost, _, whole⟩ |
      ⟨fault, whole⟩
    · rw [whole]
      refine (ih fs next).mono ?_ fun _ nothing => nothing
      rintro location ⟨front, last, within, named, leads⟩
      refine ⟨piece :: front, last, List.cons_prefix_cons.mpr ⟨rfl, within⟩, named, ?_⟩
      rw [List.cons_append, follow_cons, (ih fs next).step moves]
      exact leads
    · rcases enter_notFound lost with missing | ⟨opens, free, advance, named, short⟩
      · exact (createFrom_of_missing missing _).2 _ _
      · rw [whole]
        obtain ⟨created, first⟩ := growth_put_empty opens free
        have later := ih (fs.put (here ++ [piece]) .empty) (here ++ [piece])
        have enters := later.step (step_created first opens created advance short)
        refine .trans (first.mono ?_ fun _ nothing => nothing)
          (later.mono ?_ fun _ nothing => nothing)
        · rintro location rfl
          refine ⟨[], piece, List.cons_prefix_cons.mpr ⟨rfl, List.nil_prefix⟩, named, ?_⟩
          rw [List.nil_append, follow_cons, enters]
          rfl
        · rintro location ⟨front, last, within, lastNamed, leads⟩
          refine ⟨piece :: front, last, List.cons_prefix_cons.mpr ⟨rfl, within⟩, lastNamed, ?_⟩
          rw [List.cons_append, follow_cons, enters]
          exact leads
    · rw [whole]
      exact .refl ..

theorem createFrom_ok {pieces : List String} {after : FileSystem links}
    (created : fs.createFrom here pieces = (.ok (), after)) :
    ∃ location, after.follow here pieces = .ok location ∧ after.item? location = some .directory := by
  induction pieces generalizing fs here with
  | nil =>
    rw [createFrom] at created
    split at created
    · next children opens =>
      obtain ⟨_, rfl⟩ := Prod.mk.inj created
      exact ⟨here, rfl, item?_eq_directory.mpr ⟨children, opens⟩⟩
    · simp at created
  | cons piece rest ih =>
    have growth := createFrom_growth fs here (piece :: rest)
    rw [created] at growth
    rcases createFrom_cases fs here piece rest with ⟨next, moves, whole⟩ | ⟨lost, _, whole⟩ |
      ⟨fault, whole⟩
    · rw [whole] at created
      obtain ⟨location, leads, opens⟩ := ih created
      refine ⟨location, ?_, opens⟩
      rw [follow_cons, growth.step moves]
      exact leads
    · rcases enter_notFound lost with missing | ⟨isDirectory, free, advance, _, short⟩
      · have fails := (createFrom_of_missing missing (piece :: rest)).1
        rw [created] at fails
        exact absurd rfl fails
      · rw [whole] at created
        obtain ⟨location, leads, opens⟩ := ih created
        refine ⟨location, ?_, opens⟩
        obtain ⟨made, first⟩ := growth_put_empty isDirectory free
        have later := createFrom_growth (fs.put (here ++ [piece]) .empty) (here ++ [piece]) rest
        rw [created] at later
        have enters := later.step (step_created first isDirectory made advance short)
        rw [follow_cons, enters]
        exact leads
    · rw [whole] at created
      simp at created

theorem createFrom_append {front : List String} {base : Location}
    (leads : fs.follow here front = .ok base) (rest : List String) :
    fs.createFrom here (front ++ rest) = fs.createFrom base rest := by
  induction front generalizing here with
  | nil => cases leads; rfl
  | cons piece others ih =>
    rw [follow_cons] at leads
    cases moves : fs.step here piece with
    | error fault => rw [moves] at leads; cases leads
    | ok next =>
      rw [moves] at leads
      rw [List.cons_append, createFrom, moves]
      exact ih leads

theorem createDirectories_of_leads {path : Path} {front names : List String} {base : Location}
    (clean : hasNul path = false) (notEmpty : path.spelling.isEmpty = false)
    (spelled : path.pieces = front ++ names)
    (leads : fs.follow (fs.start path) front = .ok base) :
    fs.createDirectories path = fs.createFrom base names := by
  unfold createDirectories
  rw [clean, notEmpty, spelled, createFrom_append leads]
  rfl

/-- Nothing is created on a path that leads to a directory already. -/
theorem createDirectories_of_isDirectory {path : Path} (opens : fs.isDirectory path = true) :
    fs.createDirectories path = (.ok (), fs) := by
  obtain ⟨location, found, atEnd⟩ := isDirectory_iff.mp opens
  obtain ⟨children, held⟩ := item?_eq_directory.mp atEnd
  obtain ⟨clean, notEmpty, leads⟩ := resolve_eq_ok.mp found
  rw [createDirectories_of_leads clean notEmpty (List.append_nil _).symm leads, createFrom, held]

theorem hasNul_iff (path : Path) :
    hasNul path = true ↔ ∃ piece ∈ path.pieces, '\x00' ∈ piece.toList := by
  have inCut := Text.mem_iff_mem_cut (by decide : '\x00' ≠ '/') path.spelling.toList
  simp only [hasNul, List.contains_iff_mem, Path.pieces, Text.pieces, List.mem_map]
  constructor
  · intro nul
    obtain ⟨piece, member, within⟩ := inCut.mp nul
    exact ⟨_, ⟨piece, member, rfl⟩, by rwa [String.toList_ofList]⟩
  · rintro ⟨_, ⟨piece, member, rfl⟩, within⟩
    exact inCut.mpr ⟨piece, member, by rwa [String.toList_ofList] at within⟩

theorem resolve_ofPieces {path : Path} {front : List String} {last : String} {location : Location}
    (clean : hasNul path = false) (within : front ++ [last] <+: path.pieces) (named : last ≠ "")
    (leads : fs.follow (fs.start path) (front ++ [last]) = .ok location) :
    fs.resolve (.ofPieces (front ++ [last])) = .ok location := by
  obtain ⟨spelled, absolute, _⟩ := Path.ofPieces_prefix within List.getLast?_concat named
  have cleanFront : hasNul (.ofPieces (front ++ [last])) = false := by
    rw [← Bool.not_eq_true, hasNul_iff, spelled]
    rintro ⟨piece, member, nul⟩
    have dirty := (hasNul_iff path).mpr ⟨piece, within.subset member, nul⟩
    simp [clean] at dirty
  have notEmpty : (Path.ofPieces (front ++ [last])).spelling.isEmpty = false :=
    Path.isEmpty_eq_false_of_last (by rw [spelled, List.getLast?_concat]) named
  have start : fs.start (.ofPieces (front ++ [last])) = fs.start path := by
    unfold FileSystem.start startIn
    rw [absolute]
  rw [resolve_eq_ok, spelled, start]
  exact ⟨cleanFront, notEmpty, leads⟩

/-- Creating the directories of a path creates only such that stand on it, and touches no file. -/
theorem createDirectories_growth (fs : FileSystem links) (path : Path) :
    Growth fs (fs.createDirectories path).2 ((fs.createDirectories path).2.OnPath path)
      fun _ => False := by
  unfold createDirectories
  split
  · exact .refl ..
  · next clean =>
    rw [Bool.not_eq_true] at clean
    split
    · exact .refl ..
    · have growth := createFrom_growth fs (fs.start path) path.pieces
      refine growth.mono ?_ fun _ nothing => nothing
      rintro location ⟨front, last, within, named, leads⟩
      refine ⟨_, (Path.ofPieces_prefix within List.getLast?_concat named).2.2,
        resolve_ofPieces clean within named ?_⟩
      rw [growth.start]
      exact leads

/-- Once created, a directory is where its path leads. -/
theorem createDirectories_leads {path : Path} {after : FileSystem links}
    (created : fs.createDirectories path = (.ok (), after)) (notEmpty : path.spelling ≠ "") :
    hasNul path = false ∧ ∃ location,
      after.follow (after.start path) path.pieces = .ok location ∧
        after.item? location = some .directory := by
  have growth := createDirectories_growth fs path
  rw [created] at growth
  rw [createDirectories, String.isEmpty_eq_false_iff.mpr notEmpty] at created
  cases clean : hasNul path with
  | true => simp [clean] at created
  | false =>
    rw [clean] at created
    obtain ⟨location, leads, opens⟩ := createFrom_ok created
    rw [← growth.start] at leads
    exact ⟨rfl, location, leads, opens⟩

/-- Once created, a directory is found where a path that is joined to its own begins. -/
theorem exists_base_of_created {path : Path} {after : FileSystem links}
    (created : fs.createDirectories path = (.ok (), after)) :
    ∃ base, after.follow (after.start path) path.stem = .ok base := by
  by_cases empty : path.spelling = ""
  · have stem : path.stem = [] := by simp [Path.stem, Path.pieces, empty, Text.pieces, Text.cut]
    rw [stem]
    exact ⟨_, rfl⟩
  · obtain ⟨_, location, leads, _⟩ := createDirectories_leads created empty
    rcases path.pieces_eq_stem with same | idle
    · exact ⟨location, same ▸ leads⟩
    · rw [idle] at leads
      obtain ⟨base, first, _⟩ := follow_concat_ok leads
      exact ⟨base, first⟩

/-- Below a directory that is there already, ordinary names are created one in the other, if there are
no links. -/
theorem createDirectories_growth_below {path : Path} {front names : List String} {base : Location}
    (leads : fs.follow (fs.start path) front = .ok base) (spelled : path.pieces = front ++ names)
    (ordinary : ∀ name ∈ names, name ≠ "" ∧ name ≠ "." ∧ name ≠ "..")
    (unlinked : ∀ above, above <+: names → fs.Unlinked (base ++ above)) :
    Growth fs (fs.createDirectories path).2
      (fun location => ∃ above, above ≠ [] ∧ above <+: names ∧ location = base ++ above)
      fun _ => False := by
  unfold createDirectories
  split
  · exact .refl ..
  · split
    · exact .refl ..
    · rw [spelled, createFrom_append leads]
      have growth := createFrom_growth fs base names
      refine growth.mono ?_ fun _ nothing => nothing
      rintro location ⟨before, last, within, _, found⟩
      refine ⟨before ++ [last], by simp, within, follow_names found ?_ ?_⟩
      · exact fun name member => ordinary name (within.subset member)
      · exact fun above front => growth.unlinked (unlinked above (front.trans within))

section

variable {fs after : FileSystem .linkFree} {path : Path}

theorem createDirectories_ok (created : fs.createDirectories path = (.ok (), after))
    (notEmpty : path.spelling ≠ "") :
    hasNul path = false ∧ after.follow (after.start path) path.pieces = .ok (after.place path) ∧
      after.item? (after.place path) = some .directory := by
  obtain ⟨clean, location, leads, opens⟩ := createDirectories_leads created notEmpty
  have same : location = after.place path := follow_ok leads
  exact ⟨clean, same ▸ leads, same ▸ opens⟩

theorem place_eq_stem (fs : FileSystem .linkFree) (path : Path) :
    fs.place path = path.stem.foldl Location.advance (fs.start path) := by
  unfold place
  rcases path.pieces_eq_stem with same | idle
  · rw [← same]
  · rw [idle, List.foldl_append, List.foldl_cons, List.foldl_nil, Location.advance_empty]

/-- In a tree without links this is the place of the path. -/
theorem follow_stem_of_created (created : fs.createDirectories path = (.ok (), after)) :
    after.follow (after.start path) path.stem = .ok (after.place path) := by
  obtain ⟨base, leads⟩ := exists_base_of_created created
  rw [leads, follow_ok leads, place_eq_stem]

end

end Stencil.FileSystem
