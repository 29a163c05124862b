import Stencil.Proofs.PathSpellings
import Stencil.Proofs.TemplateLoading

namespace Stencil

/-- The locations at which directories can be created for pieces on their way from here. -/
def Opens (here : Location) : List String → Location → Prop
  | [], _ => False
  | piece :: rest, location =>
    (location = here ++ [piece] ∧ here.advance piece = here ++ [piece] ∧
      FileSystem.endsIdle rest = false) ∨
    Opens (here.advance piece) rest location

/-- The locations that pieces lead through on their way from here, with the first and the last. -/
def Visits (here : Location) : List String → Location → Prop
  | [], location => location = here
  | piece :: rest, location => location = here ∨ Visits (here.advance piece) rest location

theorem Visits.start (here : Location) (pieces : List String) : Visits here pieces here := by
  cases pieces with
  | nil => rfl
  | cons piece rest => exact .inl rfl

theorem Opens.visits {here location : Location} {pieces : List String}
    (opens : Opens here pieces location) : Visits here pieces location := by
  induction pieces generalizing here with
  | nil => exact opens.elim
  | cons piece rest ih =>
    rcases opens with ⟨rfl, named, _⟩ | later
    · rw [Visits, named]
      exact .inr (.start _ rest)
    · exact .inr (ih later)

/-- Names are created one in the other, the last one too. -/
theorem Opens.names (here : Location) {names : List String} (notNil : names ≠ [])
    (ordinary : ∀ name ∈ names, name ≠ "" ∧ name ≠ "." ∧ name ≠ "..") :
    Opens here names (here ++ names) := by
  induction names generalizing here with
  | nil => exact absurd rfl notNil
  | cons name rest ih =>
    obtain ⟨notEmpty, notDot, notUp⟩ := ordinary name List.mem_cons_self
    have named := Location.advance_name here notEmpty notDot notUp
    cases rest with
    | nil => exact .inl ⟨rfl, named, rfl⟩
    | cons next others =>
      have later := ih (here ++ [name]) (by simp) fun other member =>
        ordinary other (List.mem_cons_of_mem _ member)
      rw [Opens, named]
      exact .inr (by simpa using later)

theorem not_opens_of_idle {here location : Location} {pieces : List String}
    (idle : ∀ piece ∈ pieces, Path.IsIdle piece) : ¬ Opens here pieces location := by
  induction pieces generalizing here with
  | nil => exact id
  | cons piece rest ih =>
    have stays := here.advance_idle (idle piece List.mem_cons_self)
    rintro (⟨_, named, _⟩ | later)
    · have length := congrArg List.length (stays.symm.trans named)
      simp at length
    · exact ih (fun other member => idle other (List.mem_cons_of_mem _ member)) later

theorem Location.foldl_advance_idle (here : Location) {pieces : List String}
    (idle : ∀ piece ∈ pieces, Path.IsIdle piece) : pieces.foldl advance here = here := by
  induction pieces with
  | nil => rfl
  | cons piece rest ih =>
    rw [List.foldl_cons, here.advance_idle (idle piece List.mem_cons_self)]
    exact ih fun other member => idle other (List.mem_cons_of_mem _ member)

namespace FileSystem

theorem idle_of_endsIdle {pieces : List String} (ends : endsIdle pieces = true) :
    ∀ piece ∈ pieces, Path.IsIdle piece := by
  intro piece member
  simp only [endsIdle, Bool.and_eq_true, List.all_eq_true] at ends
  simpa [Path.IsIdle] using ends.2 piece member

variable {fs : FileSystem .linkFree} {here : Location} {pieces : List String}

theorem createFrom_opens (fs : FileSystem .linkFree) (here : Location) (pieces : List String) :
    Growth fs (fs.createFrom here pieces).2
      (fun location => fs.item? here = some .directory ∧ Opens here pieces location)
      fun _ => False := by
  induction pieces generalizing fs here with
  | nil =>
    rw [createFrom]
    split <;> exact .refl ..
  | cons piece rest ih =>
    rcases createFrom_cases fs here piece rest with ⟨next, moves, whole⟩ | ⟨lost, goesOn, whole⟩ |
      ⟨fault, whole⟩
    · obtain ⟨opens, rfl, _⟩ := step_ok moves
      rw [whole]
      exact (ih fs _).mono (fun _ made => ⟨opens, .inr made.2⟩) fun _ nothing => nothing
    · rcases enter_notFound lost with missing | ⟨opens, free, named, _⟩
      · exact (createFrom_of_missing missing (piece :: rest)).2 _ _
      · rw [whole]
        refine ((growth_put_empty opens free).2.mono ?_ fun _ nothing => nothing).trans
          ((ih _ _).mono ?_ fun _ nothing => nothing)
        · rintro location rfl
          exact ⟨opens, .inl ⟨rfl, named, goesOn⟩⟩
        · rintro location ⟨_, later⟩
          exact ⟨opens, .inr (by rwa [named])⟩
    · rw [whole]
      exact .refl ..

theorem createFrom_ok_start {after : FileSystem .linkFree}
    (created : fs.createFrom here pieces = (.ok (), after)) :
    fs.item? here = some .directory := by
  cases pieces with
  | nil =>
    rw [createFrom_nil] at created
    split at created
    · assumption
    · cases (Prod.mk.inj created).1
  | cons piece rest =>
    rcases createFrom_cases fs here piece rest with ⟨next, moves, _⟩ | ⟨lost, _, _⟩ | ⟨fault, whole⟩
    · exact (step_ok moves).1
    · rcases enter_notFound lost with missing | ⟨opens, _⟩
      · have fails := (createFrom_of_missing missing (piece :: rest)).1
        rw [created] at fails
        exact absurd rfl fails
      · exact opens
    · rw [whole] at created
      cases (Prod.mk.inj created).1

/-- All that a path leads through are directories, if its end is one. -/
theorem follow_visits {last location : Location} (leads : fs.follow here pieces = .ok last)
    (opens : fs.item? last = some .directory) (visits : Visits here pieces location) :
    fs.item? location = some .directory := by
  induction pieces generalizing here with
  | nil =>
    cases leads
    rw [visits]
    exact opens
  | cons piece rest ih =>
    rw [follow_cons] at leads
    cases moves : fs.step here piece with
    | error fault =>
      rw [moves] at leads
      cases leads
    | ok next =>
      rw [moves] at leads
      obtain ⟨isDirectory, rfl, _⟩ := step_ok moves
      rcases visits with rfl | later
      · exact isDirectory
      · exact ih leads later

end FileSystem

/-- If only the second one of two trees has the location to which pieces lead in the end, it is one
that they create. -/
def EndsOpen (small big : FileSystem .linkFree) (here : Location) (pieces : List String) : Prop :=
  small.item? (pieces.foldl Location.advance here) = none →
    big.item? (pieces.foldl Location.advance here) ≠ none →
    Opens here pieces (pieces.foldl Location.advance here)

section

variable {small big : FileSystem .linkFree} {here : Location} {piece : String} {rest : List String}

theorem EndsOpen.next (ends : EndsOpen small big here (piece :: rest)) {less more : FileSystem .linkFree}
    (opens : less.item? (here.advance piece) = some .directory)
    (kept : ∀ location, small.item? location ≠ none → less.item? location ≠ none)
    (elsewhere : ∀ location, location ≠ here.advance piece → more.item? location = big.item? location) :
    EndsOpen less more (here.advance piece) rest := by
  intro missing there
  have beyond : rest.foldl Location.advance (here.advance piece) ≠ here.advance piece := by
    intro same
    rw [same, opens] at missing
    cases missing
  rw [elsewhere _ beyond] at there
  have missed := Classical.byContradiction fun present => kept _ present missing
  rcases ends missed there with ⟨atNext, named, _⟩ | later
  · exact absurd (atNext.trans named.symm) beyond
  · exact later

/-- A name that only the second tree has is not left uncreated for what comes behind it. -/
theorem EndsOpen.goesOn (ends : EndsOpen small big here (piece :: rest))
    (free : small.item? (here.advance piece) = none) (there : big.item? (here.advance piece) ≠ none) :
    FileSystem.endsIdle rest = false := by
  cases idles : FileSystem.endsIdle rest with
  | false => rfl
  | true =>
    have idle := FileSystem.idle_of_endsIdle idles
    unfold EndsOpen at ends
    rw [List.foldl_cons, Location.foldl_advance_idle _ idle] at ends
    rcases ends free there with ⟨_, _, goesOn⟩ | later
    · exact idles.symm.trans goesOn
    · exact absurd later (not_opens_of_idle idle)

end

namespace Growth

open FileSystem

variable {small big after : FileSystem .linkFree} {made written : Location → Prop} {here : Location}
  {piece : String} {rest : List String}

/-- A directory that one tree has and the other one lacks. -/
theorem put_missing (growth : Growth small big made written)
    (opens : small.item? here = some .directory) (free : small.item? (here ++ [piece]) = none)
    (there : big.item? (here ++ [piece]) = some .directory) :
    Growth (small.put (here ++ [piece]) .empty) big made written := by
  have items := item?_put_empty opens free
  refine .mono (growth.settle (here ++ [piece]) rfl rfl ?_ ?_ fun _ _ => rfl)
    (fun _ isMade => isMade) fun _ isWritten => isWritten.1
  · rw [items, if_pos rfl, there]
  · intro other elsewhere
    rw [items, if_neg elsewhere]

theorem put_both (growth : Growth small big made written)
    (opens : small.item? here = some .directory) (free : small.item? (here ++ [piece]) = none)
    (bigFree : big.item? (here ++ [piece]) = none) :
    Growth (small.put (here ++ [piece]) .empty) (big.put (here ++ [piece]) .empty) made written := by
  have items := item?_put_empty opens free
  have bigItems := item?_put_empty (growth.directory opens) bigFree
  refine .mono (growth.settle (here ++ [piece]) rfl rfl ?_ ?_ ?_)
    (fun _ isMade => isMade) fun _ isWritten => isWritten.1
  · rw [items, bigItems, if_pos rfl, if_pos rfl]
  · intro other elsewhere
    rw [items, if_neg elsewhere]
  · intro other elsewhere
    rw [bigItems, if_neg elsewhere]

/-- From a directory that both trees have, the first one goes to a directory as the second one does, or
it lacks this directory. -/
theorem step_less (growth : Growth small big made written)
    (opens : small.item? here = some .directory) (moves : big.step here piece = .ok (here.advance piece))
    (there : big.item? (here.advance piece) = some .directory) :
    (small.step here piece = .ok (here.advance piece) ∧
        small.item? (here.advance piece) = some .directory) ∨
      here.advance piece = here ++ [piece] ∧ small.item? (here ++ [piece]) = none := by
  have atHere : Item.Like (big.item? here) (small.item? here) := by
    rw [opens, growth.directory opens]
    exact .directory
  by_cases named : here.advance piece = here ++ [piece]
  · rcases growth.item (here.advance piece) with same | ⟨free, _, _⟩ | ⟨_, ⟨content, isFile⟩, _⟩
    · have sameStep : small.step here piece = big.step here piece :=
        step_like atHere fun _ => .of_eq (named ▸ same.symm)
      exact .inl ⟨sameStep.trans moves, same.symm.trans there⟩
    · exact .inr ⟨named, named ▸ free⟩
    · simp [there] at isFile
  · have sameStep : small.step here piece = big.step here piece :=
      step_like atHere fun isNamed => absurd isNamed named
    exact .inl ⟨sameStep.trans moves, item?_advance opens named⟩

theorem next_missing (growth : Growth small big made written)
    (opens : small.item? here = some .directory) (ends : EndsOpen small big here (piece :: rest))
    (named : here.advance piece = here ++ [piece]) (free : small.item? (here ++ [piece]) = none)
    (there : big.item? (here ++ [piece]) = some .directory) :
    Growth (small.put (here ++ [piece]) .empty) big made written ∧
      (small.put (here ++ [piece]) .empty).item? (here ++ [piece]) = some .directory ∧
      EndsOpen (small.put (here ++ [piece]) .empty) big (here ++ [piece]) rest := by
  obtain ⟨nextOpens, first⟩ := growth_put_empty opens free
  have kept : ∀ location, small.item? location ≠ none →
      (small.put (here ++ [piece]) .empty).item? location ≠ none :=
    fun location present => first.present present
  have nextEnds := ends.next (by rw [named]; exact nextOpens) kept fun _ _ => rfl
  rw [named] at nextEnds
  exact ⟨growth.put_missing opens free there, nextOpens, nextEnds⟩

theorem next_both (growth : Growth small big made written)
    (opens : small.item? here = some .directory) (ends : EndsOpen small big here (piece :: rest))
    (named : here.advance piece = here ++ [piece]) (free : small.item? (here ++ [piece]) = none)
    (bigFree : big.item? (here ++ [piece]) = none) :
    Growth (small.put (here ++ [piece]) .empty) (big.put (here ++ [piece]) .empty) made written ∧
      (small.put (here ++ [piece]) .empty).item? (here ++ [piece]) = some .directory ∧
      EndsOpen (small.put (here ++ [piece]) .empty) (big.put (here ++ [piece]) .empty)
        (here ++ [piece]) rest := by
  obtain ⟨nextOpens, first⟩ := growth_put_empty opens free
  have kept : ∀ location, small.item? location ≠ none →
      (small.put (here ++ [piece]) .empty).item? location ≠ none :=
    fun location present => first.present present
  have elsewhere : ∀ location, location ≠ here.advance piece →
      (big.put (here ++ [piece]) .empty).item? location = big.item? location := by
    intro location beyond
    rw [named] at beyond
    rw [item?_put_empty (growth.directory opens) bigFree, if_neg beyond]
  have nextEnds := ends.next (by rw [named]; exact nextOpens) kept elsewhere
  rw [named] at nextEnds
  exact ⟨growth.put_both opens free bigFree, nextOpens, nextEnds⟩

/-- One piece on from here: where the second tree goes or creates a directory, the first one does too,
or creates one that the second tree has already. -/
theorem createFrom_next (growth : Growth small big made written)
    (opens : small.item? here = some .directory) (ends : EndsOpen small big here (piece :: rest))
    (created : big.createFrom here (piece :: rest) = (.ok (), after)) :
    ∃ less more, small.createFrom here (piece :: rest) = less.createFrom (here.advance piece) rest ∧
      more.createFrom (here.advance piece) rest = (.ok (), after) ∧
      Growth less more made written ∧ less.item? (here.advance piece) = some .directory ∧
      EndsOpen less more (here.advance piece) rest := by
  rcases createFrom_cases big here piece rest with ⟨next, moves, whole⟩ | ⟨lost, goesOn, whole⟩ |
    ⟨fault, whole⟩
  · obtain ⟨_, rfl, _⟩ := step_ok moves
    rw [whole] at created
    have there := createFrom_ok_start created
    rcases growth.step_less opens moves there with ⟨smallMoves, nextOpens⟩ | ⟨named, free⟩
    · exact ⟨small, big, createFrom_of_ok smallMoves rest, created, growth, nextOpens,
        ends.next nextOpens (fun _ present => present) fun _ _ => rfl⟩
    · have goesOn := ends.goesOn (named ▸ free) (by simp [there])
      have short := step_name_short moves (Location.ordinary_of_advance named)
      have creates := createFrom_of_notFound (enter_missing opens free named short) goesOn
      rw [named] at created there ⊢
      exact ⟨_, big, creates, created, growth.next_missing opens ends named free there⟩
  · have bigOpens := growth.directory opens
    rcases enter_notFound lost with missing | ⟨_, bigFree, named, _, short⟩
    · rw [bigOpens] at missing
      cases missing
    · have free : small.item? (here ++ [piece]) = none :=
        Classical.byContradiction fun there => growth.present there bigFree
      have creates := createFrom_of_notFound (enter_missing opens free named short) goesOn
      rw [whole] at created
      rw [named]
      exact ⟨_, _, creates, created, growth.next_both opens ends named free bigFree⟩
  · rw [whole] at created
    cases (Prod.mk.inj created).1

/-- What could be created in the second tree can be created in the first one, which lacks some of the
directories on the way. -/
theorem createFrom (growth : Growth small big made written) {pieces : List String}
    (opens : small.item? here = some .directory) (ends : EndsOpen small big here pieces)
    (created : big.createFrom here pieces = (.ok (), after)) :
    ∃ less, small.createFrom here pieces = (.ok (), less) ∧ Growth less after made written := by
  induction pieces generalizing small big here with
  | nil =>
    obtain ⟨children, held⟩ := item?_eq_directory.mp opens
    obtain ⟨bigChildren, bigHeld⟩ := item?_eq_directory.mp (growth.directory opens)
    rw [FileSystem.createFrom, bigHeld] at created
    obtain ⟨_, rfl⟩ := Prod.mk.inj created
    exact ⟨small, by rw [FileSystem.createFrom, held], growth⟩
  | cons piece rest ih =>
    obtain ⟨less, more, sooner, later, nextGrowth, nextOpens, nextEnds⟩ :=
      growth.createFrom_next opens ends created
    rw [sooner]
    exact ih nextGrowth nextOpens nextEnds later

theorem createDirectories (growth : Growth small big made written) {path : Path}
    (opens : path.spelling ≠ "" → small.item? (small.start path) = some .directory)
    (ends : EndsOpen small big (small.start path) path.pieces)
    (created : big.createDirectories path = (.ok (), after)) :
    ∃ less, small.createDirectories path = (.ok (), less) ∧ Growth less after made written := by
  unfold FileSystem.createDirectories at created ⊢
  split at created
  · simp at created
  · next clean =>
    rw [if_neg clean]
    split at created
    · next empty =>
      obtain ⟨_, rfl⟩ := Prod.mk.inj created
      rw [if_pos empty]
      exact ⟨small, rfl, growth⟩
    · next notEmpty =>
      rw [if_neg notEmpty]
      rw [growth.start] at created
      rw [String.isEmpty_iff] at notEmpty
      exact growth.createFrom (opens notEmpty) ends created

end Growth

namespace FileSystem

variable {fs after : FileSystem .linkFree} {path : Path}

theorem createDirectories_opens (fs : FileSystem .linkFree) (path : Path) :
    Growth fs (fs.createDirectories path).2
      (fun location => Opens (fs.start path) path.pieces location ∧ location ≠ fs.start path)
      fun _ => False := by
  unfold createDirectories
  split
  · exact .refl ..
  · split
    · exact .refl ..
    · refine (fs.createFrom_opens (fs.start path) path.pieces).narrow.mono ?_ fun _ nothing => nothing
      rintro location ⟨⟨opens, made⟩, free⟩
      refine ⟨made, ?_⟩
      rintro rfl
      rw [opens] at free
      cases free

theorem createDirectories_ok_start (created : fs.createDirectories path = (.ok (), after))
    (notEmpty : path.spelling ≠ "") : fs.item? (fs.start path) = some .directory := by
  rw [createDirectories, String.isEmpty_eq_false_iff.mpr notEmpty] at created
  cases clean : hasNul path with
  | true => simp [clean] at created
  | false =>
    rw [clean] at created
    exact createFrom_ok_start created

theorem createDirectories_visits (created : fs.createDirectories path = (.ok (), after))
    (notEmpty : path.spelling ≠ "") {location : Location}
    (visits : Visits (after.start path) path.pieces location) :
    after.item? location = some .directory := by
  obtain ⟨_, leads, opens⟩ := createDirectories_ok created notEmpty
  exact follow_visits leads opens visits

theorem createDirectories_opened (created : fs.createDirectories path = (.ok (), after))
    {location : Location} (opened : Opens (after.start path) path.pieces location) :
    after.item? location = some .directory := by
  by_cases empty : path.spelling = ""
  · have idle : ∀ piece ∈ path.pieces, Path.IsIdle piece := by
      simp [Path.pieces, empty, Text.pieces, Text.cut, Path.IsIdle]
    exact absurd opened (not_opens_of_idle idle)
  · exact createDirectories_visits created empty opened.visits

/-- What was created once is there when it is created again. -/
theorem createDirectories_again {later : FileSystem .linkFree} {made written : Location → Prop}
    (created : fs.createDirectories path = (.ok (), after))
    (growth : Growth after later made written) :
    later.createDirectories path = (.ok (), later) := by
  by_cases empty : path.spelling = ""
  · simp [createDirectories, hasNul, empty]
  · obtain ⟨clean, leads, opens⟩ := createDirectories_ok created empty
    refine createDirectories_of_isDirectory (isDirectory_iff.mpr ⟨_, ?_, growth.directory opens⟩)
    rw [resolve_eq_ok, growth.start]
    exact ⟨clean, String.isEmpty_eq_false_iff.mpr empty, growth.follow leads⟩

end FileSystem

end Stencil
