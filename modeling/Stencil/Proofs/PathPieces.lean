import Stencil.Directive

namespace Stencil

namespace Text

theorem cut_append (separator : Char) (before after : List Char) :
    cut separator (before ++ separator :: after) = cut separator before ++ cut separator after := by
  induction before with
  | nil => simp [cut]
  | cons c rest ih =>
    by_cases same : c = separator
    · simp [cut, same, ih]
    · cases found : cut separator rest with
      | nil => exact absurd found (cut_ne_nil separator rest)
      | cons piece others =>
        rw [found] at ih
        simp [cut, same, ih, found]

theorem cut_of_not_mem {separator : Char} {cs : List Char} (absent : separator ∉ cs) :
    cut separator cs = [cs] := by
  induction cs with
  | nil => rfl
  | cons c rest ih =>
    simp only [List.mem_cons, not_or] at absent
    have differs : c ≠ separator := fun same => absent.1 same.symm
    simp [cut, differs, ih absent.2]

theorem pieces_ne_nil (separator : Char) (s : String) : pieces separator s ≠ [] := by
  simp [pieces, cut_ne_nil]

theorem pieces_of_not_mem {separator : Char} {s : String} (absent : separator ∉ s.toList) :
    pieces separator s = [s] := by
  simp [pieces, cut_of_not_mem absent]

theorem pieces_append (separator : Char) (before after : String) :
    pieces separator (before ++ String.singleton separator ++ after) =
      pieces separator before ++ pieces separator after := by
  have spelled : (before ++ String.singleton separator ++ after).toList =
      before.toList ++ separator :: after.toList := by simp
  simp only [pieces, spelled, cut_append, List.map_append]

theorem not_mem_of_mem_pieces {separator : Char} {s piece : String}
    (member : piece ∈ pieces separator s) : separator ∉ piece.toList := by
  simp only [pieces, List.mem_map] at member
  obtain ⟨cs, inCut, rfl⟩ := member
  rw [String.toList_ofList]
  exact not_mem_of_mem_cut inCut

theorem mem_iff_mem_cut {separator c : Char} (other : c ≠ separator) (cs : List Char) :
    c ∈ cs ↔ ∃ piece ∈ cut separator cs, c ∈ piece := by
  induction cs with
  | nil => simp [cut]
  | cons first rest ih =>
    by_cases same : first = separator
    · simp [cut, same, other, ih]
    · cases found : cut separator rest with
      | nil => exact absurd found (cut_ne_nil separator rest)
      | cons piece others =>
        rw [found] at ih
        simp [cut, same, found, ih, or_assoc]

/-- What has no separator belongs to the last piece of what it follows. -/
theorem cut_append_of_not_mem {separator : Char} {after : List Char} (absent : separator ∉ after)
    (before : List Char) :
    ∃ front last, cut separator (before ++ after) = front ++ [last ++ after] := by
  induction before with
  | nil => exact ⟨[], [], cut_of_not_mem absent⟩
  | cons first rest ih =>
    obtain ⟨front, last, split⟩ := ih
    rw [List.cons_append, cut, split]
    by_cases same : first = separator
    · exact ⟨[] :: front, last, by simp [same]⟩
    · cases front with
      | nil => exact ⟨[], first :: last, by simp [same]⟩
      | cons piece others => exact ⟨(first :: piece) :: others, last, by simp [same]⟩

theorem pieces_append_of_not_mem {separator : Char} {after : String}
    (absent : separator ∉ after.toList) (before : String) :
    ∃ front last, pieces separator (before ++ after) = front ++ [last ++ after] := by
  obtain ⟨front, last, split⟩ := cut_append_of_not_mem absent before.toList
  refine ⟨front.map String.ofList, String.ofList last, ?_⟩
  rw [pieces, String.toList_append, split, List.map_append, List.map_singleton, String.ofList_append,
    String.ofList_toList]

/-- A text is known from its pieces. -/
theorem pieces_injective {separator : Char} {s t : String}
    (same : pieces separator s = pieces separator t) : s = t := by
  have sameCut : cut separator s.toList = cut separator t.toList :=
    (List.map_inj_right fun _ _ => String.ofList_injective).mp same
  apply String.toList_injective
  rw [← intercalate_cut separator s.toList, sameCut, intercalate_cut]

end Text

namespace Path

/-- The pieces of a path to which those of a path that is joined to it are added. -/
def stem (path : Path) : List String :=
  if path.pieces.getLast? = some "" then path.pieces.dropLast else path.pieces

theorem pieces_eq_stem (path : Path) :
    path.pieces = path.stem ∨ path.pieces = path.stem ++ [""] := by
  unfold stem
  split
  · next idle =>
    obtain ⟨front, split⟩ := List.getLast?_eq_some_iff.mp idle
    rw [split, List.dropLast_concat]
    exact .inr rfl
  · exact .inl rfl

theorem mem_pieces_of_mem_stem {path : Path} {piece : String} (member : piece ∈ path.stem) :
    piece ∈ path.pieces := by
  rcases path.pieces_eq_stem with same | idle
  · rwa [same]
  · rw [idle]
    exact List.mem_append_left _ member

theorem isEmpty_eq_false_of_last {path : Path} {last : String}
    (ends : path.pieces.getLast? = some last) (named : last ≠ "") : path.spelling.isEmpty = false := by
  rw [String.isEmpty_eq_false_iff]
  intro empty
  rw [pieces, empty] at ends
  exact named (by simpa [Text.pieces, Text.cut] using ends.symm)

theorem pieces_join (base : Path) {path : Path} (relative : path.isAbsolute = false) :
    (base.join path).pieces = base.stem ++ path.pieces := by
  have apart : ∀ before : String, Text.pieces '/' (before ++ "/" ++ path.spelling) =
      Text.pieces '/' before ++ Text.pieces '/' path.spelling :=
    fun before => Text.pieces_append '/' before path.spelling
  unfold join stem
  rw [relative]
  simp only [Bool.false_eq_true, if_false]
  cases last : base.spelling.toList.getLast? with
  | none =>
    have empty : base.spelling = "" :=
      String.toList_eq_nil_iff.mp (List.getLast?_eq_none_iff.mp last)
    simp [pieces, empty, Text.pieces, Text.cut]
  | some c =>
    obtain ⟨front, split⟩ := List.getLast?_eq_some_iff.mp last
    have notEmpty : base.spelling.isEmpty = false := by
      rw [String.isEmpty_eq_false_iff]
      intro empty
      simp [empty] at split
    -- A trailing slash leaves an empty last piece, in whose place the pieces of the other path come.
    by_cases slash : c = '/'
    · have spelled : base.spelling = String.ofList front ++ "/" := by
        apply String.toList_injective
        simp [split, slash]
      have idle := Text.pieces_append '/' (String.ofList front) ""
      rw [String.append_empty] at idle
      have ends : base.pieces = Text.pieces '/' (String.ofList front) ++ [""] := by
        rw [pieces, spelled]
        exact idle
      simp only [notEmpty, slash, beq_self_eq_true, Bool.or_true, if_true, ends,
        List.getLast?_concat, List.dropLast_concat]
      rw [pieces, spelled, apart]
      rfl
    · have alone : '/' ∉ [c] := fun member => slash (List.mem_singleton.mp member).symm
      obtain ⟨before, rest, cuts⟩ := Text.cut_append_of_not_mem alone front
      have ends : base.pieces.getLast? ≠ some "" := by
        rw [pieces, Text.pieces, split, cuts, List.map_append, List.map_singleton,
          List.getLast?_concat]
        intro empty
        simpa using congrArg String.toList (Option.some.inj empty)
      have notIdle : ¬ (some c == some '/') = true := by simpa using slash
      simp only [notEmpty, notIdle, Bool.false_or, if_neg ends]
      exact apart base.spelling

theorem isAbsolute_join {base path : Path} (relative : path.isAbsolute = false) :
    (base.join path).isAbsolute = base.isAbsolute := by
  unfold join
  rw [relative]
  simp only [Bool.false_eq_true, if_false]
  cases spelled : base.spelling.toList with
  | nil =>
    have empty : base.spelling = "" := String.toList_eq_nil_iff.mp spelled
    simp [isAbsolute, empty] at relative ⊢
    exact relative
  | cons c rest => split <;> simp [isAbsolute, spelled]

/-- A path is absolute if something follows an empty first piece. -/
theorem isAbsolute_iff_pieces (path : Path) :
    path.isAbsolute = true ↔ ∃ rest, rest ≠ [] ∧ path.pieces = "" :: rest := by
  unfold isAbsolute pieces Text.pieces
  cases spelled : path.spelling.toList with
  | nil => simp [Text.cut]
  | cons c rest =>
    by_cases slash : c = '/'
    · simp [Text.cut, slash, Text.cut_ne_nil]
    · cases found : Text.cut '/' rest with
      | nil => exact absurd found (Text.cut_ne_nil '/' rest)
      | cons piece others => simp [Text.cut, slash, found, ← String.toList_eq_nil_iff]

theorem components_join (base : Path) {path : Path} (relative : path.isAbsolute = false)
    (plain : base.spelling = "" → path.pieces.head? ≠ some ".") :
    (base.join path).components = base.components ++ path.pieces.filterMap Component.ofPiece? := by
  have joined := pieces_join base relative
  have steps : base.pieces.filterMap Component.ofPiece? = base.stem.filterMap Component.ofPiece? := by
    rcases base.pieces_eq_stem with same | idle
    · rw [← same]
    · rw [idle, List.filterMap_append]
      simp [Component.ofPiece?]
  have head : (base.join path).pieces.head? = some "." ↔ base.pieces.head? = some "." := by
    have spelled := base.pieces_eq_stem
    have noStem : base.stem = [] → base.spelling = "" := by
      intro none
      rw [none] at spelled
      rcases spelled with nothing | blank
      · exact absurd nothing (Text.pieces_ne_nil '/' base.spelling)
      · exact Text.pieces_injective blank
    rw [joined]
    generalize base.stem = front at spelled noStem ⊢
    cases front with
    | nil =>
      have notDot := plain (noStem rfl)
      rcases spelled with same | idle <;> simp_all
    | cons first rest => rcases spelled with same | idle <;> simp_all
  unfold components
  rw [isAbsolute_join relative, steps, joined, List.filterMap_append, ← joined]
  by_cases absolute : base.isAbsolute
  · simp [absolute]
  · by_cases dot : base.pieces.head? = some "."
    · simp [absolute, dot, head.mpr dot]
    · have notDot : (base.join path).pieces.head? ≠ some "." := fun same => dot (head.mp same)
      simp [absolute, dot, notDot]

theorem Component.ofPiece?_eq_name {piece : String} (notEmpty : piece ≠ "") (notDot : piece ≠ ".")
    (notDots : piece ≠ "..") : Component.ofPiece? piece = some (.name piece) := by
  unfold Component.ofPiece?
  split <;> simp_all

theorem pieces_of_single {name : String} (single : '/' ∉ name.toList) : pieces ⟨name⟩ = [name] :=
  Text.pieces_of_not_mem single

theorem isRelative_of_single {name : String} (single : '/' ∉ name.toList) :
    isAbsolute ⟨name⟩ = false := by
  cases spelled : name.toList with
  | nil => simp [isAbsolute, spelled]
  | cons c rest =>
    have notSlash : c ≠ '/' := by
      rintro rfl
      simp [spelled] at single
    simp [isAbsolute, spelled, notSlash]

/-- A path whose last sign is neither a slash nor a dot. What is joined to it starts after exactly
one slash, and dropping that again gives the path back. -/
def SolidEnd (path : Path) : Prop :=
  ∃ c, path.spelling.toList.getLast? = some c ∧ c ≠ '/' ∧ c ≠ '.'

namespace SolidEnd

variable {base path : Path} {name : String}

theorem join_eq (solid : base.SolidEnd) (relative : path.isAbsolute = false) :
    base.join path = ⟨base.spelling ++ "/" ++ path.spelling⟩ := by
  obtain ⟨c, last, notSlash, _⟩ := solid
  have notEmpty : base.spelling ≠ "" := by
    intro empty
    simp [empty] at last
  unfold join
  simp [relative, last, notSlash, notEmpty]

theorem pieces_append (solid : base.SolidEnd) (relative : path.isAbsolute = false) :
    (base.join path).pieces = base.pieces ++ path.pieces := by
  rw [solid.join_eq relative]
  exact Text.pieces_append '/' base.spelling path.spelling

theorem of_join (base : Path) (solid : path.SolidEnd) (relative : path.isAbsolute = false) :
    (base.join path).SolidEnd := by
  obtain ⟨c, last, ordinary⟩ := solid
  obtain ⟨between, spelled, _⟩ := spelling_join_of_isRelative base relative
  refine ⟨c, ?_, ordinary⟩
  rw [spelled, String.toList_append, List.getLast?_append, last]
  rfl

theorem join_assoc (solid : path.SolidEnd) (relative : path.isAbsolute = false) {last : Path}
    (lastRelative : last.isAbsolute = false) :
    (base.join path).join last = base.join (path.join last) := by
  have joined : (path.join last).isAbsolute = false := (isAbsolute_join lastRelative).trans relative
  rw [(of_join base solid relative).join_eq lastRelative, solid.join_eq lastRelative]
  rw [solid.join_eq lastRelative] at joined
  unfold join
  rw [relative, joined]
  simp only [Bool.false_eq_true, if_false]
  split <;> simp only [String.append_assoc]

theorem ordinary (solid : SolidEnd ⟨name⟩) : name ≠ "" ∧ name ≠ "." ∧ name ≠ ".." := by
  obtain ⟨c, last, _, notDot⟩ := solid
  refine ⟨?_, ?_, ?_⟩
  · rintro rfl
    simp at last
  · rintro rfl
    exact notDot (by simpa using last.symm)
  · rintro rfl
    exact notDot (by simpa using last.symm)

theorem dropIdle_reverse (solid : path.SolidEnd) :
    dropIdle path.spelling.toList.reverse = path.spelling.toList.reverse := by
  obtain ⟨c, last, notSlash, notDot⟩ := solid
  obtain ⟨stem, split⟩ := List.getLast?_eq_some_iff.mp last
  rw [split, List.reverse_append, List.reverse_singleton, List.singleton_append]
  unfold dropIdle
  split <;> simp_all

theorem parent?_join (solid : base.SolidEnd) (closed : SolidEnd ⟨name⟩)
    (single : '/' ∉ name.toList) : (base.join ⟨name⟩).parent? = some base := by
  have relative := isRelative_of_single single
  have alone := pieces_of_single single
  obtain ⟨notEmpty, notDot, notDots⟩ := closed.ordinary
  have last : (base.join ⟨name⟩).components.getLast? = some (.name name) := by
    rw [components_join base relative (by simp [alone, notDot]), alone]
    simp [Component.ofPiece?_eq_name notEmpty notDot notDots]
  have reversed : (base.join ⟨name⟩).spelling.toList.reverse =
      name.toList.reverse ++ '/' :: base.spelling.toList.reverse := by
    simp [solid.join_eq relative]
  have kept := (of_join base closed relative).dropIdle_reverse
  have named : ∀ c ∈ name.toList.reverse, (c != '/') = true := by
    intro c member
    rw [bne_iff_ne]
    rintro rfl
    exact single (List.mem_reverse.mp member)
  have slash : dropIdle ('/' :: base.spelling.toList.reverse) = base.spelling.toList.reverse := by
    rw [dropIdle, solid.dropIdle_reverse]
    obtain ⟨c, ends, _⟩ := solid
    have notNil : base.spelling.toList ≠ [] := by
      intro empty
      simp [empty] at ends
    simp [notNil]
  unfold parent?
  rw [last]
  simp only
  rw [kept, reversed, List.dropWhile_append_of_pos named, List.dropWhile_cons_of_neg (by simp), slash]
  simp

theorem joinAll (solid : base.SolidEnd) {steps : List String}
    (each : ∀ step ∈ steps, SolidEnd ⟨step⟩ ∧ '/' ∉ step.toList) :
    (base.joinAll steps).SolidEnd ∧ (base.joinAll steps).isAbsolute = base.isAbsolute ∧
      (base.joinAll steps).pieces = base.pieces ++ steps := by
  induction steps generalizing base with
  | nil => exact ⟨solid, rfl, (List.append_nil _).symm⟩
  | cons step rest ih =>
    obtain ⟨closed, single⟩ := each step List.mem_cons_self
    have relative := isRelative_of_single single
    obtain ⟨ends, absolute, pieces⟩ := ih (of_join base closed relative) fun other member =>
      each other (List.mem_cons_of_mem _ member)
    refine ⟨ends, absolute.trans (isAbsolute_join relative), pieces.trans ?_⟩
    rw [solid.pieces_append relative, pieces_of_single single, List.append_assoc,
      List.singleton_append]

end SolidEnd

/-- The path that is spelled with the given pieces. -/
def ofPieces (pieces : List String) : Path :=
  ⟨"/".intercalate pieces⟩

theorem pieces_ofPieces {steps : List String} (notNil : steps ≠ [])
    (single : ∀ step ∈ steps, '/' ∉ step.toList) : (ofPieces steps).pieces = steps := by
  induction steps with
  | nil => exact absurd rfl notNil
  | cons step rest ih =>
    have alone := pieces_of_single (single step List.mem_cons_self)
    cases rest with
    | nil => simpa [ofPieces] using alone
    | cons next others =>
      have later := ih (by simp) fun other member => single other (List.mem_cons_of_mem _ member)
      have apart := Text.pieces_append '/' step ("/".intercalate (next :: others))
      have spelled : ofPieces (step :: next :: others) =
          ⟨step ++ "/" ++ "/".intercalate (next :: others)⟩ := by
        rw [ofPieces, String.intercalate_cons_cons]
      have cutHead : Text.pieces '/' step = [step] := alone
      have cutTail : Text.pieces '/' ("/".intercalate (next :: others)) = next :: others := later
      rw [cutHead, cutTail] at apart
      rw [spelled]
      exact apart

/-- The pieces up to a name spell a path above, or the path itself. -/
theorem ofPieces_prefix {path : Path} {front : List String} {last : String}
    (within : front <+: path.pieces) (ends : front.getLast? = some last) (named : last ≠ "") :
    (ofPieces front).pieces = front ∧ (ofPieces front).isAbsolute = path.isAbsolute ∧
      (ofPieces front).components <+: path.components := by
  obtain ⟨back, split⟩ := within
  have notNil : front ≠ [] := by
    rintro rfl
    simp at ends
  have spelled : (ofPieces front).pieces = front := pieces_ofPieces notNil fun step member =>
    Text.not_mem_of_mem_pieces (split ▸ List.mem_append_left back member : step ∈ path.pieces)
  have absolute : (ofPieces front).isAbsolute = path.isAbsolute := by
    rw [Bool.eq_iff_iff, isAbsolute_iff_pieces, isAbsolute_iff_pieces, spelled, ← split]
    match front with
    | [] => exact absurd rfl notNil
    | [only] =>
      have same : only = last := by simpa using ends
      simp [same, named]
    | first :: second :: others => simp
  have head : (ofPieces front).pieces.head? = path.pieces.head? := by
    rw [spelled, ← split]
    cases front with
    | nil => exact absurd rfl notNil
    | cons first others => rfl
  have steps : (ofPieces front).pieces.filterMap Component.ofPiece? <+:
      path.pieces.filterMap Component.ofPiece? := by
    rw [spelled, ← split, List.filterMap_append]
    exact List.prefix_append _ _
  refine ⟨spelled, absolute, ?_⟩
  unfold components
  rw [absolute, head]
  split
  · exact List.cons_prefix_cons.mpr ⟨rfl, steps⟩
  · split
    · exact List.cons_prefix_cons.mpr ⟨rfl, steps⟩
    · exact steps

end Path

end Stencil
