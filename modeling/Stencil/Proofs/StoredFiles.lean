import Stencil.Expansion.Pass
import Stencil.Proofs.DirectoryCreation
import Stencil.Proofs.OutputPaths

namespace Stencil

namespace FileSystem

section

variable {links : Linkage} {fs after : FileSystem links} {path : Path} {front : List String}
  {name : String} {above location : Location} {content : Content}

theorem write_eq (fs : FileSystem links) (path : Path) (content : Content) :
    fs.write path content = (fs.target path).map fun location => fs.put location (.file content) := by
  unfold write
  cases fs.target path <;> rfl

/-- The directory of a file is looked for first, and then the file's name in it. -/
theorem target_eq_bind (fs : FileSystem links) (path : Path) :
    fs.target path =
      if hasNul path then .error .invalidName
      else if path.spelling.isEmpty then .error .notFound
      else (fs.follow (fs.start path) path.pieces.dropLast).bind fun here =>
        match fs.enter here (path.pieces.getLast?.getD "") with
        | .ok location =>
          match fs.get? location with
          | some (.directory _) => .error .isADirectory
          | some (.link _ target) =>
            match maxLinkDepth with
            | 0 => .error .tooManyLinks
            | depth + 1 => fs.targetWithin depth (startIn here target) target.pieces
          | _ => .ok location
        | .error .notFound => .ok (here ++ [path.pieces.getLast?.getD ""])
        | .error fault => .error fault := by
  unfold target
  rw [targetWithin.eq_def]
  rfl

/-- A file has a name in a directory that is there, or one in which nothing can be put. -/
def TakesAt (fs : FileSystem links) (location : Location) : Prop :=
  ∃ above name, location = above ++ [name] ∧
    (fs.item? above = none ∨ fs.item? above = some .directory ∧ Item.TakesFile (fs.item? location))

/-- A file that is aimed at can be put there, or is where a link in its place leads. -/
theorem targetWithin_cases {depth : Nat} {here : Location} {pieces : List String}
    (aimed : fs.targetWithin depth here pieces = .ok location) :
    fs.TakesAt location ∨
      ∃ less start pieces, depth = less + 1 ∧ fs.targetWithin less start pieces = .ok location := by
  rw [targetWithin.eq_def] at aimed
  cases walked : pieces.dropLast.foldlM (fs.stepWithin depth) here with
  | error fault => rw [walked] at aimed; cases aimed
  | ok above =>
    simp only [walked, Bind.bind, Except.bind] at aimed
    split at aimed
    · next next entered =>
      split at aimed
      · cases aimed
      · next allowed target linked =>
        cases depth with
        | zero => cases aimed
        | succ less => exact .inr ⟨less, _, _, rfl, aimed⟩
      · next notDirectory notLink =>
        cases aimed
        have free : Item.TakesFile (fs.item? location) := by
          refine ⟨fun isDirectory => ?_, fun allowed target linked => ?_⟩
          · obtain ⟨children, held⟩ := item?_eq_directory.mp isDirectory
            exact notDirectory children held
          · exact notLink allowed target (item?_eq_link.mp linked)
        obtain ⟨opens, reached, _⟩ := enter_ok entered
        by_cases named : above.advance (pieces.getLast?.getD "") = above ++ [pieces.getLast?.getD ""]
        · exact .inl ⟨above, _, reached.trans named, .inr ⟨opens, free⟩⟩
        · exact absurd (reached ▸ item?_advance opens named) free.notDirectory
    · next lost =>
      cases aimed
      rcases enter_notFound lost with missing | ⟨opens, free, _⟩
      · exact .inl ⟨above, _, rfl, .inl missing⟩
      · exact .inl ⟨above, _, rfl, .inr ⟨opens, free ▸ .of_none⟩⟩
    · cases aimed

theorem targetWithin_ok {depth : Nat} {here : Location} {pieces : List String}
    (aimed : fs.targetWithin depth here pieces = .ok location) : fs.TakesAt location := by
  induction depth generalizing here pieces with
  | zero =>
    rcases targetWithin_cases aimed with takes | ⟨_, _, _, positive, _⟩
    · exact takes
    · cases positive
  | succ depth ih =>
    rcases targetWithin_cases aimed with takes | ⟨_, _, _, same, onwards⟩
    · exact takes
    · cases same
      exact ih onwards

theorem TakesAt.growth (takes : fs.TakesAt location) (content : Content) :
    Growth fs (fs.put location (.file content)) (fun _ => False) (· = location) := by
  obtain ⟨above, name, rfl, missing | ⟨opens, free⟩⟩ := takes
  · exact .of_same rfl (item?_put_of_missing name _ missing)
  · have stored : Stored fs (fs.put (above ++ [name]) (.file content)) (above ++ [name]) content :=
      ⟨rfl, free, item?_put (.file content) opens free.notDirectory (Node.bare_file content)⟩
    exact stored.growth

/-- A file that is written, wherever links lead it, changes what stands at one location. -/
theorem write_growth (written : fs.write path content = .ok after) :
    Growth fs after (fun _ => False) fun location => fs.target path = .ok location := by
  unfold write at written
  cases aimed : fs.target path with
  | error fault => rw [aimed] at written; cases written
  | ok location =>
    rw [aimed] at written
    cases written
    unfold target at aimed
    split at aimed
    · cases aimed
    · split at aimed
      · cases aimed
      · refine ((targetWithin_ok aimed).growth content).mono (fun _ nothing => nothing) ?_
        rintro _ rfl
        rfl

/-- In a directory, a file can be written at an ordinary name that no directory and no link has. -/
theorem target_of_free (clean : hasNul path = false) (notEmpty : path.spelling.isEmpty = false)
    (spelled : path.pieces = front ++ [name]) (ordinary : name ≠ "" ∧ name ≠ "." ∧ name ≠ "..")
    (leads : fs.follow (fs.start path) front = .ok above) (opens : fs.item? above = some .directory)
    (free : Item.TakesFile (fs.item? (above ++ [name])))
    (short : name.utf8ByteSize ≤ maxNameBytes) : fs.target path = .ok (above ++ [name]) := by
  have named := Location.advance_name above ordinary.1 ordinary.2.1 ordinary.2.2
  rw [target_eq_bind, clean, notEmpty, spelled, List.dropLast_concat, List.getLast?_concat, leads]
  simp only [Bool.false_eq_true, if_false, Except.bind, Option.getD_some]
  match held : fs.item? (above ++ [name]) with
  | none => rw [enter_missing opens held named short]
  | some .directory => exact absurd held free.notDirectory
  | some (.link allowed target) => exact absurd held (free.notLink allowed target)
  | some (.file content) =>
    rw [enter_name opens (by simp [held]) named short]
    simp only [item?_eq_file.mp held]

/-- Below a directory, a path that ends in an ordinary name aims at this name, unless a directory or a
link has it. -/
theorem target_ok (aimed : fs.target path = .ok location) (spelled : path.pieces = front ++ [name])
    (ordinary : name ≠ "" ∧ name ≠ "." ∧ name ≠ "..")
    (leads : fs.follow (fs.start path) front = .ok above) (opens : fs.item? above = some .directory)
    (unlinked : fs.Unlinked (above ++ [name])) :
    hasNul path = false ∧ path.spelling.isEmpty = false ∧ location = above ++ [name] ∧
      Item.TakesFile (fs.item? location) ∧ name.utf8ByteSize ≤ maxNameBytes := by
  rw [target_eq_bind] at aimed
  cases clean : hasNul path with
  | true => simp [clean] at aimed
  | false =>
    cases empty : path.spelling.isEmpty with
    | true => simp [clean, empty] at aimed
    | false =>
      simp only [clean, empty, Bool.false_eq_true, if_false, spelled, List.dropLast_concat,
        List.getLast?_concat, Option.getD_some, leads, Except.bind] at aimed
      have same := Location.advance_name above ordinary.1 ordinary.2.1 ordinary.2.2
      split at aimed
      · next here entered =>
        obtain ⟨_, reached, _⟩ := enter_ok entered
        obtain rfl : here = above ++ [name] := reached.trans same
        have short : name.utf8ByteSize ≤ maxNameBytes := enter_name_short entered ordinary
        split at aimed
        · cases aimed
        · next allowed target linked =>
          exact absurd (item?_eq_link.mpr linked) (unlinked allowed target)
        · next notDirectory _ =>
          cases aimed
          refine ⟨rfl, rfl, rfl, ⟨fun isDirectory => ?_, unlinked⟩, short⟩
          obtain ⟨children, held⟩ := item?_eq_directory.mp isDirectory
          exact notDirectory children held
      · next lost =>
        cases aimed
        rcases enter_notFound lost with missing | ⟨_, free, _, _, short⟩
        · simp [missing] at opens
        · exact ⟨rfl, rfl, rfl, free ▸ .of_none, short⟩
      · cases aimed

theorem write_ok (written : fs.write path content = .ok after)
    (spelled : path.pieces = front ++ [name]) (ordinary : name ≠ "" ∧ name ≠ "." ∧ name ≠ "..")
    (leads : fs.follow (fs.start path) front = .ok above) (opens : fs.item? above = some .directory)
    (unlinked : fs.Unlinked (above ++ [name])) :
    Stored fs after (above ++ [name]) content ∧ after.resolve path = .ok (above ++ [name]) := by
  unfold write at written
  cases aimed : fs.target path with
  | error fault => rw [aimed] at written; cases written
  | ok location =>
    rw [aimed] at written
    cases written
    obtain ⟨clean, notEmpty, rfl, free, short⟩ := target_ok aimed spelled ordinary leads opens unlinked
    have items := item?_put (.file content) opens free.notDirectory (Node.bare_file content)
    have stored : Stored fs (fs.put (above ++ [name]) (.file content)) (above ++ [name]) content :=
      ⟨rfl, free, items⟩
    have growth := stored.growth
    have held : (fs.put (above ++ [name]) (.file content)).item? (above ++ [name]) =
        some (.file content) := by
      rw [items, if_pos rfl]
      rfl
    have enters := step_of_unlinked (enter_name (growth.directory opens) (by simp [held])
      (Location.advance_name above ordinary.1 ordinary.2.1 ordinary.2.2) short) (growth.unlinked unlinked)
    refine ⟨stored, ?_⟩
    rw [resolve_eq_ok, growth.start, spelled, follow_append, growth.follow leads]
    refine ⟨clean, notEmpty, ?_⟩
    change (step _ above name).bind _ = _
    rw [enters]
    rfl

end

theorem target_eq (fs : FileSystem .linkFree) (path : Path) :
    fs.target path =
      if hasNul path then .error .invalidName
      else if path.spelling.isEmpty then .error .notFound
      else (fs.follow (fs.start path) path.pieces.dropLast).bind fun here =>
        match fs.step here (path.pieces.getLast?.getD "") with
        | .ok location =>
          match fs.item? location with
          | some .directory => .error .isADirectory
          | _ => .ok location
        | .error .notFound => .ok (here ++ [path.pieces.getLast?.getD ""])
        | .error fault => .error fault := by
  rw [target_eq_bind]
  split
  · rfl
  · split
    · rfl
    · cases fs.follow (fs.start path) path.pieces.dropLast with
      | error fault => rfl
      | ok here =>
        simp only [Except.bind, step_eq_enter]
        cases fs.enter here (path.pieces.getLast?.getD "") with
        | error fault => cases fault <;> rfl
        | ok location =>
          simp only [item?]
          cases fs.get? location with
          | none => rfl
          | some node =>
            cases node with
            | file | directory => rfl
            | link allowed => cases allowed

end FileSystem

namespace Declaration

variable {declaration : Declaration}

theorem place_directory (contained : declaration.isContained = true) (files : FileSystem .linkFree)
    (root : Path) :
    files.place (root.join declaration.directory) = files.place root ++ declaration.segments := by
  obtain ⟨_, relative, spelled⟩ := directory_pieces contained
  rw [FileSystem.place, Path.pieces_join root relative, spelled, List.foldl_append,
    files.start_join root relative, ← files.place_eq_stem, Location.foldl_advance_names]
  exact fun segment member => (segment_ordinary contained member).1.ordinary

theorem start_outputFile {links : Linkage} (contained : declaration.isContained = true)
    (files : FileSystem links) (root : Path) :
    files.start (declaration.outputFile root) = files.start root := by
  unfold FileSystem.start FileSystem.startIn
  rw [outputFile_isAbsolute contained]

/-- A contained directive writes below the place of the root, whatever the root is. -/
theorem place_outputFile (contained : declaration.isContained = true) (files : FileSystem .linkFree)
    (root : Path) :
    files.place (declaration.outputFile root) =
      files.place root ++ declaration.segments ++ [declaration.fileName] := by
  obtain ⟨notEmpty, notDot, notDots⟩ := (fileName_ordinary contained).1.ordinary
  obtain ⟨_, relative, _⟩ := directory_pieces contained
  rw [FileSystem.place, outputFile_pieces contained, List.foldl_append, List.foldl_cons,
    List.foldl_nil, Location.advance_name _ notEmpty notDot notDots, ← place_directory contained,
    start_outputFile contained, FileSystem.place, files.start_join root relative]

/-- No two directives write to the same place but those that are declared under the same names. -/
theorem sameOutput_of_place {other : Declaration} (contained : declaration.isContained = true)
    (otherContained : other.isContained = true) {files : FileSystem .linkFree} {root : Path}
    (same : files.place (declaration.outputFile root) = files.place (other.outputFile root)) :
    declaration.SameOutput other := by
  rw [place_outputFile contained, place_outputFile otherContained, List.append_assoc,
    List.append_assoc] at same
  exact sameOutput_of_names (List.append_cancel_left same)

end Declaration

namespace Expansion

section

variable {links : Linkage} {declaration : Declaration} {files made after : FileSystem links} {root : Path}
  {base : Location} {text : String}

/-- The directories of an output are created first, and then the file is written into the last of
them. -/
theorem store_eq (contained : declaration.isContained = true) (files : FileSystem links) (root : Path)
    (text : String) :
    store files (declaration.outputFile root) text =
      match files.createDirectories (root.join declaration.directory) with
      | (.error fault, made) =>
        (.error (.createDirectory (root.join declaration.directory) fault.message), made)
      | (.ok (), made) =>
        match made.write (declaration.outputFile root) (.text text) with
        | .ok after => (.ok (), after)
        | .error fault => (.error (.write (declaration.outputFile root) fault.message), made) := by
  unfold store
  rw [Declaration.outputFile_parent? contained]
  simp only [createDirectories]
  rcases files.createDirectories (root.join declaration.directory) with ⟨result, made⟩
  cases result with
  | error fault => rfl
  | ok done =>
    cases written : made.write (declaration.outputFile root) (.text text) with
    | error fault => simp only [written]
    | ok after => simp only [written]

theorem store_cases (contained : declaration.isContained = true) (files : FileSystem links) (root : Path)
    (text : String) :
    (∃ (fault : AccessError) (made : FileSystem links),
      files.createDirectories (root.join declaration.directory) = (.error fault, made) ∧
      store files (declaration.outputFile root) text =
        (.error (.createDirectory (root.join declaration.directory) fault.message), made)) ∨
    (∃ (fault : AccessError) (made : FileSystem links),
      files.createDirectories (root.join declaration.directory) = (.ok (), made) ∧
      made.write (declaration.outputFile root) (.text text) = .error fault ∧
      store files (declaration.outputFile root) text =
        (.error (.write (declaration.outputFile root) fault.message), made)) ∨
    ∃ made after, files.createDirectories (root.join declaration.directory) = (.ok (), made) ∧
      made.write (declaration.outputFile root) (.text text) = .ok after ∧
      store files (declaration.outputFile root) text = (.ok (), after) := by
  rw [store_eq contained]
  match created : files.createDirectories (root.join declaration.directory) with
  | (.error fault, made) => exact .inl ⟨fault, made, rfl, rfl⟩
  | (.ok (), made) =>
    match written : made.write (declaration.outputFile root) (.text text) with
    | .error fault => exact .inr (.inl ⟨fault, made, rfl, written, by simp only [written]⟩)
    | .ok after => exact .inr (.inr ⟨made, after, rfl, written, by simp only [written]⟩)

theorem directory_pieces_join (contained : declaration.isContained = true) (root : Path) :
    (root.join declaration.directory).pieces = root.stem ++ declaration.segments := by
  obtain ⟨_, relative, spelled⟩ := Declaration.directory_pieces contained
  rw [Path.pieces_join root relative, spelled]

theorem directory_start (contained : declaration.isContained = true) (files : FileSystem links)
    (root : Path) : files.start (root.join declaration.directory) = files.start root :=
  files.start_join root (Declaration.directory_pieces contained).2.1

theorem names_ordinary (contained : declaration.isContained = true) {name : String}
    (member : name ∈ declaration.segments ++ [declaration.fileName]) :
    name ≠ "" ∧ name ≠ "." ∧ name ≠ ".." := by
  rcases List.mem_append.mp member with segment | last
  · exact (Declaration.segment_ordinary contained segment).1.ordinary
  · rw [List.mem_singleton.mp last]
    exact (Declaration.fileName_ordinary contained).1.ordinary

/-- The directories of an output are created from where the root is. -/
theorem createDirectories_of_root (contained : declaration.isContained = true)
    (clean : FileSystem.hasNul (root.join declaration.directory) = false)
    (leads : files.follow (files.start root) root.stem = .ok base) :
    files.createDirectories (root.join declaration.directory) =
      files.createFrom base declaration.segments := by
  have named := Declaration.directory_join_ne_empty contained root
  rw [← directory_start contained] at leads
  exact FileSystem.createDirectories_of_leads clean (String.isEmpty_eq_false_iff.mpr named)
    (directory_pieces_join contained root) leads

/-- What stands on the way from a location to the output of a directive. -/
def OnWay (base : Location) (declaration : Declaration) (location : Location) : Prop :=
  ∃ above, above ≠ [] ∧ above <+: declaration.segments ∧ location = base ++ above

theorem OnWay.below {base location : Location} (onWay : OnWay base declaration location) :
    base <+: location := by
  obtain ⟨above, _, _, rfl⟩ := onWay
  exact List.prefix_append _ _

/-- In directories that are there, a text is stored under the name of its file. -/
theorem stored_of_leads (contained : declaration.isContained = true)
    (leads : made.follow (made.start (declaration.outputFile root))
      (root.join declaration.directory).pieces = .ok base)
    (opens : made.item? base = some .directory) (unlinked : made.Unlinked (base ++ [declaration.fileName]))
    (written : made.write (declaration.outputFile root) (.text text) = .ok after) :
    Stored made after (base ++ [declaration.fileName]) (.text text) ∧
      after.resolve (declaration.outputFile root) = .ok (base ++ [declaration.fileName]) :=
  FileSystem.write_ok written (Declaration.outputFile_pieces contained root)
    (Declaration.fileName_ordinary contained).1.ordinary leads opens unlinked

/-- The text can be written there if nothing has the name but perhaps a file, and the name itself can
be used. -/
theorem write_of_leads (contained : declaration.isContained = true)
    (leads : made.follow (made.start (declaration.outputFile root))
      (root.join declaration.directory).pieces = .ok base)
    (opens : made.item? base = some .directory)
    (free : Item.TakesFile (made.item? (base ++ [declaration.fileName])))
    (clean : FileSystem.hasNul (declaration.outputFile root) = false)
    (short : declaration.fileName.utf8ByteSize ≤ FileSystem.maxNameBytes) (text : String) :
    ∃ after, made.write (declaration.outputFile root) (.text text) = .ok after := by
  have spelled := Declaration.outputFile_pieces contained root
  have ordinary := (Declaration.fileName_ordinary contained).1.ordinary
  have notEmpty : (declaration.outputFile root).spelling.isEmpty = false :=
    Path.isEmpty_eq_false_of_last (by rw [spelled, List.getLast?_concat]) ordinary.1
  rw [FileSystem.write_eq,
    FileSystem.target_of_free clean notEmpty spelled ordinary leads opens free short]
  exact ⟨_, rfl⟩

theorem store_of_write (contained : declaration.isContained = true)
    (created : files.createDirectories (root.join declaration.directory) = (.ok (), made))
    (written : made.write (declaration.outputFile root) (.text text) = .ok after) :
    store files (declaration.outputFile root) text = (.ok (), after) := by
  rw [store_eq contained, created]
  simp only [written]

/-- A text that is not stored leaves at most directories behind. -/
theorem store_error (contained : declaration.isContained = true) {cause : Error} {left : FileSystem links}
    (ended : store files (declaration.outputFile root) text = (.error cause, left)) :
    (∃ path why, cause = .createDirectory path why ∨ cause = .write path why) ∧
      Growth files left (left.OnPath (root.join declaration.directory)) fun _ => False := by
  have creates := FileSystem.createDirectories_growth files (root.join declaration.directory)
  rcases store_cases contained files root text with ⟨fault, made, created, whole⟩ |
    ⟨fault, made, created, _, whole⟩ | ⟨_, _, _, _, whole⟩
  · rw [whole, Prod.mk.injEq, Except.error.injEq] at ended
    obtain ⟨rfl, rfl⟩ := ended
    rw [created] at creates
    exact ⟨⟨_, _, .inl rfl⟩, creates⟩
  · rw [whole, Prod.mk.injEq, Except.error.injEq] at ended
    obtain ⟨rfl, rfl⟩ := ended
    rw [created] at creates
    exact ⟨⟨_, _, .inr rfl⟩, creates⟩
  · simp [whole] at ended

/-- Whether a text is stored or not, and wherever links lead it, nothing that was there is gone. -/
theorem store_grows (contained : declaration.isContained = true) (files : FileSystem links) (root : Path)
    (text : String) :
    Growth files (store files (declaration.outputFile root) text).2 (fun _ => True) fun _ => True := by
  have creates := FileSystem.createDirectories_growth files (root.join declaration.directory)
  rcases store_cases contained files root text with ⟨_, _, _, whole⟩ | ⟨_, _, _, _, whole⟩ |
    ⟨made, after, created, written, whole⟩
  · rw [whole]
    exact (store_error contained whole).2.mono (fun _ _ => trivial) fun _ _ => trivial
  · rw [whole]
    exact (store_error contained whole).2.mono (fun _ _ => trivial) fun _ _ => trivial
  · rw [created] at creates
    rw [whole]
    exact (creates.mono (fun _ _ => trivial) fun _ _ => trivial).trans
      ((FileSystem.write_growth written).mono (fun _ _ => trivial) fun _ _ => trivial)

/-- Where there are no links, the directories of an output are created one in the other. -/
theorem createDirectories_onWay (contained : declaration.isContained = true)
    (leads : files.follow (files.start root) root.stem = .ok base)
    (unlinked : files.UnlinkedBelow base) :
    Growth files (files.createDirectories (root.join declaration.directory)).2
      (OnWay base declaration) fun _ => False := by
  rw [← directory_start contained] at leads
  exact FileSystem.createDirectories_growth_below leads (directory_pieces_join contained root)
    (fun name member => names_ordinary contained (List.mem_append_left _ member))
    fun above _ => unlinked above

theorem directory_created_below (contained : declaration.isContained = true)
    (leads : files.follow (files.start root) root.stem = .ok base)
    (unlinked : files.UnlinkedBelow base)
    (created : files.createDirectories (root.join declaration.directory) = (.ok (), made)) :
    made.follow (made.start (declaration.outputFile root)) (root.join declaration.directory).pieces =
        .ok (base ++ declaration.segments) ∧
      made.item? (base ++ declaration.segments) = some .directory := by
  have growth := createDirectories_onWay contained leads unlinked
  rw [created] at growth
  obtain ⟨_, location, reached, opens⟩ := FileSystem.createDirectories_leads created
    (Declaration.directory_join_ne_empty contained root)
  rw [directory_start contained] at reached
  rw [directory_pieces_join contained] at reached ⊢
  rw [Declaration.start_outputFile contained]
  have place : location = base ++ declaration.segments := by
    rw [FileSystem.follow_append, growth.start, growth.follow leads] at reached
    exact FileSystem.follow_names reached
      (fun name member => names_ordinary contained (List.mem_append_left _ member))
      fun above _ => growth.unlinked (unlinked above)
  exact ⟨place ▸ reached, place ▸ opens⟩

/-- A text that is to be stored changes only the file that it is for, and creates only directories on
the way to it from the root, if no links lead away. -/
theorem store_onWay_of_unlinked (contained : declaration.isContained = true) (text : String)
    (leads : files.follow (files.start root) root.stem = .ok base)
    (unlinked : files.UnlinkedBelow base) :
    Growth files (store files (declaration.outputFile root) text).2 (OnWay base declaration)
      (· = base ++ declaration.segments ++ [declaration.fileName]) := by
  have creates := (createDirectories_onWay contained leads unlinked).mono (fun _ onWay => onWay)
    (fun location (nothing : False) =>
      (nothing.elim : location = base ++ declaration.segments ++ [declaration.fileName]))
  rcases store_cases contained files root text with ⟨_, made, created, whole⟩ |
    ⟨_, made, created, _, whole⟩ | ⟨made, after, created, written, whole⟩
  all_goals
    rw [created] at creates
    rw [whole]
  · exact creates
  · exact creates
  · obtain ⟨reached, opens⟩ := directory_created_below contained leads unlinked created
    have free : made.Unlinked (base ++ declaration.segments ++ [declaration.fileName]) := by
      rw [List.append_assoc]
      exact creates.unlinked (unlinked _)
    have stored := (stored_of_leads contained reached opens free written).1
    exact creates.trans (stored.growth.mono (fun _ nothing => nothing.elim) fun _ here => here)

end

section

variable {declaration : Declaration} {files made after : FileSystem .linkFree} {root : Path}
  {text : String}

/-- Where the directories of an output are, once they were created. -/
theorem directory_created (contained : declaration.isContained = true)
    (created : files.createDirectories (root.join declaration.directory) = (.ok (), made)) :
    made.follow (made.start (declaration.outputFile root)) (root.join declaration.directory).pieces =
        .ok (made.place root ++ declaration.segments) ∧
      made.item? (made.place root ++ declaration.segments) = some .directory := by
  obtain ⟨_, relative, _⟩ := Declaration.directory_pieces contained
  obtain ⟨_, leads, opens⟩ := FileSystem.createDirectories_ok created
    (Declaration.directory_join_ne_empty contained root)
  rw [made.start_join root relative, ← Declaration.start_outputFile contained] at leads
  rw [Declaration.place_directory contained] at leads opens
  exact ⟨leads, opens⟩

/-- In the directories that were created for it, a text is stored at the place of its path. -/
theorem stored_of_write (contained : declaration.isContained = true)
    (created : files.createDirectories (root.join declaration.directory) = (.ok (), made))
    (written : made.write (declaration.outputFile root) (.text text) = .ok after) :
    Stored made after (made.place (declaration.outputFile root)) (.text text) ∧
      after.resolve (declaration.outputFile root) = .ok (made.place (declaration.outputFile root)) := by
  obtain ⟨leads, opens⟩ := directory_created contained created
  rw [Declaration.place_outputFile contained]
  exact stored_of_leads contained leads opens (.of_linkFree made _) written

theorem write_of_free (contained : declaration.isContained = true)
    (created : files.createDirectories (root.join declaration.directory) = (.ok (), made))
    (clean : FileSystem.hasNul (declaration.outputFile root) = false)
    (short : declaration.fileName.utf8ByteSize ≤ FileSystem.maxNameBytes)
    (free : made.item? (made.place root ++ declaration.segments ++ [declaration.fileName]) ≠
      some .directory) (text : String) :
    ∃ after, made.write (declaration.outputFile root) (.text text) = .ok after := by
  obtain ⟨leads, opens⟩ := directory_created contained created
  exact write_of_leads contained leads opens (.of_linkFree free) clean short text

/-- Whether it comes to its place or not, a text changes only the file that it is for, and creates
only directories on the path of its directory. -/
theorem store_growth (contained : declaration.isContained = true) (files : FileSystem .linkFree) (root : Path)
    (text : String) :
    Growth files (store files (declaration.outputFile root) text).2
      ((store files (declaration.outputFile root) text).2.OnPath (root.join declaration.directory))
      fun location => (store files (declaration.outputFile root) text).2.resolve
        (declaration.outputFile root) = .ok location := by
  rcases store_cases contained files root text with ⟨_, _, _, whole⟩ | ⟨_, _, _, _, whole⟩ |
    ⟨made, after, created, written, whole⟩
  · rw [whole]
    exact (store_error contained whole).2.mono (fun _ onPath => onPath) fun _ nothing => nothing.elim
  · rw [whole]
    exact (store_error contained whole).2.mono (fun _ onPath => onPath) fun _ nothing => nothing.elim
  · have creates := FileSystem.createDirectories_growth files (root.join declaration.directory)
    rw [created] at creates
    rw [whole]
    obtain ⟨stored, found⟩ := stored_of_write contained created written
    refine .trans (creates.mono (fun _ onPath => stored.growth.onPath onPath) fun _ nothing => nothing.elim)
      (stored.growth.mono (fun _ nothing => nothing.elim) ?_)
    rintro location rfl
    exact found

/-- A text that is to be stored changes only the file that it is for, and creates only directories on
the way to it from the root. -/
theorem store_onWay (contained : declaration.isContained = true) (text : String)
    (leads : files.follow (files.start root) root.stem = .ok (files.place root)) :
    Growth files (store files (declaration.outputFile root) text).2
      (OnWay (files.place root) declaration) (· = files.place (declaration.outputFile root)) := by
  rw [Declaration.place_outputFile contained]
  exact store_onWay_of_unlinked contained text leads (.of_linkFree files _)

/-- Once the root is there, nothing changes outside of it, and a text that is stored is found at its
path. -/
theorem store_ok (contained : declaration.isContained = true)
    (leads : files.follow (files.start root) root.stem = .ok (files.place root))
    (ended : store files (declaration.outputFile root) text = (.ok (), after)) :
    Growth files after (files.place root <+: ·) (· = files.place (declaration.outputFile root)) ∧
      after.resolve (declaration.outputFile root) =
        .ok (files.place (declaration.outputFile root)) ∧
      after.item? (files.place (declaration.outputFile root)) = some (.file (.text text)) := by
  have growth := store_onWay contained text leads
  rw [ended] at growth
  rcases store_cases contained files root text with ⟨_, _, _, whole⟩ | ⟨_, _, _, _, whole⟩ |
    ⟨made, last, created, written, whole⟩
  · simp [whole] at ended
  · simp [whole] at ended
  · rw [whole, Prod.mk.injEq] at ended
    obtain ⟨_, rfl⟩ := ended
    have creates := createDirectories_onWay contained leads (.of_linkFree files _)
    rw [created] at creates
    obtain ⟨stored, found⟩ := stored_of_write contained created written
    rw [creates.place] at stored found
    refine ⟨growth.mono (fun _ onWay => onWay.below) fun _ here => here, found, ?_⟩
    rw [stored.item, if_pos rfl]

end

end Expansion

end Stencil
