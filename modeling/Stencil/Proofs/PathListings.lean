import Stencil.Path

namespace Stencil.Path

theorem Component.eq_of_compare {a b : Component} (same : a.compare b = .eq) : a = b := by
  unfold Component.compare at same
  obtain ⟨sameRank, sameText⟩ := Ordering.then_eq_eq.mp same
  have rank := Std.LawfulEqOrd.eq_of_compare sameRank
  have text := Std.LawfulEqOrd.eq_of_compare sameText
  cases a <;> cases b <;> simp_all [Component.rank, Component.text]

theorem Component.eq_of_compareList {as bs : List Component} (same : compareList as bs = .eq) :
    as = bs := by
  induction as generalizing bs with
  | nil =>
    cases bs with
    | nil => rfl
    | cons b rest => cases same
  | cons a others ih =>
    cases bs with
    | nil => cases same
    | cons b rest =>
      obtain ⟨first, later⟩ := Ordering.then_eq_eq.mp same
      rw [eq_of_compare first, ih later]

variable {key : List Component} {path : Path} {held : List (List Component × Path)}
  {entry : List Component × Path}

theorem mem_insertInto_self (key : List Component) (path : Path)
    (held : List (List Component × Path)) : (key, path) ∈ insertInto key path held := by
  induction held with
  | nil => simp [insertInto]
  | cons first rest ih =>
    unfold insertInto
    split <;> simp [ih]

theorem of_mem_insertInto (member : entry ∈ insertInto key path held) :
    entry = (key, path) ∨ entry ∈ held := by
  induction held with
  | nil => simpa [insertInto] using member
  | cons first rest ih =>
    unfold insertInto at member
    split at member
    · exact List.mem_cons.mp member
    · exact (List.mem_cons.mp member).imp id (List.mem_cons_of_mem _)
    · rcases List.mem_cons.mp member with same | later
      · exact .inr (by simp [same])
      · exact (ih later).imp id (List.mem_cons_of_mem _)

/-- A path takes the place of none but one with the same components. -/
theorem mem_insertInto_of_mem (member : entry ∈ held) :
    entry ∈ insertInto key path held ∨ entry.1 = key := by
  induction held with
  | nil => cases member
  | cons first rest ih =>
    unfold insertInto
    split
    · exact .inl (List.mem_cons_of_mem _ member)
    · next equal =>
      rcases List.mem_cons.mp member with same | later
      · exact .inr (by rw [same, Component.eq_of_compareList equal])
      · exact .inl (List.mem_cons_of_mem _ later)
    · rcases List.mem_cons.mp member with same | later
      · exact .inl (by simp [same])
      · exact (ih later).imp (List.mem_cons_of_mem _) id

/-- Entries that list some paths: nothing but these, each under its components, and for every one of
them a path with the same components. -/
structure Lists (entries : List (List Component × Path)) (paths : List Path) : Prop where
  keyed : ∀ entry ∈ entries, entry.1 = entry.2.components
  only : ∀ entry ∈ entries, entry.2 ∈ paths
  every : ∀ path ∈ paths, ∃ entry ∈ entries, entry.1 = path.components

theorem Lists.insert {paths : List Path} (lists : Lists held paths) (path : Path) :
    Lists (insertInto path.components path held) (paths ++ [path]) where
  keyed entry member := by
    rcases of_mem_insertInto member with rfl | before
    · rfl
    · exact lists.keyed entry before
  only entry member := by
    rcases of_mem_insertInto member with rfl | before
    · simp
    · exact List.mem_append_left _ (lists.only entry before)
  every other member := by
    have inserted := mem_insertInto_self path.components path held
    rcases List.mem_append.mp member with before | last
    · obtain ⟨entry, listed, same⟩ := lists.every other before
      rcases mem_insertInto_of_mem listed with still | replaced
      · exact ⟨entry, still, same⟩
      · exact ⟨_, inserted, replaced.symm.trans same⟩
    · rw [List.mem_singleton.mp last]
      exact ⟨_, inserted, rfl⟩

theorem Lists.insertAll {before : List Path} (lists : Lists held before) (paths : List Path) :
    Lists (paths.foldl (fun held path => insertInto path.components path held) held)
      (before ++ paths) := by
  induction paths generalizing held before with
  | nil => simpa using lists
  | cons path rest ih =>
    rw [List.append_cons]
    exact ih (lists.insert path)

theorem lists_listing (paths : List Path) :
    Lists (paths.foldl (fun held path => insertInto path.components path held) []) paths := by
  have empty : Lists [] [] := ⟨by simp, by simp, by simp⟩
  exact empty.insertAll paths

theorem mem_of_mem_listing {paths : List Path} (member : path ∈ listing paths) : path ∈ paths := by
  obtain ⟨entry, within, rfl⟩ := List.mem_map.mp member
  exact (lists_listing paths).only entry within

/-- Every path is listed, if perhaps in another spelling. -/
theorem exists_mem_listing {paths : List Path} (member : path ∈ paths) :
    ∃ listed ∈ listing paths, listed.components = path.components := by
  obtain ⟨entry, within, same⟩ := (lists_listing paths).every path member
  exact ⟨entry.2, List.mem_map_of_mem within, ((lists_listing paths).keyed entry within).symm.trans same⟩

end Stencil.Path
