import Mathlib.Data.List.Nodup
import Stencil.Proofs.PathListings

namespace Stencil.Path

namespace Component

/-- Components are ordered by their rank first and by their text then. -/
theorem compare_eq_compareLex : compare = compareLex (compareOn rank) (compareOn text) :=
  rfl

theorem compareList_eq_compareLex : compareList = List.compareLex compare := by
  funext as bs
  induction as generalizing bs with
  | nil => cases bs <;> rfl
  | cons a others ih =>
    cases bs with
    | nil => rfl
    | cons b rest => rw [compareList, List.compareLex_cons_cons, ih]

instance : Std.TransCmp compare :=
  compare_eq_compareLex ▸ inferInstance

instance : Std.TransCmp compareList :=
  compareList_eq_compareLex ▸ inferInstance

theorem compareList_self (key : List Component) : compareList key key = .eq :=
  Std.ReflCmp.compare_self

theorem compareList_append (front as bs : List Component) :
    compareList (front ++ as) (front ++ bs) = compareList as bs := by
  induction front with
  | nil => rfl
  | cons component rest ih =>
    have same : component.compare component = .eq := Std.ReflCmp.compare_self
    rw [List.cons_append, List.cons_append, compareList, same, ih]
    rfl

end Component

/-- Entries that stand in strictly increasing order. -/
def Increasing (entries : List (List Component × Path)) : Prop :=
  entries.Pairwise fun a b => Component.compareList a.1 b.1 = .lt

namespace Increasing

variable {held : List (List Component × Path)}

theorem insert (increasing : Increasing held) (key : List Component) (path : Path) :
    Increasing (insertInto key path held) := by
  induction held with
  | nil => exact List.pairwise_singleton _ _
  | cons first rest ih =>
    obtain ⟨before, increasingRest⟩ := List.pairwise_cons.mp increasing
    unfold insertInto
    split
    · next less =>
      refine List.pairwise_cons.mpr ⟨fun entry member => ?_, increasing⟩
      rcases List.mem_cons.mp member with rfl | later
      · exact less
      · exact Std.TransCmp.lt_trans less (before entry later)
    · next equal =>
      rw [Component.eq_of_compareList equal]
      exact List.pairwise_cons.mpr ⟨before, increasingRest⟩
    · next greater =>
      refine List.pairwise_cons.mpr ⟨fun entry member => ?_, ih increasingRest⟩
      rcases of_mem_insertInto member with rfl | later
      · exact Std.OrientedCmp.gt_iff_lt.mp greater
      · exact before entry later

theorem insertAll (increasing : Increasing held) (paths : List Path) :
    Increasing (paths.foldl (fun held path => insertInto path.components path held) held) := by
  induction paths generalizing held with
  | nil => exact increasing
  | cons path rest ih => exact ih (increasing.insert path.components path)

end Increasing

theorem map_components_listing (paths : List Path) :
    (listing paths).map components =
      (paths.foldl (fun held path => insertInto path.components path held) []).map Prod.fst := by
  rw [listing, List.map_map]
  exact List.map_congr_left fun entry member => ((lists_listing paths).keyed entry member).symm

/-- The paths of a listing stand in the order of their components. -/
theorem pairwise_compare_listing (paths : List Path) :
    (listing paths).Pairwise fun a b => compare a b = .lt := by
  have increasing : Increasing (paths.foldl (fun held path => insertInto path.components path held) []) :=
    Increasing.insertAll .nil paths
  have keys : ((listing paths).map components).Pairwise fun a b => Component.compareList a b = .lt := by
    rw [map_components_listing]
    exact List.pairwise_map.mpr increasing
  exact List.pairwise_map.mp keys

/-- No two paths of a listing have the same components. -/
theorem nodup_components_listing (paths : List Path) : ((listing paths).map components).Nodup := by
  refine List.pairwise_map.mpr ((pairwise_compare_listing paths).imp fun {a b} less same => ?_)
  rw [compare, same, Component.compareList_self] at less
  cases less

theorem mem_components_listing {paths : List Path} {key : List Component} :
    key ∈ (listing paths).map components ↔ key ∈ paths.map components := by
  rw [List.mem_map, List.mem_map]
  constructor
  · rintro ⟨path, listed, same⟩
    exact ⟨path, mem_of_mem_listing listed, same⟩
  · rintro ⟨path, member, rfl⟩
    exact exists_mem_listing member

/-- Where no two paths have the same components, all are listed. -/
theorem perm_listing {paths : List Path} (distinct : (paths.map components).Nodup) :
    (listing paths).Perm paths := by
  refine (List.perm_ext_iff_of_nodup (nodup_components_listing paths).of_map distinct.of_map).mpr
    fun path => ⟨mem_of_mem_listing, fun member => ?_⟩
  obtain ⟨listed, inListing, same⟩ := exists_mem_listing member
  rwa [← List.inj_on_of_nodup_map distinct (mem_of_mem_listing inListing) member same]

end Stencil.Path
