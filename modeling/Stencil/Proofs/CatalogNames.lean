import Stencil.Catalog.Plan
import Stencil.Proofs.NamedTasks

namespace Stencil

namespace Catalog

theorem isClassName_kind (kind : Kind) : IsClassName kind.name := by
  cases kind <;> decide

/-- Whether the members of a family have class names, whatever stands between its two texts. -/
def Family.isNamed (family : Family) : Bool :=
  family.before.toList.head?.all Char.isUpper && family.before.toList.all Char.isAlphanum &&
    family.after.toList.all Char.isAlphanum

theorem Family.isClassName {family : Family} (named : family.isNamed = true) {middle : String}
    (isName : IsClassName middle) : IsClassName (family.before ++ middle ++ family.after) := by
  simp only [isNamed, Bool.and_eq_true] at named
  obtain ⟨⟨capital, before⟩, after⟩ := named
  refine IsClassName.append ⟨?_, ?_⟩ after
  · obtain ⟨c, first, upper⟩ := isName.capital
    rw [String.toList_append, List.head?_append]
    cases found : family.before.toList.head? with
    | none => exact ⟨c, first, upper⟩
    | some d =>
      rw [found] at capital
      exact ⟨d, rfl, capital⟩
  · rw [String.toList_append, List.all_append, before, isName.letters]
    rfl

theorem named_membersWith {families : List Family} (named : families.all Family.isNamed = true)
    (model : Kind → Model) (kind : Kind) :
    ∀ directive ∈ membersWith model families kind, directive.IsNamed := by
  intro directive member
  obtain ⟨family, within, rfl⟩ := List.mem_map.mp member
  have isNamed := List.all_eq_true.mp named family within
  exact ⟨Family.isClassName isNamed (isClassName_kind kind),
    Family.isClassName isNamed (by decide)⟩

theorem named_members {families : List Family} (named : families.all Family.isNamed = true)
    (kind : Kind) : ∀ directive ∈ members families kind, directive.IsNamed :=
  named_membersWith named Model.single kind

theorem named_comparators : ∀ directive ∈ comparators.directives, directive.IsNamed :=
  List.forall_mem_flatMap.mpr fun kind _ => named_members (by simp [Family.isNamed]) kind

theorem named_collectionBase : ∀ directive ∈ collectionBase.directives, directive.IsNamed :=
  List.forall_mem_flatMap.mpr fun kind _ => named_membersWith (by simp [Family.isNamed]) _ kind

theorem named_factories : ∀ directive ∈ factories.directives, directive.IsNamed :=
  List.forall_mem_flatMap.mpr fun kind _ => named_members (by simp [Family.isNamed]) kind

theorem named_controls : ∀ directive ∈ controls.directives, directive.IsNamed :=
  List.forall_mem_flatMap.mpr fun kind _ => named_members (by simp [Family.isNamed]) kind

theorem named_values : ∀ directive ∈ values.directives, directive.IsNamed := by
  refine List.forall_mem_flatMap.mpr fun kind _ => List.forall_mem_append.mpr ⟨?_, ?_⟩
  · exact named_members (by simp [Family.isNamed]) kind
  · split
    · exact named_members (by simp [Family.isNamed]) kind
    · simp

theorem named_functions : ∀ directive ∈ functions.directives, directive.IsNamed := by
  refine List.forall_mem_flatMap.mpr fun kind _ => List.forall_mem_append.mpr ⟨?_, ?_⟩
  · exact named_members (by simp [Family.isNamed]) kind
  · split
    · simp
    · refine List.forall_mem_append.mpr ⟨?_, named_members (by simp [Family.isNamed]) kind⟩
      split
      · simp
      · exact named_members (by simp [Family.isNamed]) kind

theorem isClassName_tuple (first second : Kind) : IsClassName (tupleClassName first second) := by
  have isName := isClassName_kind first
  unfold tupleClassName
  split
  · exact isName.append (by decide)
  · exact (isName.append (isClassName_kind second).letters).append (by decide)

theorem named_tuples : ∀ directive ∈ tuples.directives, directive.IsNamed := by
  intro directive member
  obtain ⟨⟨first, second⟩, _, rfl⟩ := List.mem_map.mp member
  exact ⟨isClassName_tuple first second, (by decide : IsClassName "PrimitiveTuple2")⟩

theorem named_internals : ∀ directive ∈ internals.directives, directive.IsNamed :=
  List.forall_mem_flatMap.mpr fun kind _ => named_members (by simp [Family.isNamed]) kind

theorem named_range (kind : Kind) (serialVersionUid hashMagic : String) :
    (range kind serialVersionUid hashMagic).IsNamed := by
  have output : IsClassName (kind.name ++ "Range") := (isClassName_kind kind).append (by decide)
  unfold range
  dsimp only
  split
  · exact ⟨output, (by decide : IsClassName "IntegralRange")⟩
  · exact ⟨output, (by decide : IsClassName "FloatingRange")⟩

/-- The constants that are drawn make no difference to the names. -/
theorem named_rangesFrom (constants : Constants) (kinds : List Kind) :
    ∀ directive ∈ rangesFrom constants kinds, directive.IsNamed := by
  induction kinds generalizing constants with
  | nil => simp [rangesFrom]
  | cons kind rest ih => exact List.forall_mem_cons.mpr ⟨named_range kind _ _, ih _⟩

theorem named_ranges : ∀ directive ∈ ranges.directives, directive.IsNamed :=
  named_rangesFrom _ _

theorem named_collections : ∀ directive ∈ collections.directives, directive.IsNamed :=
  List.forall_mem_flatMap.mpr fun kind _ => named_members (by simp [Family.isNamed]) kind

theorem named_sequenceIterators : ∀ directive ∈ sequenceIterators.directives, directive.IsNamed :=
  List.forall_mem_flatMap.mpr fun kind _ => named_members (by simp [Family.isNamed]) kind

theorem named_trees : ∀ directive ∈ trees.directives, directive.IsNamed :=
  List.forall_mem_flatMap.mpr fun kind _ => named_members (by simp [Family.isNamed]) kind

theorem named_views : ∀ directive ∈ views.directives, directive.IsNamed :=
  List.forall_mem_flatMap.mpr fun kind _ => named_members (by simp [Family.isNamed]) kind

theorem named_immutableCollections : ∀ directive ∈ immutableCollections.directives, directive.IsNamed := by
  refine List.forall_mem_flatMap.mpr fun kind _ => List.forall_mem_append.mpr ⟨?_, ?_⟩
  · exact named_members (by simp [Family.isNamed]) kind
  · split
    · exact named_members (by simp [Family.isNamed]) kind
    · simp

theorem named_mutableCollections : ∀ directive ∈ mutableCollections.directives, directive.IsNamed := by
  refine List.forall_mem_flatMap.mpr fun kind _ => ?_
  simp only [List.forall_mem_append]
  refine ⟨⟨⟨?_, ?_⟩, ?_⟩, ?_⟩
  · exact named_members (by simp [Family.isNamed]) kind
  · split
    · simp
    · exact named_members (by simp [Family.isNamed]) kind
  · exact named_members (by simp [Family.isNamed]) kind
  · split
    · exact named_members (by simp [Family.isNamed]) kind
    · simp

/-- The bytes of a text as the digits of a number, which are compared all at once. -/
def number (s : String) : Nat :=
  (Text.bytes s).foldl (fun value byte => 256 * value + byte.toNat) 0

theorem nodup_of_number {names : List String} (distinct : (names.map number).Nodup) : names.Nodup :=
  .of_map number distinct

/-- The whole catalogue. What its namespaces are called is checked for all of them at once. -/
theorem isNamed_all : (base ++ collectionPrimitive).IsNamed where
  segments := by decide +kernel
  directives := by
    refine List.forall_mem_append.mpr ⟨?_, ?_⟩
    · simp only [base, List.forall_mem_cons]
      exact ⟨named_comparators, named_collectionBase, named_factories, named_controls, named_values,
        named_functions, named_tuples, named_internals, named_ranges, List.forall_mem_nil _⟩
    · simp only [collectionPrimitive, List.forall_mem_cons]
      exact ⟨named_collections, named_sequenceIterators, named_trees, named_views,
        named_immutableCollections, named_mutableCollections, List.forall_mem_nil _⟩
  outputs := by
    have distinct : ∀ ns ∈ (base ++ collectionPrimitive).namespaces,
        ((ns.directives.map (·.outputName)).map number).Nodup := by
      decide +kernel
    exact fun ns inTask => nodup_of_number (distinct ns inTask)
  namespaces := by decide +kernel

end Catalog

theorem Plan.isNamed (plan : Plan) : plan.task.IsNamed := by
  cases plan with
  | base => exact Catalog.isNamed_all.left
  | collectionPrimitive => exact Catalog.isNamed_all.right
  | all => exact Catalog.isNamed_all

end Stencil
