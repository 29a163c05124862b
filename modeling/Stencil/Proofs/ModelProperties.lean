import Stencil.Model
import Stencil.Proofs.EntryLookups

namespace Stencil

namespace Descriptor

variable {descriptor : Descriptor}

/-- All keys that a descriptor can have. -/
def fieldNames : List String :=
  ["Type", "PrimitiveType", "WrapperType", "Var", "IsSpecialized", "IsIntegral", "IsFloating",
    "Values", "LiftToInt"] ++ ["BitsType"] ++ ["ToBits"] ++ ["ToRawBits"] ++
  ["PrimitiveEquals", "PrimitiveNotEquals"]

theorem fields_sublist (descriptor : Descriptor) :
    (descriptor.fields.map Prod.fst).Sublist fieldNames := by
  have optional (name : String) (value : Option Property) :
      ((value.toList.map fun property => (name, property)).map Prod.fst).Sublist [name] := by
    cases value <;> simp
  unfold fields fieldNames
  simp only [List.map_append]
  exact ((((List.Sublist.refl _).append (optional _ _)).append (optional _ _)).append (optional _ _)).append
    (List.Sublist.refl _)

theorem nodup_fields (descriptor : Descriptor) : (descriptor.fields.map Prod.fst).Nodup := by
  have distinct : fieldNames.Nodup := by decide
  exact descriptor.fields_sublist.nodup distinct

/-- A suffix keeps different keys different, so that no property is lost under it. -/
theorem perm_properties (descriptor : Descriptor) (suffix : String) :
    (descriptor.properties suffix).Perm
      (descriptor.fields.map fun (key, value) => (key ++ suffix, value)) := by
  refine Entries.perm_ofInsertions ?_
  have injective : Function.Injective fun key => key ++ suffix :=
    fun _ _ same => (String.append_left_inj suffix).mp same
  have distinct := descriptor.nodup_fields.map injective
  rwa [List.map_map] at distinct ⊢

theorem perm_properties_plain (descriptor : Descriptor) :
    (descriptor.properties "").Perm descriptor.fields := by
  have plain := descriptor.perm_properties ""
  simpa using plain

theorem nodup_properties (descriptor : Descriptor) (suffix : String) :
    ((descriptor.properties suffix).map Prod.fst).Nodup :=
  (Entries.sorted_ofInsertions _).nodup

theorem find?_properties (descriptor : Descriptor) (key suffix : String) :
    (descriptor.properties suffix).find? (key ++ suffix) = (descriptor.properties "").find? key := by
  ext value
  rw [Entries.find?_eq_some_iff (descriptor.nodup_properties suffix),
    Entries.find?_eq_some_iff (descriptor.nodup_properties ""),
    (descriptor.perm_properties suffix).mem_iff, descriptor.perm_properties_plain.mem_iff, List.mem_map]
  constructor
  · rintro ⟨⟨other, held⟩, member, same⟩
    obtain ⟨sameKey, rfl⟩ := Prod.mk.inj same
    rwa [(String.append_left_inj suffix).mp sameKey] at member
  · exact fun member => ⟨(key, value), member, rfl⟩

theorem find?_properties_of_ne {key suffix : String} (other : ∀ stem, key ≠ stem ++ suffix) :
    (descriptor.properties suffix).find? key = none := by
  rw [Entries.find?_eq_none, ((descriptor.perm_properties suffix).map Prod.fst).mem_iff, List.map_map]
  intro member
  obtain ⟨field, _, same⟩ := List.mem_map.mp member
  exact other field.1 same.symm

end Descriptor

namespace Shape

variable {first second : Descriptor} {key : String}

theorem numbers_differ (stem other : String) : stem ++ "1" ≠ other ++ "2" := by
  intro same
  have last := congrArg (fun text => text.toList.getLast?) same
  simp at last

/-- The second descriptor is asked for a key before the first one, which then has no such key. -/
theorem find?_pair (first second : Descriptor) (key : String) :
    (pair first second).properties.find? key =
      ((second.properties "2").find? key).or ((first.properties "1").find? key) := by
  rw [properties, Entries.find?_insertAll, Entries.last?_eq_find? (second.nodup_properties "2")]

theorem find?_first (first second : Descriptor) (stem : String) :
    (pair first second).properties.find? (stem ++ "1") = (first.properties "").find? stem := by
  rw [find?_pair, Descriptor.find?_properties_of_ne (numbers_differ stem), Option.none_or,
    Descriptor.find?_properties]

theorem find?_second (first second : Descriptor) (stem : String) :
    (pair first second).properties.find? (stem ++ "2") = (second.properties "").find? stem := by
  have notFirst : ∀ other, stem ++ "2" ≠ other ++ "1" := fun other same => numbers_differ other stem same.symm
  rw [find?_pair, Descriptor.find?_properties_of_ne notFirst, Option.or_none,
    Descriptor.find?_properties]

theorem find?_unnumbered (notFirst : ∀ stem, key ≠ stem ++ "1") (notSecond : ∀ stem, key ≠ stem ++ "2") :
    (pair first second).properties.find? key = none := by
  rw [find?_pair, Descriptor.find?_properties_of_ne notFirst, Descriptor.find?_properties_of_ne notSecond,
    Option.none_or]

end Shape

namespace Model

variable {model : Model} {insertions : List (String × Property)} {key : String}

/-- A model after insertions from left to right. -/
def insertAll (model : Model) (insertions : List (String × Property)) : Model :=
  insertions.foldl (fun model pair => model.insert pair.1 pair.2) model

theorem insertAll_eq (model : Model) (insertions : List (String × Property)) :
    model.insertAll insertions = ⟨model.shape, model.extras.insertAll insertions⟩ := by
  induction insertions generalizing model with
  | nil => rfl
  | cons pair rest ih => exact ih (model.insert pair.1 pair.2)

theorem insertAll_shape (shape : Shape) (insertions : List (String × Property)) :
    (Model.mk shape []).insertAll insertions = ⟨shape, .ofInsertions insertions⟩ :=
  insertAll_eq ..

/-- In whatever order keys are inserted, what counts is the last value of each. -/
theorem insertAll_eq_iff {shape other : Shape} {insertions others : List (String × Property)} :
    (Model.mk shape []).insertAll insertions = (Model.mk other []).insertAll others ↔
      shape = other ∧ ∀ key, Entries.last? key insertions = Entries.last? key others := by
  rw [insertAll_shape, insertAll_shape, Model.mk.injEq]
  refine and_congr_right fun _ => ⟨fun same key => ?_, fun same => ?_⟩
  · rw [← Entries.find?_ofInsertions, ← Entries.find?_ofInsertions, same]
  · refine (Entries.sorted_ofInsertions _).ext (Entries.sorted_ofInsertions _) fun key => ?_
    rw [Entries.find?_ofInsertions, Entries.find?_ofInsertions, same key]

/-- An inserted key has its last value, any other key what the shape has for it. -/
theorem find?_properties (shape : Shape) (insertions : List (String × Property)) (key : String) :
    ((Model.mk shape []).insertAll insertions).properties.find? key =
      (Entries.last? key insertions).or (shape.properties.find? key) := by
  have distinct := (Entries.sorted_ofInsertions insertions).nodup
  rw [insertAll_shape, properties, Entries.find?_insertAll, Entries.last?_eq_find? distinct,
    Entries.find?_ofInsertions]

/-- What a template finds under a key is what the key was given last. A key that was not given belongs
to the descriptor, and of two descriptors to the one whose number it ends in. A suffix changes nothing
of a descriptor but its keys, and loses none; and of the order in which keys are given a model
remembers nothing but the last value of each. -/
theorem properties_lookup_law (shape : Shape) (insertions : List (String × Property)) (key : String) :
    let properties := ((Model.mk shape []).insertAll insertions).properties
    (∀ value, Entries.last? key insertions = some value → properties.find? key = some value) ∧
    (key ∉ insertions.map Prod.fst →
      match shape with
      | .single descriptor => properties.find? key = (descriptor.properties "").find? key
      | .pair first second =>
        (∀ stem, key = stem ++ "1" → properties.find? key = (first.properties "").find? stem) ∧
        (∀ stem, key = stem ++ "2" → properties.find? key = (second.properties "").find? stem) ∧
        ((∀ stem, key ≠ stem ++ "1" ∧ key ≠ stem ++ "2") → properties.find? key = none)) ∧
    (∀ (descriptor : Descriptor) (suffix : String), (descriptor.properties suffix).Perm
      ((descriptor.properties "").map fun (key, value) => (key ++ suffix, value))) ∧
    ∀ (other : Shape) (others : List (String × Property)),
      (Model.mk shape []).insertAll insertions = (Model.mk other []).insertAll others ↔
        shape = other ∧ ∀ key, Entries.last? key insertions = Entries.last? key others := by
  intro properties
  have lookup := find?_properties shape insertions key
  refine ⟨fun value given => ?_, fun notGiven => ?_, fun descriptor suffix => ?_, fun other others => ?_⟩
  · rw [lookup, given, Option.some_or]
  · have derived : properties.find? key = shape.properties.find? key := by
      rw [lookup, Entries.last?_eq_none.mpr notGiven, Option.none_or]
    rw [derived]
    cases shape with
    | single descriptor => rfl
    | pair first second =>
      refine ⟨?_, ?_, fun unnumbered => ?_⟩
      · rintro stem rfl
        exact Shape.find?_first first second stem
      · rintro stem rfl
        exact Shape.find?_second first second stem
      · exact Shape.find?_unnumbered (fun stem => (unnumbered stem).1) fun stem => (unnumbered stem).2
  · exact (descriptor.perm_properties suffix).trans (descriptor.perm_properties_plain.map _).symm
  · exact insertAll_eq_iff

/-- A pair in which one numbered key was given two values, and one without a number none. -/
theorem properties_lookup_law_overridden :
    let shape := Shape.pair (Descriptor.ofKind .int) (Descriptor.ofKind .long)
    let insertions := [("Type1", .text "Octet"), ("Step", .null), ("Type1", .flag true)]
    let model := (Model.mk shape []).insertAll insertions
    model.properties.find? "Type1" = some (.flag true) ∧
      model.properties.find? "Type2" = some (.text "Long") ∧
      model.properties.find? "Type" = none ∧
      model = (Model.mk shape []).insertAll [("Type1", .flag true), ("Step", .null)] := by
  intro shape insertions model
  have unnumbered (stem : String) : "Type" ≠ stem ++ "1" ∧ "Type" ≠ stem ++ "2" := by
    refine ⟨fun same => ?_, fun same => ?_⟩
    all_goals
      have last := congrArg (fun text => text.toList.getLast?) same
      simp at last
  have ofSecond := ((properties_lookup_law shape insertions "Type2").2.1 (by decide)).2.1 "Type" rfl
  have absent := ((properties_lookup_law shape insertions "Type").2.1 (by decide)).2.2 unnumbered
  refine ⟨(properties_lookup_law shape insertions "Type1").1 _ rfl, ofSecond.trans rfl, absent, ?_⟩
  refine ((properties_lookup_law shape insertions "Type").2.2.2 shape _).mpr ⟨rfl, fun key => ?_⟩
  simp only [insertions, Entries.last?, List.reverse_cons, List.reverse_nil, List.nil_append,
    List.cons_append, Entries.find?]
  grind

end Model

end Stencil
