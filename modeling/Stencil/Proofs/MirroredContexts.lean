import Mathlib.Order.WellFounded
import Stencil.Proofs.EntryLookups
import Stencil.Template.Language

namespace Stencil

namespace Property

/-- The entries of a property that has any. A descriptor has all properties of its kind. -/
def entries? : Property → Option (Entries Property)
  | map entries => some entries
  | descriptor kind => some ((Descriptor.ofKind kind).properties "")
  | _ => none

/-- The property that a path of keys leads to. -/
def follow? (property : Property) : List String → Option Property
  | [] => some property
  | key :: path => do (← (← property.entries?).find? key).follow? path

/-- To convert the whole, each part has to be converted first. -/
def IsPart (part whole : Property) : Prop :=
  ∃ entries key, whole.entries? = some entries ∧ (key, part) ∈ entries

mutual
/-- A descriptor outweighs all that is found under its kind, where there are flat maps and, if the
kind has bits, the descriptor of a kind without. -/
def weight : Property → Nat
  | map entries => entriesWeight entries + 1
  | descriptor kind => if kind.bits?.isSome then 3 else 2
  | _ => 0

def entriesWeight : List (String × Property) → Nat
  | [] => 0
  | (_, property) :: rest => property.weight + entriesWeight rest
end

theorem weight_le_entriesWeight {key : String} {property : Property} {entries : List (String × Property)}
    (member : (key, property) ∈ entries) : property.weight ≤ entriesWeight entries := by
  induction entries with
  | nil => cases member
  | cons pair rest ih =>
    rw [entriesWeight]
    rcases List.mem_cons.mp member with rfl | inRest
    · exact Nat.le_add_right _ _
    · exact (ih inRest).trans (Nat.le_add_left _ _)

theorem weight_lt_descriptor {kind : Kind} {key : String} {property : Property}
    (member : (key, property) ∈ (Descriptor.ofKind kind).properties "") :
    property.weight < (descriptor kind).weight := by
  have lighter : ((Descriptor.ofKind kind).properties "").all
      (fun pair => decide (pair.2.weight < (descriptor kind).weight)) = true := by
    cases kind <;> decide +kernel
  exact of_decide_eq_true (List.all_eq_true.mp lighter _ member)

theorem IsPart.weight_lt {part whole : Property} (isPart : IsPart part whole) : part.weight < whole.weight := by
  obtain ⟨entries, key, held, member⟩ := isPart
  cases whole with
  | map own =>
    cases Option.some.inj held
    rw [weight]
    exact Nat.lt_succ_of_le (weight_le_entriesWeight member)
  | descriptor kind =>
    cases Option.some.inj held
    exact weight_lt_descriptor member
  | text | flag | null | helper => cases held

/-- Descriptors may stand in descriptors, but not without end. -/
theorem wellFounded_isPart : WellFounded IsPart :=
  Subrelation.wf IsPart.weight_lt (measure weight).wf

end Property

namespace Template.Value

/-- The value that a path of attributes leads to. -/
def follow? (value : Value) : List String → Option Value
  | [] => some value
  | name :: path => do (← value.field? name).follow? path

theorem compare_text (key held : String) : ((text key).compare (text held) == .eq) = decide (held = key) := by
  rw [compare, Bool.eq_iff_iff, beq_iff_eq, Std.compare_eq_iff_eq, decide_eq_true_iff]
  exact eq_comm

theorem ofEntries_eq (entries : List (String × Property)) :
    ofEntries entries = entries.map fun pair => (text pair.1, ofProperty pair.2) := by
  induction entries with
  | nil => rfl
  | cons pair rest ih => exact congrArg _ ih

theorem valueAt?_ofEntries (key : String) (entries : Entries Property) :
    valueAt? (text key) (ofEntries entries) = (entries.find? key).map ofProperty := by
  induction entries with
  | nil => rfl
  | cons pair rest ih =>
    obtain ⟨held, property⟩ := pair
    have unfolded : ofEntries ((held, property) :: rest) =
        (text held, ofProperty property) :: ofEntries rest := rfl
    rw [unfolded, valueAt?, compare_text, Entries.find?, ih]
    by_cases same : held = key <;> simp [same]

theorem ofProperty_of_entries? {property : Property} {entries : Entries Property}
    (held : property.entries? = some entries) : ofProperty property = map (ofEntries entries) := by
  cases property with
  | map own =>
    cases Option.some.inj held
    rfl
  | descriptor kind =>
    cases Option.some.inj held
    exact ofDescriptor_eq kind
  | text | flag | null | helper => cases held

theorem field?_ofProperty (property : Property) (key : String) :
    (ofProperty property).field? key = (property.entries?.bind (Entries.find? key)).map ofProperty := by
  cases held : property.entries? with
  | some entries =>
    rw [ofProperty_of_entries? held]
    exact valueAt?_ofEntries key entries
  | none =>
    cases property with
    | map | descriptor => cases held
    | text | flag | null | helper => rfl

/-- The conversion goes along with every path. -/
theorem follow?_ofProperty (property : Property) (path : List String) :
    (ofProperty property).follow? path = (property.follow? path).map ofProperty := by
  induction path generalizing property with
  | nil => rfl
  | cons key path ih =>
    rw [follow?, Property.follow?, field?_ofProperty]
    cases held : property.entries? with
    | none => rfl
    | some entries =>
      cases found : entries.find? key with
      | none => simp [found]
      | some next => simp [found, ih]

/-- A property as a value, as it is worked out from the values of its parts. -/
structure Converts (convert : Property → Value) : Prop where
  text (value : String) : convert (.text value) = text value
  flag (value : Bool) : convert (.flag value) = flag value
  null : convert .null = undefined false
  helper (called : Helper) : convert (.helper called) = helper called
  entries {property : Property} {entries : Entries Property} (held : property.entries? = some entries) :
    convert property = map (entries.map fun pair => (.text pair.1, convert pair.2))

theorem converts_ofProperty : Converts ofProperty where
  text _ := rfl
  flag _ := rfl
  null := rfl
  helper _ := rfl
  entries held := by rw [ofProperty_of_entries? held, ofEntries_eq]

theorem Converts.eq_ofProperty {convert : Property → Value} (converts : Converts convert) :
    convert = ofProperty := by
  funext property
  -- What is found in a descriptor is no part of the term, so the structure of properties is not enough.
  induction property using Property.wellFounded_isPart.induction with
  | _ property ih =>
    cases held : property.entries? with
    | some entries =>
      rw [converts.entries held, converts_ofProperty.entries held]
      refine congrArg map (List.map_congr_left fun pair member => ?_)
      rw [ih pair.2 ⟨entries, pair.1, held, member⟩]
    | none =>
      cases property with
      | map | descriptor => cases held
      | text value => exact converts.text value
      | flag value => exact converts.flag value
      | null => exact converts.null
      | helper called => exact converts.helper called

/-- What templates are given of a model. -/
def ofModel (model : Model) : Value :=
  map (ofEntries model.properties)

/-- Templates find the names of the model before the functions that all templates have. -/
theorem lookup_initial (template : Template) (model : Model) (name : String) :
    (State.initial template model).lookup name = ((ofModel model).field? name).or (State.global? name) := by
  have frames : (State.initial template model).frames =
      [{ base := .model (ofEntries model.properties) }] := rfl
  have base : (State.initial template model).lookupFrame name
      { base := .model (ofEntries model.properties) } = (ofModel model).field? name := rfl
  rw [State.lookup, frames, List.findSome?_cons, base]
  cases (ofModel model).field? name <;> rfl

/-- What is found under a path, which is undefined where there is nothing. -/
def found (value : Value) (path : List String) : Value :=
  (value.follow? path).getD (undefined false)

/-- A value that templates can call with two texts, and that answers as a helper does. -/
def AnswersAs (value : Value) (called : Helper) : Prop :=
  ∀ bodies line lhs rhs, Eval.callValue bodies line value [text lhs, text rhs] =
    Eval.pure (text (called.apply lhs rhs))

theorem callValue_helper (bodies : Bodies) (line : Nat) (called : Helper) (lhs rhs : String) :
    Eval.callValue bodies line (helper called) [text lhs, text rhs] =
      Eval.pure (text (called.apply lhs rhs)) :=
  rfl

theorem pure_injective {state : State} {first second : Value}
    (same : (Eval.pure first : Eval Value) state = Eval.pure second state) : first = second := by
  injection same with same
  injection same with same
  exact (Prod.mk.inj same).1

theorem not_answersAs {value : Value} {called : Helper} (fails : ∀ bodies line arguments,
    Eval.callValue bodies line value arguments = Eval.fail .invalidOperation line) :
    ¬ value.AnswersAs called := by
  intro answers
  have called := congrFun (answers (Bodies.upTo 0) 0 "" "") { frames := [], template := "" }
  rw [fails] at called
  injection called with called
  cases called

/-- Of the values that properties have, those of helpers can be called, and no others. -/
theorem answersAs_ofProperty (property : Property) (called : Helper) :
    (ofProperty property).AnswersAs called ↔
      ∃ held, property = .helper held ∧ ∀ lhs rhs, held.apply lhs rhs = called.apply lhs rhs := by
  cases property with
  | helper held =>
    constructor
    · intro answers
      refine ⟨held, rfl, fun lhs rhs => ?_⟩
      have same := congrFun (answers (Bodies.upTo 0) 0 lhs rhs) { frames := [], template := "" }
      exact text.inj (pure_injective same)
    · rintro ⟨other, isHelper, same⟩ bodies line lhs rhs
      cases isHelper
      rw [← same]
      exact callValue_helper bodies line held lhs rhs
  | text | flag | null | map | descriptor =>
    refine iff_of_false (not_answersAs fun _ _ _ => rfl) ?_
    rintro ⟨_, same, _⟩
    cases same

section

variable {property : Property}

theorem isUndefined_ofProperty : (ofProperty property).isUndefined = true ↔ property = .null := by
  cases property <;> simp [ofProperty, ofPropertyWith, ofDescriptor, isUndefined]

theorem ofProperty_eq_text {content : String} :
    ofProperty property = text content ↔ property = .text content := by
  cases property <;> simp [ofProperty, ofPropertyWith, ofDescriptor]

theorem ofProperty_eq_flag {content : Bool} :
    ofProperty property = flag content ↔ property = .flag content := by
  cases property <;> simp [ofProperty, ofPropertyWith, ofDescriptor]

theorem ofProperty_eq_helper {called : Helper} :
    ofProperty property = helper called ↔ property = .helper called := by
  cases property <;> simp [ofProperty, ofPropertyWith, ofDescriptor]

theorem keys_ofEntries (entries : Entries Property) :
    (ofEntries entries).map Prod.fst = entries.keys.map text := by
  rw [ofEntries_eq, Entries.keys, List.map_map, List.map_map]
  rfl

theorem text_injective : Function.Injective text :=
  fun _ _ same => text.inj same

theorem ofProperty_eq_map {keys : List String} :
    (∃ entries, ofProperty property = map entries ∧ entries.map Prod.fst = keys.map text) ↔
      ∃ entries, property.entries? = some entries ∧ entries.keys = keys := by
  constructor
  · rintro ⟨values, same, sameKeys⟩
    cases held : property.entries? with
    | some entries =>
      rw [ofProperty_of_entries? held, map.injEq] at same
      rw [← same, keys_ofEntries] at sameKeys
      exact ⟨entries, rfl, List.map_injective_iff.mpr text_injective sameKeys⟩
    | none =>
      cases property with
      | map | descriptor => cases held
      | text | flag | null | helper => cases same
  · rintro ⟨entries, held, rfl⟩
    exact ⟨ofEntries entries, ofProperty_of_entries? held, keys_ofEntries entries⟩

end

/-- A path leads to the same place in a model and in what templates are given of it. -/
theorem found_ofModel (model : Model) (path : List String) :
    (ofModel model).found path =
      (((Property.map model.properties).follow? path).map ofProperty).getD (undefined false) := by
  rw [← follow?_ofProperty]
  rfl

/-- Converting a property comes to an end and has one result. What templates find under a path of a
model is undefined where the model has nothing or a null, a map with the same keys where it has a map or
a descriptor, the same text or flag where it has one, and where it has a helper a function that answers
as the helper does. -/
theorem context_mirrors_model (model : Model) (key : String) (path : List String) :
    WellFounded Property.IsPart ∧ (∀ convert, Converts convert ↔ convert = ofProperty) ∧
    (∀ template, (State.initial template model).lookup key =
      ((ofModel model).field? key).or (State.global? key)) ∧
    let place := (Property.map model.properties).follow? (key :: path)
    let value := (ofModel model).found (key :: path)
    (value.isUndefined = true ↔ place = Option.none ∨ place = some .null) ∧
    (∀ keys : List String, (∃ entries, value = map entries ∧ entries.map Prod.fst = keys.map text) ↔
      ∃ property entries, place = some property ∧ property.entries? = some entries ∧ entries.keys = keys) ∧
    (∀ content, value = text content ↔ place = some (.text content)) ∧
    (∀ content, value = flag content ↔ place = some (.flag content)) ∧
    (∀ called, value = helper called ↔ place = some (.helper called)) ∧
    ∀ called, value.AnswersAs called ↔
      ∃ held, place = some (.helper held) ∧ ∀ lhs rhs, held.apply lhs rhs = called.apply lhs rhs := by
  refine ⟨Property.wellFounded_isPart, fun convert => ⟨Converts.eq_ofProperty, fun same => ?_⟩,
    fun template => lookup_initial template model key, ?_⟩
  · rw [same]
    exact converts_ofProperty
  intro place value
  have valueEq : value = (place.map ofProperty).getD (undefined false) := found_ofModel model (key :: path)
  rw [valueEq]
  cases place with
  | none =>
    refine ⟨by simp [isUndefined], by simp, by simp, by simp, by simp, fun called => ?_⟩
    exact iff_of_false (not_answersAs fun _ _ _ => rfl) (by simp)
  | some property =>
    simp only [Option.map_some, Option.getD_some, Option.some.injEq, reduceCtorEq, false_or]
    refine ⟨isUndefined_ofProperty, fun keys => ?_, fun content => ofProperty_eq_text,
      fun content => ofProperty_eq_flag, fun called => ofProperty_eq_helper,
      fun called => answersAs_ofProperty property called⟩
    rw [ofProperty_eq_map]
    simp

end Template.Value

end Stencil
