import Mathlib.Data.List.Forall2
import Mathlib.Data.List.Nodup
import Mathlib.Data.List.TakeWhile
import Stencil.CommandLine.Arguments
import Stencil.Proofs.EntryLookups

namespace Stencil

namespace Plan

/-- The name by which a command line asks for a plan. -/
def name : Plan → String
  | base => "base"
  | collectionPrimitive => "collection-primitive"
  | all => "all"

theorem parse?_eq_some {text : String} {plan : Plan} : parse? text = some plan ↔ text = plan.name := by
  constructor
  · intro parsed
    unfold parse? at parsed
    split at parsed <;> cases parsed <;> rfl
  · rintro rfl
    cases plan <;> rfl

theorem name_injective : Function.Injective name := by
  intro plan other same
  have parsed := parse?_eq_some.mpr same
  rw [parse?_eq_some.mpr rfl] at parsed
  exact Option.some.inj parsed

end Plan

namespace CommandLine

theorem Switch.long_injective : Function.Injective Switch.long := by
  intro switch other same
  cases switch <;> cases other <;> first | rfl | exact absurd same (by decide)

theorem Setting.long_injective : Function.Injective Setting.long := by
  intro setting other same
  cases setting <;> cases other <;> first | rfl | exact absurd same (by decide)

theorem Switch.long_ne_setting (switch : Switch) (setting : Setting) : switch.long ≠ setting.long := by
  cases switch <;> cases setting <;> decide

theorem Switch.eq_of_letter? {switch other : Switch} {letter : Char} (has : switch.letter? = some letter)
    (hasToo : other.letter? = some letter) : switch = other := by
  cases switch <;> cases other <;>
    first | rfl | exact absurd (has.trans hasToo.symm) (by decide) | cases has

/-- A name without an equals sign, which is therefore told from a value that is attached to it. -/
def PlainName (name : String) : Prop :=
  name.toList.all (· != '=') = true

instance (name : String) : Decidable (PlainName name) :=
  inferInstanceAs (Decidable (_ = true))

theorem Setting.plainName (setting : Setting) : PlainName setting.long := by
  cases setting <;> decide

theorem Switch.plainName (switch : Switch) : PlainName switch.long := by
  cases switch <;> decide

theorem Setting.long_ne_empty (setting : Setting) : setting.long ≠ "" := by
  cases setting <;> decide

theorem Switch.long_ne_empty (switch : Switch) : switch.long ≠ "" := by
  cases switch <;> decide

theorem Switch.ofString_letter (switch : Switch) {letter : Char} (has : switch.letter? = some letter) :
    Lexeme.ofString (String.ofList ['-', letter]) = .short [letter] := by
  cases switch <;> cases has <;> rfl

namespace Lexeme

variable {name value text : String}

theorem ofString_long (plain : PlainName name) (named : name ≠ "") :
    ofString ("--" ++ name) = .long name none := by
  have isName : ∀ c ∈ name.toList, (c != '=') = true := List.all_eq_true.mp plain
  have taken : name.toList.takeWhile (· != '=') = name.toList := List.takeWhile_eq_self_iff.mpr isName
  have dropped : name.toList.dropWhile (· != '=') = [] := List.dropWhile_eq_nil_iff.mpr isName
  have chars : ("--" ++ name).toList = '-' :: '-' :: name.toList := by
    rw [String.toList_append]
    rfl
  rw [ofString, chars]
  cases letters : name.toList with
  | nil => exact absurd (String.toList_inj.mp letters) named
  | cons c rest =>
    rw [letters] at taken dropped
    simp only [taken, dropped]
    rw [← letters, String.ofList_toList]

theorem ofString_attached (plain : PlainName name) :
    ofString ("--" ++ name ++ "=" ++ value) = .long name (some value) := by
  have isName : ∀ c ∈ name.toList, (c != '=') = true := List.all_eq_true.mp plain
  have taken : (name.toList ++ '=' :: value.toList).takeWhile (· != '=') = name.toList := by
    rw [List.takeWhile_append_of_pos isName]
    simp
  have dropped : (name.toList ++ '=' :: value.toList).dropWhile (· != '=') = '=' :: value.toList := by
    rw [List.dropWhile_append_of_pos isName]
    simp
  have chars : ("--" ++ name ++ "=" ++ value).toList = '-' :: '-' :: (name.toList ++ '=' :: value.toList) := by
    simp
  rw [ofString, chars]
  cases letters : name.toList ++ '=' :: value.toList with
  | nil => simp at letters
  | cons c rest =>
    rw [letters] at taken dropped
    simp only [taken, dropped, String.ofList_toList]

theorem ofString_word (plain : text.toList.head? ≠ some '-') : ofString text = .word text := by
  unfold ofString
  split
  · next chars => exact absurd (congrArg List.head? chars) plain
  · next chars => exact absurd (congrArg List.head? chars) plain
  · next chars => exact absurd (congrArg List.head? chars) plain
  · rfl

end Lexeme

/-- Something that is chosen on a command line: a setting has a value, or a switch is on. -/
inductive Choice where
  | set (setting : Setting) (value : String)
  | turn (switch : Switch)
deriving DecidableEq, Repr

namespace Choice

/-- What a choice is about, which can be chosen once. -/
def subject : Choice → Setting ⊕ Switch
  | set setting _ => .inl setting
  | turn switch => .inr switch

/-- The arguments that make a choice. A value that begins with a dash has to be attached. -/
inductive Spelled : Choice → List String → Prop
  | attached (setting : Setting) (value : String) :
      Spelled (.set setting value) ["--" ++ setting.long ++ "=" ++ value]
  | apart (setting : Setting) {value : String} (plain : value.toList.head? ≠ some '-') :
      Spelled (.set setting value) ["--" ++ setting.long, value]
  | long (switch : Switch) : Spelled (.turn switch) ["--" ++ switch.long]
  | short {switch : Switch} {letter : Char} (has : switch.letter? = some letter) :
      Spelled (.turn switch) [String.ofList ['-', letter]]

/-- Whether a choice can be made. A directory is not empty and a plan has a name; asking for help is
no choice. -/
def Allowed (accepted : Accepted) : Choice → Prop
  | set .plan value => .plan ∈ accepted.settings ∧ ∃ plan : Plan, value = plan.name
  | set setting value => setting ∈ accepted.settings ∧ value ≠ ""
  | turn switch => switch ∈ accepted.switches ∧ switch ≠ .help ∧ switch ≠ .version

theorem Allowed.mem_settings {accepted : Accepted} {setting : Setting} {value : String}
    (allowed : (Choice.set setting value).Allowed accepted) : setting ∈ accepted.settings := by
  cases setting <;> exact allowed.1

end Choice

namespace Given

variable {given now : Given} {accepted : Accepted}

/-- The value that a setting has been given, if it has. -/
def value? (given : Given) : Setting → Option String
  | .templates => given.templates
  | .output => given.output
  | .plan => given.plan.map Plan.name

/-- Whether a choice has been made. -/
def Has (given : Given) : Choice → Prop
  | .set setting value => given.value? setting = some value
  | .turn switch => switch ∈ given.switches

/-- What is given once a setting has a value. -/
def put (given : Given) (setting : Setting) (value : String) : Given :=
  match setting with
  | .templates => { given with templates := some value }
  | .output => { given with output := some value }
  | .plan => { given with plan := Plan.parse? value }

/-- What is given once a switch is on. -/
def on (given : Given) (switch : Switch) : Given :=
  { given with switches := given.switches ++ [switch] }

theorem waiting_of_assign {setting : Setting} {value : String}
    (assigned : given.assign setting value = .ok now) : now.waiting = given.waiting := by
  unfold assign at assigned
  cases setting with
  | templates | output =>
    dsimp only at assigned
    split at assigned
    · cases assigned
    · split at assigned <;> cases assigned
      rfl
  | plan =>
    dsimp only at assigned
    split at assigned
    · cases assigned
    · split at assigned <;> cases assigned
      rfl

/-- What is settled waits for no value. -/
theorem waiting_of_settle (settled : given.settle = .ok now) : now.waiting = none := by
  unfold settle at settled
  split at settled
  · next waiting =>
    cases settled
    exact waiting
  · cases settled
  · exact waiting_of_assign settled

theorem settle_of_waiting (waiting : given.waiting = none) : given.settle = .ok given := by
  rw [settle, waiting]

theorem waiting_put (given : Given) (setting : Setting) (value : String) :
    (given.put setting value).waiting = given.waiting := by
  cases setting <;> rfl

theorem assign_of_allowed {setting : Setting} {value : String}
    (allowed : (Choice.set setting value).Allowed accepted) (free : given.value? setting = none) :
    given.assign setting value = .ok (given.put setting value) := by
  cases setting with
  | templates | output =>
    have notEmpty : value.isEmpty = false := Bool.eq_false_iff.mpr fun empty =>
      allowed.2 (String.isEmpty_iff.mp empty)
    simp only [value?] at free
    simp [assign, put, free, notEmpty]
  | plan =>
    obtain ⟨plan, rfl⟩ := allowed.2
    have parsed : Plan.parse? plan.name = some plan := Plan.parse?_eq_some.mpr rfl
    have free : given.plan = none := Option.map_eq_none_iff.mp free
    simp [assign, put, free, parsed]

theorem value?_put {setting other : Setting} {value : String}
    (allowed : (Choice.set setting value).Allowed accepted) :
    (given.put setting value).value? other =
      if setting = other then some value else given.value? other := by
  cases setting with
  | templates | output => cases other <;> rfl
  | plan =>
    obtain ⟨plan, rfl⟩ := allowed.2
    have parsed : Plan.parse? plan.name = some plan := Plan.parse?_eq_some.mpr rfl
    cases other with
    | templates | output => rfl
    | plan => simp [value?, put, parsed]

/-- Once a setting has a value, one choice more has been made. -/
theorem has_put {setting : Setting} {value : String} (allowed : (Choice.set setting value).Allowed accepted)
    (free : given.value? setting = none) (choice : Choice) :
    (given.put setting value).Has choice ↔ given.Has choice ∨ choice = .set setting value := by
  cases choice with
  | turn switch => cases setting <;> simp [Has, put]
  | set other held =>
    simp only [Has, value?_put allowed, Choice.set.injEq]
    by_cases same : setting = other
    · subst same
      simp [free, eq_comm]
    · simp [same, Ne.symm same]

theorem find?_setting {setting : Setting} (member : setting ∈ accepted.settings) :
    accepted.switches.find? (·.long == setting.long) = none ∧
      accepted.settings.find? (·.long == setting.long) = some setting := by
  constructor
  · exact List.find?_eq_none.mpr fun switch _ same => switch.long_ne_setting setting (beq_iff_eq.mp same)
  · exact find?_of_unique member (beq_self_eq_true _) fun other same =>
      Setting.long_injective (beq_iff_eq.mp same)

theorem applyLong_attached {setting : Setting} (member : setting ∈ accepted.settings)
    (settled : given.settle = .ok now) (value : String) :
    given.applyLong accepted setting.long (some value) = now.assign setting value := by
  obtain ⟨noSwitch, isSetting⟩ := find?_setting member
  rw [applyLong, noSwitch, isSetting]
  simp only [settled]
  rfl

theorem applyLong_apart {setting : Setting} (member : setting ∈ accepted.settings)
    (settled : given.settle = .ok now) :
    given.applyLong accepted setting.long none = .ok { now with waiting := some (setting, none) } := by
  obtain ⟨noSwitch, isSetting⟩ := find?_setting member
  rw [applyLong, noSwitch, isSetting]
  simp only [settled]
  rfl

theorem turnOn_of_free {switch : Switch} (settled : given.settle = .ok now) (notHelp : switch ≠ .help)
    (notVersion : switch ≠ .version) (free : switch ∉ now.switches) :
    given.turnOn switch = .ok (now.on switch) := by
  have notContained : now.switches.contains switch = false := by simpa using free
  unfold turnOn
  rw [settled]
  cases switch with
  | help => exact absurd rfl notHelp
  | version => exact absurd rfl notVersion
  | verbose | json | inputs | outputs =>
    simp only [bind, Except.bind, notContained]
    rfl

theorem applyLong_switch {switch : Switch} (member : switch ∈ accepted.switches) :
    given.applyLong accepted switch.long none = given.turnOn switch := by
  have isSwitch : accepted.switches.find? (·.long == switch.long) = some switch :=
    find?_of_unique member (beq_self_eq_true _) fun other same =>
      Switch.long_injective (beq_iff_eq.mp same)
  rw [applyLong, isSwitch]
  rfl

theorem applyShort_switch {switch : Switch} {letter : Char} (member : switch ∈ accepted.switches)
    (has : switch.letter? = some letter) (turned : given.turnOn switch = .ok now) :
    given.applyShort accepted [letter] = .ok now := by
  have isSwitch : accepted.switches.find? (·.letter? == some letter) = some switch :=
    find?_of_unique member (beq_iff_eq.mpr has) fun other same =>
      Switch.eq_of_letter? (beq_iff_eq.mp same) has
  rw [applyShort, isSwitch]
  simp only [turned]
  rfl

theorem read_cons {argument : String} {rest : List String} {lexeme : Lexeme} {next : Given}
    (spelled : Lexeme.ofString argument = lexeme) (applied : given.applyLexeme accepted lexeme = .ok next)
    (notDashes : lexeme ≠ .dashes) :
    given.read accepted (argument :: rest) = next.read accepted rest := by
  rw [read, spelled]
  cases lexeme with
  | dashes => exact absurd rfl notDashes
  | long | short | word =>
    simp only [applied]
    rfl

/-- Nothing has been chosen about a subject. -/
def Free (given : Given) (subject : Setting ⊕ Switch) : Prop :=
  ∀ choice, given.Has choice → choice.subject ≠ subject

theorem Free.value? {setting : Setting} (free : given.Free (.inl setting)) : given.value? setting = none :=
  Option.eq_none_iff_forall_ne_some.mpr fun value held => free (.set setting value) held rfl

theorem Free.switch {switch : Switch} (free : given.Free (.inr switch)) : switch ∉ given.switches :=
  fun on => free (.turn switch) on rfl

theorem has_on (given : Given) (switch : Switch) (choice : Choice) :
    (given.on switch).Has choice ↔ given.Has choice ∨ choice = .turn switch := by
  cases choice with
  | set setting value => cases setting <;> simp [Has, Given.value?, on]
  | turn other => simp [Has, on]

/-- Whichever way a choice is spelled, it is made; with a value of its own argument it is made when
what comes next is settled. -/
theorem read_spelled {choice : Choice} {arguments : List String} (spelled : choice.Spelled arguments)
    (rest : List String) (settled : given.settle = .ok now) (allowed : choice.Allowed accepted)
    (free : now.Free choice.subject) :
    ∃ after next : Given, given.read accepted (arguments ++ rest) = after.read accepted rest ∧
      after.settle = .ok next ∧ ∀ other, next.Has other ↔ now.Has other ∨ other = choice := by
  have waiting := waiting_of_settle settled
  cases spelled with
  | attached setting value =>
    have assigned := assign_of_allowed allowed free.value?
    refine ⟨now.put setting value, now.put setting value, ?_, ?_, has_put allowed free.value?⟩
    · have applied := (applyLong_attached allowed.mem_settings settled value).trans assigned
      exact read_cons (Lexeme.ofString_attached setting.plainName) applied (by simp)
    · exact settle_of_waiting ((waiting_put now setting value).trans waiting)
  | @apart setting value plain =>
    refine ⟨{ now with waiting := some (setting, some value) }, now.put setting value, ?_, ?_,
      has_put allowed free.value?⟩
    · have spelled := Lexeme.ofString_long setting.plainName setting.long_ne_empty
      have first := applyLong_apart allowed.mem_settings settled
      have second : { now with waiting := some (setting, none) }.applyLexeme accepted (.word value) =
          .ok { now with waiting := some (setting, some value) } := rfl
      exact (read_cons spelled first (by simp)).trans
        (read_cons (Lexeme.ofString_word plain) second (by simp))
    · have same : { now with waiting := none } = now := by
        rw [← waiting]
      have settles : { now with waiting := some (setting, some value) }.settle =
          { now with waiting := none }.assign setting value := rfl
      rw [settles, same, assign_of_allowed allowed free.value?]
  | long switch =>
    obtain ⟨member, notHelp, notVersion⟩ := allowed
    have spelled := Lexeme.ofString_long switch.plainName switch.long_ne_empty
    have turned := turnOn_of_free settled notHelp notVersion free.switch
    refine ⟨now.on switch, now.on switch, ?_, settle_of_waiting waiting, has_on now switch⟩
    exact read_cons spelled ((applyLong_switch member).trans turned) (by simp)
  | @short switch letter has =>
    obtain ⟨member, notHelp, notVersion⟩ := allowed
    have turned := turnOn_of_free settled notHelp notVersion free.switch
    refine ⟨now.on switch, now.on switch, ?_, settle_of_waiting waiting, has_on now switch⟩
    exact read_cons (switch.ofString_letter has) (applyShort_switch member has turned) (by simp)

/-- Choices about different subjects are all made, in whatever order they stand. -/
theorem read_choices {choices done : List Choice} {texts : List (List String)}
    (spelled : List.Forall₂ Choice.Spelled choices texts)
    (allowed : ∀ choice ∈ choices, choice.Allowed accepted)
    (distinct : ((done ++ choices).map Choice.subject).Nodup) (settled : given.settle = .ok now)
    (made : ∀ choice, now.Has choice ↔ choice ∈ done) :
    ∃ last : Given, given.read accepted texts.flatten = .ok last ∧
      ∀ choice, last.Has choice ↔ choice ∈ done ++ choices := by
  -- On the choices that are still to be read. A value that stands apart is not looked at before the
  -- next argument, so the invariant is about what is given once that is settled.
  induction spelled generalizing given now done with
  | nil =>
    refine ⟨now, settled, ?_⟩
    rwa [List.append_nil]
  | @cons choice arguments choices texts first rest ih =>
    have free : now.Free choice.subject := by
      intro other has same
      rw [List.map_append] at distinct
      refine List.disjoint_of_nodup_append distinct (List.mem_map_of_mem ((made other).mp has)) ?_
      rw [same]
      exact List.mem_cons_self
    obtain ⟨after, next, read, settledNext, has⟩ :=
      read_spelled first texts.flatten settled (allowed choice List.mem_cons_self) free
    have split : done ++ choice :: choices = (done ++ [choice]) ++ choices := by
      rw [List.append_assoc, List.singleton_append]
    have madeNext : ∀ other, next.Has other ↔ other ∈ done ++ [choice] := by
      intro other
      rw [has, made, List.mem_append, List.mem_singleton]
    rw [split] at distinct ⊢
    rw [List.flatten_cons, read]
    exact ih (fun other member => allowed other (List.mem_cons_of_mem _ member)) distinct settledNext madeNext

end Given

end CommandLine

end Stencil
