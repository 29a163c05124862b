import Stencil.Proofs.OptionSpellings

namespace Stencil.CommandLine

def Verb.name : Verb → String
  | generate => "generate"
  | files => "files"
  | describe => "describe"

/-- One of the two parts of a listing. -/
inductive Part where
  | inputs
  | outputs
deriving DecidableEq, Repr

def Part.switch : Part → Switch
  | inputs => .inputs
  | outputs => .outputs

/-- What the roots are needed for: to generate, or to list files, of one part or of both. -/
inductive Purpose where
  | generate
  | files (part : Option Part)
deriving DecidableEq, Repr

namespace Purpose

def verb : Purpose → Verb
  | generate => .generate
  | files _ => .files

def switches : Purpose → List Switch
  | generate => []
  | files part => (part.map Part.switch).toList

def command (roots : Roots) : Purpose → Command
  | generate => .generate roots
  | files part => .files roots (part == some .inputs) (part == some .outputs)

theorem switches_sublist (purpose : Purpose) :
    purpose.switches.Sublist [.inputs, .outputs] := by
  rcases purpose with _ | _ | _ | _ <;> decide

end Purpose

/-- What is selected on a command line that is about roots. -/
structure Selection where
  purpose : Purpose
  templates : Option String := none
  output : Option String := none
  plan : Option Plan := none
  verbose : Bool := false
deriving DecidableEq, Repr

namespace Selection

/-- What is chosen besides verbosity. -/
def choices (selection : Selection) : List Choice :=
  (selection.templates.map (Choice.set .templates)).toList ++
    (selection.output.map (Choice.set .output)).toList ++
    (selection.plan.map fun plan => Choice.set .plan plan.name).toList ++
    selection.purpose.switches.map Choice.turn

/-- The choice of verbosity, if it is made. -/
def verbosity (verbose : Bool) : List Choice :=
  if verbose then [.turn .verbose] else []

/-- The arguments that a selection can be written as. The choices follow the command in any order and
in any spelling; that of verbosity is one of them, or stands before the command. -/
inductive Worded (selection : Selection) : List String → Prop
  | after {choices : List Choice} {texts : List (List String)}
      (order : choices.Perm (selection.choices ++ verbosity selection.verbose))
      (spelled : List.Forall₂ Choice.Spelled choices texts) :
      Worded selection (selection.purpose.verb.name :: texts.flatten)
  | before {choices : List Choice} {texts : List (List String)} {front : List String}
      (verbose : selection.verbose = true) (first : (Choice.turn .verbose).Spelled front)
      (order : choices.Perm selection.choices) (spelled : List.Forall₂ Choice.Spelled choices texts) :
      Worded selection (front ++ selection.purpose.verb.name :: texts.flatten)

variable {selection : Selection}

theorem mem_verbosity {verbose : Bool} {choice : Choice} :
    choice ∈ verbosity verbose ↔ verbose = true ∧ choice = .turn .verbose := by
  cases verbose <;> simp [verbosity]

/-- No two choices of a selection are about one subject. -/
theorem nodup_subjects (selection : Selection) :
    ((selection.choices ++ [Choice.turn .verbose]).map Choice.subject).Nodup := by
  have optional {α : Type} (make : α → Choice) (subject : Setting ⊕ Switch)
      (same : ∀ value, (make value).subject = subject) (value : Option α) :
      (((value.map make).toList).map Choice.subject).Sublist [subject] := by
    cases value <;> simp [same]
  have templates := optional (Choice.set .templates) (.inl .templates) (fun _ => rfl) selection.templates
  have output := optional (Choice.set .output) (.inl .output) (fun _ => rfl) selection.output
  have plan := optional (fun plan : Plan => Choice.set .plan plan.name) (.inl .plan) (fun _ => rfl)
    selection.plan
  have switches : ((selection.purpose.switches.map Choice.turn).map Choice.subject).Sublist
      [.inr .inputs, .inr .outputs] := by
    rw [List.map_map]
    exact selection.purpose.switches_sublist.map (Sum.inr : Switch → Setting ⊕ Switch)
  have subjects : ((selection.choices ++ [Choice.turn .verbose]).map Choice.subject).Sublist
      ([.inl .templates] ++ [.inl .output] ++ [.inl .plan] ++ [.inr .inputs, .inr .outputs] ++
        [.inr .verbose]) := by
    simp only [choices, List.map_append]
    exact (((templates.append output).append plan).append switches).append (List.Sublist.refl _)
  exact subjects.nodup (by decide)

theorem nodup_subjects_verbosity (selection : Selection) (verbose : Bool) :
    ((selection.choices ++ verbosity verbose).map Choice.subject).Nodup := by
  refine (List.Sublist.map _ ((List.Sublist.refl _).append ?_)).nodup selection.nodup_subjects
  cases verbose <;> simp [verbosity]

theorem allowed_of_mem (templates : selection.templates ≠ some "") (output : selection.output ≠ some "")
    {verbose : Bool} {choice : Choice} (member : choice ∈ selection.choices ++ verbosity verbose) :
    choice.Allowed selection.purpose.verb.accepted := by
  have settings (setting : Setting) : setting ∈ selection.purpose.verb.accepted.settings := by
    cases selection.purpose <;> cases setting <;> simp [Purpose.verb, Verb.accepted]
  have switches : ∀ switch ∈ selection.purpose.switches, switch ∈ selection.purpose.verb.accepted.switches ∧
      switch ≠ .help ∧ switch ≠ .version := by
    rcases selection.purpose with _ | _ | _ | _ <;> decide
  simp only [choices, List.mem_append, Option.mem_toList, Option.map_eq_some_iff,
    List.mem_map, mem_verbosity] at member
  rcases member with
    (((⟨value, given, rfl⟩ | ⟨value, given, rfl⟩) | ⟨plan, given, rfl⟩) | ⟨switch, on, rfl⟩) | ⟨-, rfl⟩
  · exact ⟨settings .templates, fun empty => templates (empty ▸ given)⟩
  · exact ⟨settings .output, fun empty => output (empty ▸ given)⟩
  · exact ⟨settings .plan, plan, rfl⟩
  · exact switches switch on
  · cases selection.purpose <;> exact ⟨List.mem_cons_self, by decide, by decide⟩

/-- What has been given once all choices of a selection are made. -/
structure Made (selection : Selection) (verbose : Bool) (own : Given) : Prop where
  templates : own.templates = selection.templates
  output : own.output = selection.output
  plan : own.plan = selection.plan
  switches : ∀ switch, own.switches.contains switch =
    (selection.purpose.switches.contains switch || verbose && switch == .verbose)

theorem made_of_has {verbose : Bool} {own : Given}
    (has : ∀ choice, own.Has choice ↔ choice ∈ selection.choices ++ verbosity verbose) :
    selection.Made verbose own where
  templates := by
    ext value
    have same := has (.set .templates value)
    simpa [Given.Has, Given.value?, choices, mem_verbosity] using same
  output := by
    ext value
    have same := has (.set .output value)
    simpa [Given.Has, Given.value?, choices, mem_verbosity] using same
  plan := by
    refine Option.map_injective Plan.name_injective ?_
    ext name
    have same := has (.set .plan name)
    simpa [Given.Has, Given.value?, choices, mem_verbosity] using same
  switches switch := by
    have same := has (.turn switch)
    rw [Bool.eq_iff_iff]
    simpa [Given.Has, choices, mem_verbosity] using same

end Selection

/-- The directory that is given, or else the one that the environment has, unless it is empty. -/
def resolved (given fromEnvironment : Option String) : Option Path :=
  (given.or (fromEnvironment.filter (· ≠ ""))).map Path.mk

/-- Neither given nor had from the environment, which has an empty one. -/
def Emptied (given fromEnvironment : Option String) : Prop :=
  given = none ∧ fromEnvironment = some ""

instance (given fromEnvironment : Option String) : Decidable (Emptied given fromEnvironment) :=
  inferInstanceAs (Decidable (_ ∧ _))

theorem chooseDirectory_eq (given fromEnvironment : Option String) :
    chooseDirectory given fromEnvironment =
      if Emptied given fromEnvironment then .error .invalidValue
      else .ok (resolved given fromEnvironment) := by
  cases given with
  | some directory => rfl
  | none =>
    cases fromEnvironment with
    | none => rfl
    | some directory =>
      by_cases empty : directory = "" <;> simp [chooseDirectory, resolved, Emptied, empty, Option.filter]

theorem resolved_of_emptied {given fromEnvironment : Option String} (emptied : Emptied given fromEnvironment) :
    resolved given fromEnvironment = none := by
  obtain ⟨rfl, rfl⟩ := emptied
  rfl

namespace Given

variable {own : Given} {environment : Environment}

theorem roots_of_resolved {templates output : Path}
    (single : (own.switches.contains .inputs && own.switches.contains .outputs) = false)
    (first : resolved own.templates environment.templates = some templates)
    (second : resolved own.output environment.output = some output) :
    own.roots environment = .ok ⟨templates, output, own.plan.getD .all⟩ := by
  have firstFull : ¬ Emptied own.templates environment.templates := fun emptied => by
    rw [resolved_of_emptied emptied] at first
    cases first
  have secondFull : ¬ Emptied own.output environment.output := fun emptied => by
    rw [resolved_of_emptied emptied] at second
    cases second
  unfold roots
  rw [chooseDirectory_eq, chooseDirectory_eq, if_neg firstFull, if_neg secondFull, first, second, single]
  rfl

theorem roots_of_unresolved
    (single : (own.switches.contains .inputs && own.switches.contains .outputs) = false)
    (missing : resolved own.templates environment.templates = none ∨
      resolved own.output environment.output = none) :
    own.roots environment = .error
      (if Emptied own.templates environment.templates ∨ Emptied own.output environment.output then
        .invalidValue else .missingOption) := by
  unfold roots
  rw [chooseDirectory_eq, chooseDirectory_eq]
  by_cases first : Emptied own.templates environment.templates
  · rw [if_pos first, if_pos (Or.inl first)]
    rfl
  · by_cases second : Emptied own.output environment.output
    · rw [if_neg first, if_pos second, if_pos (Or.inr second)]
      rfl
    · rw [if_neg first, if_neg second, if_neg (not_or_intro first second), single]
      rcases missing with none | none
      · rw [none]
        rfl
      · rw [none]
        cases resolved own.templates environment.templates <;> rfl

end Given

namespace Selection

variable {selection : Selection} {environment : Environment} {own : Given} {verbose : Bool}

theorem Made.single (made : selection.Made verbose own) :
    (own.switches.contains .inputs && own.switches.contains .outputs) = false := by
  rw [made.switches, made.switches]
  rcases selection.purpose with _ | _ | _ | _ <;> cases verbose <;> rfl

theorem Made.verbose_eq (made : selection.Made verbose own) : own.switches.contains .verbose = verbose := by
  rw [made.switches]
  rcases selection.purpose with _ | _ | _ | _ <;> cases verbose <;> rfl

theorem Made.part (made : selection.Made verbose own) {part : Option Part}
    (files : selection.purpose = .files part) :
    own.switches.contains .inputs = (part == some .inputs) ∧
      own.switches.contains .outputs = (part == some .outputs) := by
  rw [made.switches, made.switches, files]
  rcases part with _ | _ | _ <;> cases verbose <;> exact ⟨rfl, rfl⟩

theorem Made.command (made : selection.Made verbose own) :
    selection.purpose.verb.command own environment =
      (own.roots environment).map selection.purpose.command := by
  rcases purpose : selection.purpose with _ | part
  · rw [Purpose.verb, Verb.command]
    cases own.roots environment <;> rfl
  · obtain ⟨inputs, outputs⟩ := made.part purpose
    rw [Purpose.verb, Verb.command, inputs, outputs]
    cases own.roots environment <;> rfl

theorem parseFrom_verb (purpose : Purpose) (environment : Environment) (given : Given) (rest : List String) :
    parseFrom environment given (purpose.verb.name :: rest) = (do
      let own ← Given.read purpose.verb.accepted {} rest
      let command ← purpose.verb.command own environment
      .ok ⟨given.switches.contains .verbose || own.switches.contains .verbose, command⟩) := by
  cases purpose with
  | generate => rfl
  | files part =>
    have spelled : Lexeme.ofString "files" = .word "files" := Lexeme.ofString_word (by decide)
    rw [Purpose.verb, Verb.name, parseFrom.eq_def]
    simp only [spelled]
    rfl

theorem parse_front {front : List String} (spelled : (Choice.turn .verbose).Spelled front)
    (environment : Environment) (rest : List String) :
    parse environment (front ++ rest) = parseFrom environment { switches := [.verbose] } rest := by
  cases spelled with
  | long => rfl
  | @short _ letter has =>
    cases has
    rfl

/-- After the command, every order and every spelling of the choices makes them all. -/
theorem parseFrom_choices {choices : List Choice} {texts : List (List String)}
    (order : choices.Perm (selection.choices ++ verbosity verbose))
    (spelled : List.Forall₂ Choice.Spelled choices texts) (templates : selection.templates ≠ some "")
    (output : selection.output ≠ some "") (environment : Environment) (given : Given) :
    ∃ own, selection.Made verbose own ∧
      parseFrom environment given (selection.purpose.verb.name :: texts.flatten) =
        (own.roots environment).map fun roots =>
          ⟨given.switches.contains .verbose || verbose, selection.purpose.command roots⟩ := by
  have allowed : ∀ choice ∈ choices, choice.Allowed selection.purpose.verb.accepted :=
    fun choice member => allowed_of_mem templates output (order.mem_iff.mp member)
  have distinct : (([] ++ choices).map Choice.subject).Nodup :=
    (order.map Choice.subject).nodup_iff.mpr (selection.nodup_subjects_verbosity verbose)
  have fresh : ∀ choice, Given.Has {} choice ↔ choice ∈ ([] : List Choice) := by
    rintro (⟨_ | _ | _, value⟩ | switch) <;> simp [Given.Has, Given.value?]
  obtain ⟨own, read, has⟩ := Given.read_choices spelled allowed distinct (Given.settle_of_waiting rfl) fresh
  have made : selection.Made verbose own :=
    made_of_has fun choice => (has choice).trans order.mem_iff
  refine ⟨own, made, ?_⟩
  rw [parseFrom_verb, read]
  simp only [made.verbose_eq, made.command, bind, Except.bind]
  cases own.roots environment <;> rfl

/-- The roots decide whether an argument list is accepted; all else in it is as selected. -/
theorem Worded.parse_eq {arguments : List String} (worded : selection.Worded arguments)
    (templates : selection.templates ≠ some "") (output : selection.output ≠ some "")
    (environment : Environment) :
    ∃ verbose own, selection.Made verbose own ∧
      parse environment arguments =
        (own.roots environment).map fun roots => ⟨selection.verbose, selection.purpose.command roots⟩ := by
  cases worded with
  | after order spelled => exact ⟨_, parseFrom_choices order spelled templates output environment {}⟩
  | before verbose first order spelled =>
    rw [parse_front first, verbose]
    have order := order.trans (List.Perm.of_eq (List.append_nil selection.choices).symm)
    exact ⟨false, parseFrom_choices order spelled templates output environment { switches := [.verbose] }⟩

/-- However a selection is written, each root is the directory that is given or else the one that the
environment has, the plan is the one that is named or else all, and the flags are those that are set.
Where a root is neither given nor had from the environment, nothing is accepted. -/
theorem parse_of_worded {selection : Selection} {arguments : List String}
    (worded : selection.Worded arguments) (givenTemplates : selection.templates ≠ some "")
    (givenOutput : selection.output ≠ some "") (environment : Environment) :
    (∀ templates output, resolved selection.templates environment.templates = some templates →
      resolved selection.output environment.output = some output →
      parse environment arguments =
        .ok ⟨selection.verbose, selection.purpose.command ⟨templates, output, selection.plan.getD .all⟩⟩) ∧
    (resolved selection.templates environment.templates = none ∨
        resolved selection.output environment.output = none →
      parse environment arguments = .error
        (if Emptied selection.templates environment.templates ∨ Emptied selection.output environment.output
          then .invalidValue else .missingOption)) := by
  obtain ⟨verbose, own, made, parsed⟩ := worded.parse_eq givenTemplates givenOutput environment
  rw [parsed, ← made.templates, ← made.output, ← made.plan]
  constructor
  · intro templates output first second
    rw [Given.roots_of_resolved made.single first second]
    rfl
  · intro missing
    rw [Given.roots_of_unresolved made.single missing]
    rfl

/-- The output directory has a blank and comes from the environment; where the environment has an empty
one, what is otherwise the same is rejected. -/
theorem parse_of_worded_environment :
    let selection : Selection := ⟨.files (some .inputs), some "-t=x", none, some .base, true⟩
    let arguments := ["-v", "files", "--plan", "base", "--inputs", "--templates=-t=x"]
    selection.Worded arguments ∧
      parse ⟨some "", some "gen out"⟩ arguments =
        .ok ⟨true, .files ⟨⟨"-t=x"⟩, ⟨"gen out"⟩, .base⟩ true false⟩ ∧
      parse ⟨some "tpl", some ""⟩ arguments = .error .invalidValue := by
  intro selection arguments
  have spelled : List.Forall₂ Choice.Spelled
      [.set .plan "base", .turn .inputs, .set .templates "-t=x"]
      [["--plan", "base"], ["--inputs"], ["--templates=-t=x"]] :=
    .cons (.apart .plan (by decide)) (.cons (.long .inputs) (.cons (.attached .templates "-t=x") .nil))
  have first : (Choice.turn .verbose).Spelled [String.ofList ['-', 'v']] := .short rfl
  have worded : selection.Worded arguments := .before rfl first (by decide) spelled
  have accepted := parse_of_worded worded (by decide) (by decide) ⟨some "", some "gen out"⟩
  have rejected := parse_of_worded worded (by decide) (by decide) ⟨some "tpl", some ""⟩
  exact ⟨worded, accepted.1 ⟨"-t=x"⟩ ⟨"gen out"⟩ rfl rfl, rejected.2 (Or.inr rfl)⟩

end Selection

end Stencil.CommandLine
