import Stencil.Catalog.Plan

namespace Stencil.CommandLine

/-- Why no command is run. Asking for help or for the version counts among the reasons. -/
inductive UsageError where
  | noArguments
  | help
  | version
  | missingCommand
  | unknownCommand
  | unknownArgument
  | conflict
  | unneededValue
  | invalidValue
  | missingOption
deriving DecidableEq, Repr

def UsageError.exitCode : UsageError → Nat
  | help | version => 0
  | _ => 2

structure Roots where
  templates : Path
  output : Path
  plan : Plan
deriving DecidableEq, Repr

inductive Command where
  | generate (roots : Roots)
  | files (roots : Roots) (inputs outputs : Bool)
  | describe (kind : Option String) (json : Bool)
deriving DecidableEq, Repr

structure Invocation where
  verbose : Bool
  command : Command
deriving DecidableEq, Repr

/-- The directories that the environment names. -/
structure Environment where
  templates : Option String := none
  output : Option String := none
deriving DecidableEq, Repr

namespace Environment

def templatesVariable : String :=
  "PRIMGEN_TEMPLATE_DIR"

def outputVariable : String :=
  "PRIMGEN_OUTPUT_DIR"

end Environment

inductive Switch where
  | verbose
  | help
  | version
  | json
  | inputs
  | outputs
deriving DecidableEq, Repr

def Switch.long : Switch → String
  | verbose => "verbose"
  | help => "help"
  | version => "version"
  | json => "json"
  | inputs => "inputs"
  | outputs => "outputs"

def Switch.letter? : Switch → Option Char
  | verbose => some 'v'
  | help => some 'h'
  | version => some 'V'
  | _ => none

inductive Setting where
  | templates
  | output
  | plan
deriving DecidableEq, Repr

def Setting.long : Setting → String
  | templates => "templates"
  | output => "output"
  | plan => "plan"

/-- What may stand in one part of a command line. -/
structure Accepted where
  switches : List Switch
  settings : List Setting := []
  kind : Bool := false
deriving DecidableEq, Repr

inductive Verb where
  | generate
  | files
  | describe
deriving DecidableEq, Repr

namespace Verb

def parse? : String → Option Verb
  | "generate" => some generate
  | "files" => some files
  | "describe" => some describe
  | _ => none

def accepted : Verb → Accepted
  | generate => ⟨[.verbose, .help], [.templates, .output, .plan], false⟩
  | files => ⟨[.verbose, .help, .inputs, .outputs], [.templates, .output, .plan], false⟩
  | describe => ⟨[.verbose, .help, .json], [], true⟩

end Verb

/-- An argument by its form. -/
inductive Lexeme where
  | dashes
  | long (name : String) (value : Option String)
  | short (letters : List Char)
  | word (text : String)
deriving DecidableEq, Repr

/-- A value may be attached to a long name with an equals sign; a single dash is a word. -/
def Lexeme.ofString (argument : String) : Lexeme :=
  match argument.toList with
  | ['-', '-'] => .dashes
  | '-' :: '-' :: rest =>
    let name := String.ofList (rest.takeWhile (· != '='))
    match rest.dropWhile (· != '=') with
    | _ :: value => .long name (some (String.ofList value))
    | [] => .long name none
  | '-' :: letter :: letters => .short (letter :: letters)
  | _ => .word argument

/-- What has been given so far. The setting read last waits for its value, or with its value for
the next argument, before it is looked at. -/
structure Given where
  switches : List Switch := []
  templates : Option String := none
  output : Option String := none
  plan : Option Plan := none
  kind : Option String := none
  waiting : Option (Setting × Option String) := none
deriving DecidableEq, Repr

namespace Given

def assign (given : Given) (setting : Setting) (value : String) : Except UsageError Given :=
  match setting with
  | .templates =>
    if given.templates.isSome then .error .conflict
    else if value.isEmpty then .error .invalidValue
    else .ok { given with templates := some value }
  | .output =>
    if given.output.isSome then .error .conflict
    else if value.isEmpty then .error .invalidValue
    else .ok { given with output := some value }
  | .plan =>
    if given.plan.isSome then .error .conflict
    else
      match Plan.parse? value with
      | some plan => .ok { given with plan := some plan }
      | none => .error .invalidValue

def settle (given : Given) : Except UsageError Given :=
  match given.waiting with
  | none => .ok given
  | some (_, none) => .error .invalidValue
  | some (setting, some value) => { given with waiting := none }.assign setting value

def turnOn (given : Given) (switch : Switch) : Except UsageError Given := do
  let given ← given.settle
  match switch with
  | .help => .error .help
  | .version => .error .version
  | _ =>
    if given.switches.contains switch then .error .conflict
    else .ok { given with switches := given.switches ++ [switch] }

def applyLong (accepted : Accepted) (given : Given) (name : String) (value : Option String) :
    Except UsageError Given :=
  match accepted.switches.find? (·.long == name) with
  | some switch => if value.isSome then .error .unneededValue else given.turnOn switch
  | none =>
    match accepted.settings.find? (·.long == name) with
    | none => .error .unknownArgument
    | some setting => do
      let given ← given.settle
      match value with
      | some attached => given.assign setting attached
      | none => .ok { given with waiting := some (setting, none) }

def applyShort (accepted : Accepted) (given : Given) : List Char → Except UsageError Given
  | [] => .ok given
  | letter :: letters =>
    match accepted.switches.find? (·.letter? == some letter) with
    | some switch => do (← given.turnOn switch).applyShort accepted letters
    | none => .error .unknownArgument

/-- A word that is no value: only the kind of a description may stand alone. -/
def applyWord (accepted : Accepted) (given : Given) (word : String) : Except UsageError Given :=
  if accepted.kind && given.kind.isNone then do
    .ok { (← given.settle) with kind := some word }
  else .error .unknownArgument

def applyLexeme (accepted : Accepted) (given : Given) : Lexeme → Except UsageError Given
  | .dashes => .ok given
  | .long name value => given.applyLong accepted name value
  | .short letters => given.applyShort accepted letters
  | .word text =>
    match given.waiting with
    | some (setting, none) => .ok { given with waiting := some (setting, some text) }
    | _ => given.applyWord accepted text

/-- Reads the arguments of a command. After two dashes all are words. -/
def read (accepted : Accepted) (given : Given) : List String → Except UsageError Given
  | [] => given.settle
  | argument :: rest =>
    match Lexeme.ofString argument with
    | .dashes => do (← rest.foldlM (applyWord accepted) given).settle
    | lexeme => do (← given.applyLexeme accepted lexeme).read accepted rest

end Given

/-- A directory as given, or else as the environment has it. -/
def chooseDirectory (given fromEnvironment : Option String) : Except UsageError (Option Path) :=
  match given, fromEnvironment with
  | some directory, _ => .ok (some ⟨directory⟩)
  | none, some directory => if directory.isEmpty then .error .invalidValue else .ok (some ⟨directory⟩)
  | none, none => .ok none

/-- Values are checked before conflicts, and conflicts before what is missing. -/
def Given.roots (given : Given) (environment : Environment) : Except UsageError Roots := do
  let templates ← chooseDirectory given.templates environment.templates
  let output ← chooseDirectory given.output environment.output
  if given.switches.contains .inputs && given.switches.contains .outputs then .error .conflict
  else
    match templates, output with
    | some templates, some output => .ok ⟨templates, output, given.plan.getD .all⟩
    | _, _ => .error .missingOption

def Verb.command (verb : Verb) (given : Given) (environment : Environment) :
    Except UsageError Command := do
  match verb with
  | generate => .ok (.generate (← given.roots environment))
  | files =>
    .ok (.files (← given.roots environment) (given.switches.contains .inputs)
      (given.switches.contains .outputs))
  | describe => .ok (.describe given.kind (given.switches.contains .json))

/-- Words after `help` name a command, at most one. -/
def helpTopic : List String → UsageError
  | [] => .help
  | [topic] => if topic == "help" || (Verb.parse? topic).isSome then .help else .unknownCommand
  | _ => .unknownCommand

def beforeVerb : Accepted where
  switches := [.verbose, .help, .version]

/-- Reads what stands before the command, and then the command with what follows it. The verbose
switch may stand on either side. -/
def parseFrom (environment : Environment) (given : Given) : List String → Except UsageError Invocation
  | [] => .error (if given.switches.isEmpty then .noArguments else .missingCommand)
  | argument :: rest =>
    match Lexeme.ofString argument with
    | .dashes =>
      match rest with
      | [] => .error (if given.switches.isEmpty then .noArguments else .missingCommand)
      | word :: _ =>
        .error (if word == "help" || (Verb.parse? word).isSome then .unknownArgument else .unknownCommand)
    | .word text =>
      match Verb.parse? text with
      | some verb => do
        let own ← Given.read verb.accepted {} rest
        let command ← verb.command own environment
        .ok ⟨given.switches.contains .verbose || own.switches.contains .verbose, command⟩
      | none => .error (if text == "help" then helpTopic rest else .unknownCommand)
    | lexeme => do parseFrom environment (← given.applyLexeme beforeVerb lexeme) rest

def parse (environment : Environment) (arguments : List String) : Except UsageError Invocation :=
  parseFrom environment {} arguments

end Stencil.CommandLine
