import Stencil.Engine
import Stencil.Entries
import Stencil.Template.Filters

namespace Stencil.Template

/-- What a loop that may be run inside of itself does with the items that it is given. -/
structure Recursion where
  target : Target
  body : List Stmt
  line : Nat

/-- A loop with the items around the place that it has come to. It may not know how many items there
are, and it outlives its last item. -/
structure LoopState where
  steps : Nat := 0
  length : Option Nat
  depth : Nat := 0
  previous : Option Value := none
  current : Option Value := none
  next : Option Value := none
  /-- The values that it was last asked about whether they have changed. -/
  compared : Option (List Value) := none
  recursion : Option Recursion := none

/-- The values that a frame starts from. -/
inductive Base where
  | empty
  | model (entries : List (Value × Value))
  | closure (id : Nat)

/-- One scope of names. What macros defined in it have taken from around them is kept in its
closure and follows later assignments. -/
structure Frame where
  locals : Entries Value := []
  loop : Option Nat := none
  base : Base := .empty
  closure : Option Nat := none

/-- A macro as it was defined, with the closure for its free names. -/
structure Procedure where
  parameters : List String
  defaults : List Expr
  body : List Stmt
  closure : Nat
  template : String
  usesCaller : Bool := false

/-- Where written text goes: it is kept, or it is dropped. -/
inductive Sink where
  | keep (text : String)
  | drop

/-- The bodies of a block, that of the template rendered first and those it overrides, each with
the name of its template. The layer says how many have been passed by asking for the parent's. -/
structure BlockStack where
  bodies : List (String × List Stmt)
  layer : Nat := 0

/-- The state of a rendering. Frames and sinks stand innermost first. -/
structure State where
  frames : List Frame
  outerDepth : Nat := 0
  template : String
  sinks : List Sink := [.keep ""]
  parent : Option Template := none
  loaded : List String := []
  blocks : Entries BlockStack := []
  currentBlock : Option String := none
  closures : Array (Entries Value) := #[]
  loops : Array LoopState := #[]
  spaces : Array (Entries Value) := #[]
  procedures : Array Procedure := #[]

def Sink.write (text : String) : Sink → Sink
  | keep held => keep (held ++ text)
  | drop => drop

/-- The text that was kept. Nothing is known of text that was dropped. -/
def Sink.value : Sink → Value
  | keep text => .text text
  | drop => .undefined false

namespace LoopState

def index (loop : LoopState) : Nat :=
  loop.steps - 1

/-- Goes on to an item, or past the last one. -/
def advance (loop : LoopState) (item next : Option Value) : LoopState :=
  { loop with steps := loop.steps + 1, previous := loop.current, current := item, next := next }

def fields (loop : LoopState) : List (String × Value) :=
  let known (value : Nat → Nat) : Value :=
    match loop.length with
    | some length => .integer (value length)
    | none => .undefined false
  let item (value : Option Value) : Value := value.getD (.undefined false)
  [("index0", .integer loop.index),
    ("index", .integer (loop.index + 1)),
    ("length", known id),
    ("revindex", known (· - loop.index)),
    ("revindex0", known (· - loop.index - 1)),
    ("first", .flag (loop.index == 0)),
    ("last", .flag (loop.length == some (loop.index + 1))),
    ("depth", .integer (loop.depth + 1)),
    ("depth0", .integer loop.depth),
    ("previtem", item loop.previous),
    ("nextitem", item loop.next)]

def printed (loop : LoopState) : String :=
  "<loop " ++ toString loop.index ++ "/" ++ ((loop.length.map toString).getD "?") ++ ">"

end LoopState

def Procedure.fields (procedure : Procedure) (name : String) : List (String × Value) :=
  [("name", .text name),
    ("arguments", .list (procedure.parameters.map .text)),
    ("caller", .flag procedure.usesCaller)]

namespace State

/-- Scopes, macros and included templates may not be nested deeper than this. -/
def maxDepth : Nat := 500

def macroCost : Nat := 4

def embedCost : Nat := 10

def depth (state : State) : Nat :=
  state.outerDepth + state.frames.length

/-- A macro, a loop or a name space as the map of what it holds at the moment. -/
def view (state : State) : Value → Value
  | .closure id name =>
    match state.procedures[id]? with
    | some procedure => .ofFields (procedure.fields name) ("<macro " ++ name ++ ">")
    | none => .map []
  | .loop id =>
    match state.loops[id]? with
    | some loop => .ofFields loop.fields loop.printed
    | none => .map []
  | .space id => .ofPairs (state.spaces[id]?.getD [])
  | value => value

/-- A value with what it refers to in its place, down to a depth. -/
def expandTo (state : State) : Nat → Value → Value
  | 0, value => value
  | depth + 1, value =>
    match state.view value with
    | .list items => .list (items.map (state.expandTo depth))
    | .stream items => .stream (items.map (state.expandTo depth))
    | .map entries => .map (entries.map fun (key, held) => (key, state.expandTo depth held))
    | .object entries printed =>
      .object (entries.map fun (key, held) => (key, state.expandTo depth held)) printed
    | value => value

/-- Values that refer to one another are unfolded so many times. -/
def expandDepth : Nat := 8

def expand (state : State) (value : Value) : Value :=
  if value.refers then state.expandTo expandDepth value else value

/-- The innermost loop that is going on. -/
def currentLoop (state : State) : Option LoopState := do
  state.loops[← state.frames.findSome? (·.loop)]?

/-- The values that the outermost frame starts from, which are those of the model. -/
def outermostBase (state : State) : Base :=
  (state.frames.getLast?.map (·.base)).getD .empty

def lookupBase (state : State) (name : String) : Base → Option Value
  | .empty => none
  | .model entries => Value.valueAt? (.text name) entries
  | .closure id => (state.closures[id]?.getD []).find? name

def lookupFrame (state : State) (name : String) (frame : Frame) : Option Value :=
  match frame.locals.find? name with
  | some value => some value
  | none =>
    match frame.loop with
    | some id => if name = "loop" then some (.loop id) else state.lookupBase name frame.base
    | none => state.lookupBase name frame.base

def global? : String → Option Value
  | "range" => some (.builtin .range)
  | "namespace" => some (.builtin .space)
  | _ => none

/-- A name is looked for from the innermost frame outwards and then among the functions that
every template has. -/
def lookup (state : State) (name : String) : Option Value :=
  (state.frames.findSome? (state.lookupFrame name)).or (global? name)

/-- Gives a name a value in the innermost frame and in that frame's closure. -/
def store (state : State) (name : String) (value : Value) : State :=
  match state.frames with
  | [] => state
  | frame :: outer =>
    let closures :=
      match frame.closure with
      | some id => state.closures.modify id (·.insert name value)
      | none => state.closures
    { state with
      frames := { frame with locals := frame.locals.insert name value } :: outer
      closures := closures }

/-- The closure of the innermost frame, made on first demand. -/
def withClosure (state : State) : Nat × State :=
  match state.frames with
  | [] => (0, state)
  | frame :: outer =>
    match frame.closure with
    | some id => (id, state)
    | none =>
      let id := state.closures.size
      (id, { state with
        frames := { frame with closure := some id } :: outer
        closures := state.closures.push [] })

/-- Takes a name into the closure of the innermost frame, unless it is there. A name that nothing
is known by is taken as undefined. -/
def enclose (state : State) (name : String) : State :=
  let (id, state) := state.withClosure
  let value := (state.lookup name).getD (.undefined false)
  { state with
    closures := state.closures.modify id fun held =>
      if (held.find? name).isSome then held else held.insert name value }

def popFrame (state : State) : State :=
  { state with frames := state.frames.drop 1 }

/-- The innermost frame as it is when an item of a loop has not been looked at yet. -/
def clearScope (state : State) : State :=
  match state.frames with
  | [] => state
  | frame :: outer => { state with frames := { frame with locals := [], closure := none } :: outer }

def write (state : State) (text : String) : State :=
  { state with
    sinks :=
      match state.sinks with
      | [] => []
      | sink :: outer => sink.write text :: outer }

def isDiscarding (state : State) : Bool :=
  match state.sinks with
  | .drop :: _ => true
  | _ => false

/-- The text that was written where no sink had been opened. -/
def output (state : State) : String :=
  match state.sinks.getLast? with
  | some (.keep text) => text
  | _ => ""

/-- Puts the blocks of a parent below those that override them. -/
def addBlocks (state : State) (template : Template) : State :=
  { state with
    blocks := template.blocks.foldl
      (fun blocks (name, body) =>
        let held := (blocks.find? name).getD ⟨[], 0⟩
        blocks.insert name { held with bodies := held.bodies ++ [(template.name, body)] })
      state.blocks }

end State

/-- A step of a rendering: it changes the state, may ask for templates, and may fail. -/
def Eval (α : Type) : Type :=
  State → Rendering Template (Except Error (α × State))

namespace Eval

variable {α β : Type}

def pure (value : α) : Eval α :=
  fun state => .done (.ok (value, state))

def bind (step : Eval α) (next : α → Eval β) : Eval β :=
  fun state => (step state).bind fun
    | .ok (value, state) => next value state
    | .error error => .done (.error error)

instance : Monad Eval where
  pure := Eval.pure
  bind := Eval.bind

def get : Eval State :=
  fun state => .done (.ok (state, state))

def modify (change : State → State) : Eval Unit :=
  fun state => .done (.ok ((), change state))

def raise (error : Error) : Eval α :=
  fun _ => .done (.error error)

/-- Fails on a line of the template that is being rendered. -/
def fail (kind : ErrorKind) (line : Nat) : Eval α :=
  fun state => .done (.error ⟨kind, none, some ⟨state.template, line⟩⟩)

def ofResult (line : Nat) : Result α → Eval α
  | .ok value => pure value
  | .error kind => fail kind line

/-- Puts another error in the place of one that a step fails with. -/
def replaceError (step : Eval α) (error : Error) : Eval α :=
  fun state => (step state).bind fun
    | .ok result => .done (.ok result)
    | .error _ => .done (.error error)

/-- Gives an error that comes without a position the line that a step is taken from. -/
def positioned (line : Nat) (step : Eval α) : Eval α :=
  fun state => (step state).bind fun
    | .ok result => .done (.ok result)
    | .error error => .done (.error (error.orAt ⟨state.template, line⟩))

/-- A template by name, or why there is none. -/
def template (name : String) : Eval (Except Error Template) :=
  fun state => .load name fun answer => .done (.ok (answer, state))

def position (line : Nat) : Eval Position :=
  fun state => .done (.ok (⟨state.template, line⟩, state))

/-- Refuses to go deeper than the limit. -/
def checkDepth (depth line : Nat) : Eval Unit :=
  if depth > State.maxDepth then fail .invalidOperation line else pure ()

/-- Runs a step in a frame of its own. -/
def inFrame (frame : Frame) (line : Nat) (step : Eval α) : Eval α := do
  checkDepth (← get).depth line
  modify fun state => { state with frames := frame :: state.frames }
  let result ← step
  modify State.popFrame
  return result

def openSink (sink : Sink) : Eval Unit :=
  modify fun state => { state with sinks := sink :: state.sinks }

/-- Closes the innermost sink, which need not be the one that was opened last. -/
def closeSink : Eval Value := do
  match (← get).sinks with
  | [] => return .undefined false
  | sink :: outer =>
    modify fun state => { state with sinks := outer }
    return sink.value

/-- Runs a step and keeps what it writes from the output. -/
def captured (sink : Sink) (step : Eval α) : Eval (α × Value) := do
  openSink sink
  let result ← step
  return (result, ← closeSink)

def truth (value : Value) (line : Nat) : Eval Bool := do
  if value.isMissing then fail .undefinedValue line
  else return ((← get).view value).isTrue

end Eval

end Stencil.Template
