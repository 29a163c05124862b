import Stencil.Template.FreeNames
import Stencil.Template.State

namespace Stencil.Template

/-- What an evaluation needs besides the tree it goes through: running the bodies of macros, of
blocks, of other templates, and of the loop that is going on. -/
structure Bodies where
  /-- Calls a macro from a line. -/
  invoke : Nat → Nat → List Value → Eval Value
  /-- Runs the current body of a block. -/
  block : String → Eval Unit
  /-- Runs a template, and then the ones it inherits from. -/
  template : Template → Eval Unit
  /-- Runs a loop once more, inside of itself. -/
  again : Recursion → Value → Eval Unit

namespace Eval

/-- Entries as named arguments. Only texts are names. -/
def spreadEntries (entries : List (Value × Value)) : List (String × Value) :=
  entries.filterMap fun (key, value) =>
    match key with
    | .text name => some (name, value)
    | _ => none

/-- The named arguments of a call, in the order in which they were worked out. -/
def namedValues (line : Nat) : List (ArgumentRole × Value) → Eval (List (String × Value))
  | [] => return []
  | (.named name, value) :: rest => return (name, value) :: (← namedValues line rest)
  | (_, value) :: rest => do
    if value.isMissing then fail .undefinedValue line
    match (← get).view value with
    | .map entries | .object entries _ => return spreadEntries entries ++ (← namedValues line rest)
    | .named arguments => return arguments ++ (← namedValues line rest)
    | _ => fail .invalidOperation line

/-- The arguments of a call without names. -/
def plainValues (line : Nat) : List (ArgumentRole × Value) → Eval (List Value)
  | [] => return []
  | (.spread, value) :: rest => do
    match ((← get).view value).items? with
    | some items => return items ++ (← plainValues line rest)
    | none => fail .invalidOperation line
  | (_, value) :: rest => return value :: (← plainValues line rest)

/-- All arguments of a call. Those with names stand behind the others, as one. -/
def argumentValues (line : Nat) (plain named : List (ArgumentRole × Value)) : Eval (List Value) := do
  if named.isEmpty then plainValues line plain
  else
    let entries ← namedValues line named
    return (← plainValues line plain) ++ [.named (Entries.ofInsertions entries)]

/-- Runs the body of a block that is asked for, unless the template only defines it for another. -/
def callBlock (bodies : Bodies) (line : Nat) (name : String) : Eval Unit := do
  let state ← get
  if state.parent.isSome || state.isDiscarding then return ()
  else if (state.blocks.find? name).isNone then fail .unknownBlock line
  else
    checkDepth state.depth line
    bodies.block name

/-- Asks the parent's body of the block that is being run to run, and gives what it writes. -/
def callSuper (bodies : Bodies) (line : Nat) : Eval Value := do
  let state ← get
  match state.currentBlock with
  | none => fail .invalidOperation line
  | some name =>
    match state.blocks.find? name with
    | none => fail .invalidOperation line
    | some stack =>
      if stack.layer + 1 < stack.bodies.length then
        let layer (layer : Nat) := modify fun state =>
          { state with
            blocks := state.blocks.insert name
              { (state.blocks.find? name).getD stack with layer := layer } }
        layer (stack.layer + 1)
        checkDepth state.depth line
        let error : Error := ⟨.badBlock, none, some ⟨state.template, line⟩⟩
        let ((), text) ← captured (.keep "") (replaceError (bodies.block name) error)
        layer stack.layer
        return text
      else fail .invalidOperation line

/-- Runs the loop that is going on once more, inside of itself. -/
def callLoop (bodies : Bodies) (line : Nat) (items : Value) : Eval Unit := do
  match (← get).currentLoop with
  | none => fail .unknownFunction line
  | some loop =>
    match loop.recursion with
    | none => fail .invalidOperation line
    | some recursion => bodies.again recursion items

def callValue (bodies : Bodies) (line : Nat) (callee : Value) (arguments : List Value) :
    Eval Value := do
  let state ← get
  match callee with
  | .helper helper => ofResult line (callHelper helper (arguments.map state.expand))
  | .builtin .range => ofResult line (Builtin.callRange arguments)
  | .builtin .space =>
    let fields ← ofResult line (Builtin.spaceFields (arguments.map state.view))
    modify fun state => { state with spaces := state.spaces.push (Entries.ofInsertions fields) }
    return .space state.spaces.size
  | .closure id _ => positioned line (bodies.invoke line id arguments)
  | .loop _ => fail .unknownFunction line
  | _ => fail .invalidOperation line

/-- Calls what goes by a name. A loop is called with what it is to go through, and gives what it
writes on the way. -/
def callFunction (bodies : Bodies) (line : Nat) (name : String) (arguments : List Value) :
    Eval Value := do
  if name = "super" then
    if arguments.isEmpty then callSuper bodies line else fail .invalidOperation line
  else
    match (← get).lookup name with
    | none => fail .unknownFunction line
    | some (.loop id) =>
      match name, arguments with
      | "loop", [items] => return (← captured (.keep "") (callLoop bodies line items)).2
      | "loop", _ => fail .invalidOperation line
      | _, _ => callValue bodies line (.loop id) arguments
    | some callee => callValue bodies line callee arguments

/-- The questions that a loop answers: whether values differ from those it was asked about last, and
which of some values has its turn. -/
def callLoopMethod (line id : Nat) (name : String) (arguments : List Value) : Eval Value := do
  let state ← get
  match state.loops[id]?, name with
  | some loop, "changed" =>
    let arguments := arguments.map state.expand
    let changed := !((loop.compared.map fun held => Value.sameAll held arguments).getD false)
    if changed then
      modify fun state =>
        { state with
          loops := state.loops.modify id fun loop => { loop with compared := some arguments } }
    return .flag changed
  | some loop, "cycle" => return (arguments[loop.index % arguments.length]?).getD (.undefined false)
  | _, _ => fail .unknownMethod line

def callMethod (bodies : Bodies) (line : Nat) (receiver : Value) (name : String)
    (arguments : List Value) : Eval Value := do
  if receiver.isUndefined then fail .undefinedValue line
  else
    match receiver with
    | .loop id => callLoopMethod line id name arguments
    | receiver =>
      match ((← get).view receiver).field? name with
      | some callee => callValue bodies line callee arguments
      | none => fail .unknownMethod line

def applyFilter (line : Nat) (name : String) (value : Value) (arguments : List Value) :
    Eval Value := do
  let state ← get
  if name = "default" then
    ofResult line (Filter.default value (state.view value).isTrue arguments)
  else
    let shown := if Filter.keepsItems name then state.view value else state.expand value
    ofResult line (Filter.apply state.expand name shown (arguments.map state.expand))

mutual
def expr (bodies : Bodies) : Expr → Eval Value
  | .absent => return .undefined true
  | .literal value _ => return value.value
  | .constant value _ => return value
  | .name name _ => do return ((← get).lookup name).getD (.undefined false)
  | .list items _ => do return .list (← exprs bodies items)
  | .map pairs _ => do return .map (← entries bodies [] pairs)
  | .negate operand => do
    let value ← expr bodies operand
    ofResult operand.line value.negate
  | .not operand => do
    let value ← expr bodies operand
    return .flag !(← truth value operand.line)
  | .binary op left right => do
    let a ← expr bodies left
    let b ← expr bodies right
    let state ← get
    ofResult (right.lineAfter left.line) (Value.binary op (state.expand a) (state.expand b))
  | .compare first rest => do
    let value ← expr bodies first
    return .flag (← comparisons bodies first.line value rest)
  | .both left right => do
    let a ← expr bodies left
    if ← truth a left.line then expr bodies right else return a
  | .either left right => do
    let a ← expr bodies left
    if ← truth a left.line then return a else expr bodies right
  | .choice value condition otherwise => do
    let chosen ← expr bodies condition
    if ← truth chosen condition.line then expr bodies value else expr bodies otherwise
  | .field target name => do
    let value ← expr bodies target
    if value.isUndefined then fail .undefinedValue target.line
    else return (((← get).view value).field? name).getD (.undefined false)
  | .item target index => do
    let value ← expr bodies target
    let key ← expr bodies index
    if value.isUndefined then fail .undefinedValue (index.lineAfter target.line)
    else return (((← get).view value).item? key).getD (.undefined false)
  | .slice target start stop step => do
    let value ← expr bodies target
    let bound (given : Expr) (value : Value) : Value :=
      match given with
      | .absent => .none
      | _ => value
    let first ← expr bodies start
    let last ← expr bodies stop
    let distance ← expr bodies step
    let line := (Expr.slice target start stop step).line
    if value.isUndefined then fail .undefinedValue line
    else ofResult line (value.slice (bound start first) (bound stop last) (bound step distance))
  | .filter target name given => do
    let value ← expr bodies target
    let plain ← arguments bodies false given
    let named ← arguments bodies true given
    let line := (Expr.filter target name given).line
    applyFilter line name value (← argumentValues line plain named)
  | .test target name given => do
    let value ← expr bodies target
    let plain ← arguments bodies false given
    let named ← arguments bodies true given
    let line := (Expr.test target name given).line
    let arguments ← argumentValues line plain named
    let state ← get
    let holds ← ofResult line (Test.apply name (state.view value) (arguments.map state.view))
    return .flag holds
  | .call (.name name nameLine) given line => do
    let plain ← arguments bodies false given
    let named ← arguments bodies true given
    let line := (Expr.call (.name name nameLine) given line).line
    callFunction bodies line name (← argumentValues line plain named)
  | .call (.field (.name "self" _) name) _ line => do
    return (← captured (.keep "") (callBlock bodies line name)).2
  | .call (.field target name) given line => do
    let value ← expr bodies target
    let plain ← arguments bodies false given
    let named ← arguments bodies true given
    let line := (Expr.call (.field target name) given line).line
    callMethod bodies line value name (← argumentValues line plain named)
  | .call callee given line => do
    let value ← expr bodies callee
    let plain ← arguments bodies false given
    let named ← arguments bodies true given
    let line := (Expr.call callee given line).line
    callValue bodies line value (← argumentValues line plain named)

/-- Whether all comparisons in a row hold. What stands behind one that does not is not looked at. -/
def comparisons (bodies : Bodies) (line : Nat) (left : Value) :
    List (Comparison × Expr) → Eval Bool
  | [] => return true
  | (comparison, operand) :: rest => do
    let right ← expr bodies operand
    let line := operand.lineAfter line
    let state ← get
    if ← ofResult line (Value.holds comparison (state.expand left) (state.expand right)) then
      comparisons bodies line right rest
    else return false

/-- The arguments that are named, or those that are not. -/
def arguments (bodies : Bodies) (named : Bool) :
    List (ArgumentRole × Expr) → Eval (List (ArgumentRole × Value))
  | [] => return []
  | (role, first) :: rest => do
    if role.isNamed == named then
      let value ← expr bodies first
      return (role, value) :: (← arguments bodies named rest)
    else arguments bodies named rest

def exprs (bodies : Bodies) : List Expr → Eval (List Value)
  | [] => return []
  | first :: rest => do
    let value ← expr bodies first
    return value :: (← exprs bodies rest)

def entries (bodies : Bodies) (read : List (Value × Value)) :
    List (Expr × Expr) → Eval (List (Value × Value))
  | [] => return read
  | (keyExpr, valueExpr) :: rest => do
    let key ← expr bodies keyExpr
    let value ← expr bodies valueExpr
    entries bodies (Value.insertEntry key value read) rest
end

/-- Applies filters behind one another, from the line on that was read last. -/
def applyFilters (bodies : Bodies) (line : Nat) (value : Value) : List AppliedFilter → Eval Value
  | [] => return value
  | ⟨name, given, _⟩ :: rest => do
    let plain ← arguments bodies false given
    let named ← arguments bodies true given
    let positional := lineAfterRole false line given
    let line := if namedAreLiteral given then positional else lineAfterRole true positional given
    let value ← applyFilter line name value (← argumentValues line plain named)
    applyFilters bodies line value rest

mutual
def assign (bodies : Bodies) (value : Value) : Target → Eval Unit
  | .name name => modify fun state => state.store name value
  | .field target name => do
    match ← expr bodies target with
    | .space id =>
      modify fun state => { state with spaces := state.spaces.modify id (·.insert name value) }
    | _ => fail .invalidOperation target.line
  | .unpack targets line => do
    match ((← get).view value).elements? with
    | some items =>
      if items.length = targets.length then assignAll bodies items targets
      else fail .cannotUnpack line
    | none => fail .cannotUnpack line

def assignAll (bodies : Bodies) (values : List Value) : List Target → Eval Unit
  | [] => return ()
  | target :: targets =>
    match values with
    | [] => return ()
    | value :: values => do
      assign bodies value target
      assignAll bodies values targets
end

/-- What a loop goes through. A missing value is not gone through. -/
def iterated (value : Value) (line : Nat) : Eval (List Value) := do
  if value.isMissing then fail .undefinedValue line
  else
    match ((← get).view value).items? with
    | some items => return items
    | none => fail .invalidOperation line

/-- How many items a loop finds in a value. A text is gone through without being measured. -/
def measured (value : Value) (items : List Value) : Option Nat :=
  match value with
  | .text _ => none
  | _ => some items.length

/-- The items for which a condition holds, all looked at before the loop begins. -/
def selected (bodies : Bodies) (target : Target) (condition : Expr) :
    List Value → Eval (List Value)
  | [] => return []
  | item :: rest => do
    assign bodies item target
    let holds ← truth (← expr bodies condition) condition.line
    let others ← selected bodies target condition rest
    return if holds then item :: others else others

/-- Goes through items, each in a scope that is empty at first, and past the last one. -/
def eachItem (id : Nat) (body : Value → Eval Unit) : List Value → Eval Unit
  | [] => modify fun state => { state with loops := state.loops.modify id (·.advance none none) }
  | item :: rest => do
    modify fun state =>
      { state.clearScope with loops := state.loops.modify id (·.advance (some item) rest.head?) }
    body item
    eachItem id body rest

/-- Runs a loop. Only inside of a loop that may be run again it counts as deeper. -/
def runLoop (line : Nat) (recursion : Option Recursion) (length : Option Nat) (items : List Value)
    (body : Value → Eval Unit) : Eval Unit := do
  let state ← get
  let depth :=
    match state.currentLoop with
    | some outer => if outer.recursion.isSome then outer.depth + 1 else 0
    | none => 0
  let loop : LoopState := { length := length, depth := depth, recursion := recursion }
  modify fun state => { state with loops := state.loops.push loop }
  inFrame { loop := some state.loops.size } line (eachItem state.loops.size body items)

/-- The template that is found first among some names. -/
def firstTemplate (line : Nat) : List Value → Eval (Option Template)
  | [] => return none
  | name :: rest => do
    match name with
    | .text name =>
      match ← template name with
      | .ok found => return some found
      | .error error =>
        if error.kind = .templateNotFound then firstTemplate line rest
        else raise (error.orAt (← position line))
    | _ => fail .invalidOperation line

/-- The names that an include means: one text, or all items of a collection. A function means
none. -/
def templateNames (value : Value) : List Value :=
  match value with
  | .helper _ | .builtin _ => []
  | value => value.elements?.getD [value]

/-- Runs another template in the current frame, with blocks of its own. -/
def embed (bodies : Bodies) (name : Value) (ignoreMissing : Bool) (line : Nat) : Eval Unit := do
  let names := templateNames ((← get).view name)
  match ← firstTemplate line names with
  | none => if names.isEmpty || ignoreMissing then return () else fail .templateNotFound line
  | some found =>
    let outer ← get
    if State.maxDepth < outer.depth + State.embedCost then
      raise ⟨.invalidOperation, none, found.lastLine.map fun line => ⟨found.name, line⟩⟩
    let closure := outer.frames.head?.bind (·.closure)
    let setClosure (closure : Option Nat) := modify fun state =>
      match state.frames with
      | [] => state
      | frame :: frames => { state with frames := { frame with closure := closure } :: frames }
    setClosure none
    modify fun state =>
      { state with blocks := [], outerDepth := outer.outerDepth + State.embedCost }
    modify (·.addBlocks found)
    let error : Error := ⟨.badInclude, none, some ⟨outer.template, line⟩⟩
    replaceError (bodies.template found) error
    setClosure closure
    modify fun state =>
      { state with
        blocks := outer.blocks, outerDepth := outer.outerDepth, template := outer.template
        loaded := outer.loaded }

/-- What an imported template has assigned, with the text that it wrote. -/
def importAll (bodies : Bodies) (name : Expr) (line : Nat) : Eval Value := do
  let (exports, printed) ← captured (.keep "") <| inFrame {} line do
    embed bodies (← expr bodies name) false line
    return ((← get).frames.head?.map (·.locals)).getD []
  return .ofFields exports printed.display

/-- Values by name out of an imported template; a name it has not assigned has the value that it
has outside. -/
def importNames (bodies : Bodies) (template : Expr) (names : List Expr) (line : Nat) :
    Eval (List Value) := do
  let (values, _) ← captured .drop <| inFrame {} line do
    embed bodies (← expr bodies template) false line
    exprs bodies names
  return values

/-- Goes on with a parent template once the body that names it has been run, without writing anything
before. -/
def inherit (name : Value) (line : Nat) : Eval Unit := do
  let state ← get
  if state.parent.isSome then fail .invalidOperation line
  else
    match name with
    | .text name =>
      if state.loaded.contains name then fail .invalidOperation line
      else
        match ← template name with
        | .error error => raise (error.orAt (← position line))
        | .ok parent =>
          modify fun state =>
            { state.addBlocks parent with
              loaded := name :: state.loaded, parent := some parent
              sinks := .drop :: state.sinks }
    | _ => fail .invalidOperation line

/-- Defines a macro in the innermost frame. -/
def define (name : String) (parameters : List String) (defaults : List Expr) (body : List Stmt) :
    Eval Unit :=
  modify fun state =>
    let state := (freeNames parameters defaults body).foldl State.enclose state
    let (closure, state) := state.withClosure
    let id := state.procedures.size
    let usesCaller := (usedNames parameters defaults body).contains callerName
    let procedure : Procedure :=
      ⟨parameters, defaults, body, closure, state.template, usesCaller⟩
    { state with procedures := state.procedures.push procedure }.store name (.closure id name)

mutual
def stmt (bodies : Bodies) : Stmt → Eval Unit
  | .text content => modify (·.write content)
  | .output (.call (.name "loop" _) [(.single, items)] line) => do
    let value ← expr bodies items
    callLoop bodies (items.lineAfter line) value
  | .output (.call (.field (.name "self" _) name) _ line) => callBlock bodies line name
  | .output value => do
    let printed ← expr bodies value
    if printed.isMissing then fail .undefinedValue value.line
    else modify fun state => state.write (state.expand printed).display
  | .branch condition body otherwise => do
    let chosen ← expr bodies condition
    if ← truth chosen condition.line then stmts bodies body else stmts bodies otherwise
  | .forEach target items condition recursive body otherwise => do
    let value ← expr bodies items
    let all ← iterated value items.line
    let line := items.line
    let step (item : Value) : Eval Unit := do
      assign bodies item target
      stmts bodies body
    let recursion := if recursive then some ⟨target, body, line⟩ else none
    match condition with
    | none =>
      runLoop line recursion (measured value all) all step
      if all.isEmpty then stmts bodies otherwise
    | some condition =>
      let chosen ← inFrame {} line (selected bodies target condition all)
      runLoop line recursion (some chosen.length) chosen step
      if chosen.isEmpty then stmts bodies otherwise
  | .assign target value => do
    let value ← expr bodies value
    assign bodies value target
  | .capture target filters body => do
    let ((), text) ← captured (.keep "") (stmts bodies body)
    let line := (filters.head?.map AppliedFilter.line).getD 0
    assign bodies (← applyFilters bodies line text filters) target
  | .within bindings body line =>
    inFrame {} line do
      bindings.forM fun (target, value) => do
        let value ← expr bodies value
        assign bodies value target
      stmts bodies body
  | .define name parameters defaults body => define name parameters defaults body
  | .block name line => callBlock bodies line name
  | .embed template ignoreMissing line => do
    let name ← expr bodies template
    embed bodies name ignoreMissing line
  | .importAll template target line => do
    let value ← importAll bodies template line
    assign bodies value target
  | .importNames template names line => do
    let values ← importNames bodies template (names.map (·.1)) line
    modify fun state =>
      ((names.map (·.2)).zip values).reverse.foldl (fun state (name, value) => state.store name value) state
  | .inherit template line => do
    let name ← expr bodies template
    inherit name line

def stmts (bodies : Bodies) : List Stmt → Eval Unit
  | [] => return ()
  | first :: rest => do
    stmt bodies first
    stmts bodies rest
end

/-- The values of a macro's parameters. Arguments are taken by position first and then by name;
what is missing is undefined. -/
def parameterValues (procedure : Procedure) (arguments : List Value) :
    Result (List (String × Value) × Option Value) :=
  let (positional, named) :=
    match arguments.getLast? with
    | some (.named named) => (arguments.dropLast, named)
    | _ => (arguments, [])
  let parameters := procedure.parameters
  let isKnown (name : String) : Bool :=
    parameters.contains name || (procedure.usesCaller && name == callerName)
  if positional.length > parameters.length then .error .tooManyArguments
  else if (parameters.take positional.length).any fun name => (named.lookup name).isSome then
    .error .tooManyArguments
  else if named.any fun (name, _) => !isKnown name then .error .tooManyArguments
  else
    let given (name : String) : Value := (named.lookup name).getD (.undefined false)
    let missing := (parameters.drop positional.length).map given
    let caller := if procedure.usesCaller then some (given callerName) else none
    .ok (parameters.zip (positional ++ missing), caller)

/-- Gives parameters their values from the last one to the first. A default is worked out where
the value is undefined, and can see the parameters behind its own. -/
def bindParameters (bodies : Bodies) : List (String × Value) → List Expr → Eval Unit
  | [], _ => return ()
  | (name, value) :: rest, [] => do
    modify (·.store name value)
    bindParameters bodies rest []
  | (name, value) :: rest, default :: defaults => do
    let value ← if value.isUndefined then expr bodies default else pure value
    modify (·.store name value)
    bindParameters bodies rest defaults

/-- Runs a macro in a context of its own: its closure above the model, and nothing else of where it
is called. -/
def invoke (bodies : Bodies) (line id : Nat) (arguments : List Value) : Eval Value := do
  let outer ← get
  match outer.procedures[id]? with
  | none => fail .invalidOperation line
  | some procedure =>
    let (values, caller) ← ofResult line (parameterValues procedure arguments)
    checkDepth (outer.depth + State.macroCost + 2) line
    modify fun state =>
      { state with
        frames := [{ base := .closure procedure.closure }, { base := outer.outermostBase }]
        outerDepth := outer.depth + State.macroCost
        template := procedure.template
        sinks := [.keep ""]
        parent := none
        loaded := []
        blocks := []
        currentBlock := none }
    if let some value := caller then modify (·.store callerName value)
    bindParameters bodies values.reverse procedure.defaults.reverse
    stmts bodies procedure.body
    let text := (← get).output
    modify fun state =>
      { outer with
        closures := state.closures, loops := state.loops, spaces := state.spaces
        procedures := state.procedures }
    return .text text

/-- Runs the body of a template or of a block. If it names a parent, that one is run behind it in the
same state. -/
def runBody (bodies : Bodies) (body : List Stmt) : Eval Unit := do
  let outer ← get
  modify fun state => { state with parent := none }
  stmts bodies body
  let parent := (← get).parent
  modify fun state => { state with parent := outer.parent }
  match parent with
  | none => return ()
  | some parent =>
    let _ ← closeSink
    bodies.template parent

/-- Runs the body of a block that is its turn, in a frame of its own. -/
def block (bodies : Bodies) (name : String) : Eval Unit := do
  let outer ← get
  match (outer.blocks.find? name).bind fun stack => stack.bodies[stack.layer]? with
  | none => raise (.ofKind .invalidOperation)
  | some (template, body) =>
    modify fun state =>
      { state with
        frames := {} :: state.frames, template := template, currentBlock := some name }
    runBody bodies body
    modify fun state =>
      { state.popFrame with template := outer.template, currentBlock := outer.currentBlock }

def runTemplate (bodies : Bodies) (template : Template) : Eval Unit := do
  modify fun state => { state with template := template.name }
  runBody bodies template.body

/-- Runs a loop inside of itself. -/
def again (bodies : Bodies) (recursion : Recursion) (value : Value) : Eval Unit := do
  let all ← iterated value recursion.line
  runLoop recursion.line (some recursion) (measured value all) all fun item => do
    assign bodies item recursion.target
    stmts bodies recursion.body

end Eval

/-- The bodies of macros, blocks, templates and loops, nested at most so many times. The bound is only
met by renderings that the depth of their frames stops earlier. -/
def Bodies.upTo : Nat → Bodies
  | 0 =>
    { invoke := fun line _ _ => .fail .invalidOperation line
      block := fun _ => .raise (.ofKind .invalidOperation)
      template := fun _ => .raise (.ofKind .invalidOperation)
      again := fun _ _ => .raise (.ofKind .invalidOperation) }
  | n + 1 =>
    let bodies := Bodies.upTo n
    { invoke := Eval.invoke bodies
      block := Eval.block bodies
      template := Eval.runTemplate bodies
      again := Eval.again bodies }

end Stencil.Template
