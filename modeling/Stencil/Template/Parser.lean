import Stencil.Template.Constant
import Stencil.Template.Lexer

namespace Stencil.Template

/-- Why a template could not be read, and the line of the last token before the fault. -/
structure ParseFault where
  kind : ErrorKind
  line : Nat
deriving DecidableEq, Repr

structure ParseState where
  tokens : List Located
  line : Nat := 1
  depth : Nat := 0
  blocks : List (String × List Stmt) := []
  inMacro : Bool := false

abbrev Parse := StateT ParseState (Except ParseFault)

namespace Parse

/-- Expressions and statements may not be nested deeper than this. -/
def maxDepth : Nat := 150

def fail {α : Type} : Parse α := do
  throw ⟨.syntaxError, (← get).line⟩

/-- The next token, which stays where it is. -/
def peek : Parse (Option Token) := do
  let state ← get
  match state.tokens.head? with
  | none => return none
  | some ⟨.malformed, _⟩ => throw ⟨.syntaxError, state.line⟩
  | some ⟨.badEscape, _⟩ => throw ⟨.badEscape, state.line⟩
  | some located => return some located.token

def next : Parse (Option Token) := do
  let token ← peek
  modify fun state =>
    match state.tokens with
    | [] => state
    | located :: rest => { state with tokens := rest, line := located.line }
  return token

/-- The line of the next token. -/
def nextLine : Parse Nat := do
  let state ← get
  return (state.tokens.head?.map (·.line)).getD state.line

def isNext (token : Token) : Parse Bool :=
  return (← peek) == some token

/-- Passes the next token if it is the one given. -/
def skip (token : Token) : Parse Bool := do
  if ← isNext token then
    let _ ← next
    return true
  else return false

def expect (token : Token) : Parse Unit := do
  if (← next) == some token then return () else fail

def expectMark (symbol : String) : Parse Unit :=
  expect (.mark symbol)

def expectWord (name : String) : Parse Unit :=
  expect (.word name)

def word : Parse String := do
  match ← next with
  | some (.word name) => return name
  | _ => fail

/-- A name of several words with points between them. -/
def dottedFrom : Nat → String → Parse String
  | 0, _ => fail
  | fuel + 1, name => do
    if ← skip (.mark ".") then dottedFrom fuel (name ++ "." ++ (← word)) else return name

/-- Passes the strings that stand directly behind one; they are one text with it. -/
def adjacentStrings : Parse String := do
  let state ← get
  let isString (located : Located) : Bool :=
    match located.token with
    | .string _ => true
    | _ => false
  let strings := state.tokens.takeWhile isString
  let rest := state.tokens.dropWhile isString
  if rest.head?.map (·.token) == some .badEscape then fail
  set { state with tokens := rest, line := (strings.getLast?.map Located.line).getD state.line }
  return String.join <| strings.map fun located =>
    match located.token with
    | .string content => content
    | _ => ""

def reservedNames : List String :=
  ["true", "True", "false", "False", "none", "None", "loop", "self"]

/-- A name that is given a value. -/
def assignedName : Parse String := do
  let name ← word
  if reservedNames.contains name then fail else return name

/-- Reads one level deeper. -/
def nested {α : Type} (inner : Parse α) : Parse α := do
  let depth := (← get).depth + 1
  modify fun state => { state with depth := depth }
  if depth > maxDepth then fail
  let result ← inner
  modify fun state => { state with depth := state.depth - 1 }
  return result

/-- The words that end a test which takes its argument without brackets. -/
def endsTest : Option Token → Bool
  | some (.word name) => ["and", "or", "else", "is"].contains name
  | some (.string _) | some (.integer _) => false
  | some (.mark symbol) => !(["+", "-", "[", "\x7b"].contains symbol)
  | _ => true

def comparison? : Token → Option Comparison
  | .mark "==" => some .equal
  | .mark "!=" => some .notEqual
  | .mark "<" => some .less
  | .mark "<=" => some .lessOrEqual
  | .mark ">" => some .greater
  | .mark ">=" => some .greaterOrEqual
  | .word "in" => some .member
  | _ => none

/-- Passes a comparison. The two words `not in` are one. -/
def comparison : Parse (Option Comparison) := do
  match ← peek with
  | none => return none
  | some (.word "not") =>
    let _ ← next
    expectWord "in"
    return some .notMember
  | some token =>
    match comparison? token with
    | some found =>
      let _ ← next
      return some found
    | none => return none

/-- The operators of the levels that join two expressions from left to right, given the line on
which the first of them starts. Levels bind more tightly the higher their number; a negation stands
at level two, comparisons at level three, and a sign at level eight. -/
def operatorAt? (level : Nat) (token : Token) : Option (Nat → Expr → Expr → Expr) :=
  match level, token with
  | 0, .word "or" => some Expr.ofEither
  | 1, .word "and" => some Expr.ofBoth
  | 4, .mark "+" => some (Expr.ofBinary .add)
  | 4, .mark "-" => some (Expr.ofBinary .subtract)
  | 5, .mark "~" => some (Expr.ofBinary .concatenate)
  | 6, .mark "*" => some (Expr.ofBinary .multiply)
  | 6, .mark "/" => some (Expr.ofBinary .divide)
  | 6, .mark "//" => some (Expr.ofBinary .floorDivide)
  | 6, .mark "%" => some (Expr.ofBinary .remainder)
  | 7, .mark "**" => some (Expr.ofBinary .power)
  | _, _ => none

/-- Passes an operator of a level. -/
def operator (level : Nat) : Parse (Option (Nat → Expr → Expr → Expr)) := do
  match ← peek with
  | none => return none
  | some token =>
    match operatorAt? level token with
    | some build =>
      let _ ← next
      return some build
    | none => return none

def literal? : String → Option Literal
  | "true" | "True" => some (.flag true)
  | "false" | "False" => some (.flag false)
  | "none" | "None" => some .none
  | _ => none

abbrev Arguments := List (ArgumentRole × Expr)

/-- No call has more arguments than this. -/
def maxArguments : Nat := 2000

mutual
def expr : Nat → Parse Expr
  | 0 => fail
  | fuel + 1 => nested (chosen fuel)

/-- An expression that may be chosen by a condition behind it. -/
def chosen : Nat → Parse Expr
  | 0 => fail
  | fuel + 1 => do
    let value ← level fuel 0
    choices fuel value

def choices : Nat → Expr → Parse Expr
  | 0, _ => fail
  | fuel + 1, value => do
    if ← skip (.word "if") then
      let condition ← level fuel 0
      let otherwise ← if ← skip (.word "else") then chosen fuel else pure .absent
      choices fuel (.choice value condition otherwise)
    else return value

def level : Nat → Nat → Parse Expr
  | 0, _ => fail
  | fuel + 1, 2 => do
    let line ← nextLine
    if ← skip (.word "not") then return Expr.ofNot line (← level fuel 2) else level fuel 3
  | fuel + 1, 3 => do
    let line := (← get).line
    let first ← level fuel 4
    match ← comparisons fuel with
    | [] => return first
    | [(comparison, right)] => return Expr.ofComparison comparison line first right
    | rest => return .compare first rest
  | fuel + 1, 8 => operand fuel
  | fuel + 1, n => do
    let line ← nextLine
    let left ← level fuel (n + 1)
    chain fuel n line left

def comparisons : Nat → Parse (List (Comparison × Expr))
  | 0 => fail
  | fuel + 1 => do
    match ← comparison with
    | none => return []
    | some found =>
      let right ← level fuel 4
      return (found, right) :: (← comparisons fuel)

def chain : Nat → Nat → Nat → Expr → Parse Expr
  | 0, _, _, _ => fail
  | fuel + 1, n, line, left => do
    match ← operator n with
    | some build => chain fuel n line (build line left (← level fuel (n + 1)))
    | none => return left

/-- A signed expression with what is appended to it, and the filters and tests behind it. -/
def operand : Nat → Parse Expr
  | 0 => fail
  | fuel + 1 => do
    let line ← nextLine
    let value ← appended fuel line (← signed fuel)
    filtered fuel value

def signed : Nat → Parse Expr
  | 0 => fail
  | fuel + 1 => do
    let line ← nextLine
    if ← skip (.mark "-") then return Expr.ofNegation line (← signed fuel) else nested (primary fuel)

def primary : Nat → Parse Expr
  | 0 => fail
  | fuel + 1 => do
    let line ← nextLine
    match ← next with
    | some (.word name) =>
      match literal? name with
      | some value => return .literal value line
      | none => return .name name line
    | some (.string content) => return .literal (.text (content ++ (← adjacentStrings))) line
    | some (.integer value) => return .literal (.integer value) line
    | some (.mark "(") =>
      if ← skip (.mark ")") then return .list [] line
      let first ← expr fuel
      if ← isNext (.mark ",") then
        let _ ← next
        return .list (first :: (← items fuel ")")) line
      else
        expectMark ")"
        return first
    | some (.mark "[") => return .list (← items fuel "]") line
    | some (.mark "\x7b") => return .map (← entries fuel) line
    | _ => fail

/-- Expressions between commas up to a closing mark; the last comma may be followed by nothing. -/
def items : Nat → String → Parse (List Expr)
  | 0, _ => fail
  | fuel + 1, close => do
    if ← skip (.mark close) then return []
    let first ← expr fuel
    if ← skip (.mark close) then return [first]
    expectMark ","
    return first :: (← items fuel close)

def entries : Nat → Parse (List (Expr × Expr))
  | 0 => fail
  | fuel + 1 => do
    if ← skip (.mark "\x7d") then return []
    let key ← expr fuel
    expectMark ":"
    let value ← expr fuel
    if ← skip (.mark "\x7d") then return [(key, value)]
    expectMark ","
    return (key, value) :: (← entries fuel)

/-- Arguments behind an opening bracket. None without a name follows one with a name. -/
def arguments : Nat → Arguments → Parse Arguments
  | 0, _ => fail
  | fuel + 1, read => do
    if ← skip (.mark ")") then return read
    let argument ← argument fuel (read.any (·.1.isNamed))
    let read := read ++ [argument]
    if read.length > maxArguments then fail
    if ← skip (.mark ")") then return read
    expectMark ","
    arguments fuel read

def argument : Nat → Bool → Parse (ArgumentRole × Expr)
  | 0, _ => fail
  | fuel + 1, behindNamed => do
    if ← skip (.mark "**") then return (.spreadNamed, ← expr fuel)
    if ← skip (.mark "*") then return (.spread, ← expr fuel)
    let first ← expr fuel
    match first with
    | .name name _ =>
      if ← skip (.mark "=") then return (.named name, ← expr fuel)
      else if behindNamed then fail
      else return (.single, first)
    | first => if behindNamed then fail else return (.single, first)

def appended : Nat → Nat → Expr → Parse Expr
  | 0, _, _ => fail
  | fuel + 1, line, value => do
    match ← peek with
    | some (.mark ".") =>
      let _ ← next
      let place ← nextLine
      match ← next with
      | some (.word name) => appended fuel line (.field value name)
      | some (.integer index) =>
        appended fuel line (.item value (.literal (.integer index) place))
      | _ => fail
    | some (.mark "[") =>
      let _ ← next
      appended fuel line (← subscript fuel value)
    | some (.mark "(") =>
      let _ ← next
      appended fuel line (.call value (← arguments fuel []) line)
    | _ => return value

/-- An index, or the bounds of a slice, up to the closing bracket. -/
def subscript : Nat → Expr → Parse Expr
  | 0, _ => fail
  | fuel + 1, value => do
    let start ← if ← isNext (.mark ":") then pure .absent else expr fuel
    if ← skip (.mark ":") then
      let stop ←
        if (← isNext (.mark "]")) || (← isNext (.mark ":")) then pure .absent else expr fuel
      let step ←
        if ← skip (.mark ":") then
          if ← isNext (.mark "]") then pure .absent else expr fuel
        else pure .absent
      expectMark "]"
      return .slice value start stop step
    else
      expectMark "]"
      return .item value start

def filtered : Nat → Expr → Parse Expr
  | 0, _ => fail
  | fuel + 1, value => do
    match ← peek with
    | some (.mark "|") =>
      let _ ← next
      let name ← dottedFrom fuel (← word)
      let arguments ← if ← skip (.mark "(") then arguments fuel [] else pure []
      filtered fuel (.filter value name arguments)
    | some (.word "is") =>
      let _ ← next
      let negated ← skip (.word "not")
      let name ← dottedFrom fuel (← word)
      let arguments ←
        if ← skip (.mark "(") then arguments fuel []
        else if endsTest (← peek) then pure []
        else do
          let line ← nextLine
          pure [(.single, ← appended fuel line (← signed fuel))]
      let test := Expr.test value name arguments
      filtered fuel (if negated then .not test else test)
    | _ => return value
end

/-- Filters behind one another, the first of them without a bar before it. -/
def filterChain : Nat → Parse (List AppliedFilter)
  | 0 => fail
  | fuel + 1 => do
    let line ← nextLine
    let name ← dottedFrom fuel (← word)
    let arguments ← if ← skip (.mark "(") then arguments fuel [] else pure []
    let rest ← if ← skip (.mark "|") then filterChain fuel else pure []
    return ⟨name, arguments, line⟩ :: rest

def fields : Nat → Expr → String → Parse Target
  | 0, _, _ => fail
  | fuel + 1, base, name => do
    if ← skip (.mark ".") then fields fuel (.field base name) (← word)
    else return .field base name

mutual
/-- What values go to: one name, or several to be unpacked, as soon as there is a comma. In an
assignment it may be a field. -/
def target : Nat → Bool → Parse Target
  | 0, _ => fail
  | fuel + 1, withFields => do
    let line ← nextLine
    let (targets, isTuple) ← targets fuel withFields
    match targets, isTuple with
    | [single], false => return single
    | targets, _ => return .unpack targets line

def targets : Nat → Bool → Parse (List Target × Bool)
  | 0, _ => fail
  | fuel + 1, withFields => do
    match ← peek with
    | some (.mark ")") | some .outputEnd | some .blockEnd | some (.word "in") => return ([], false)
    | _ =>
      let first ← targetItem fuel withFields
      if ← skip (.mark ",") then
        let (rest, _) ← targets fuel withFields
        return (first :: rest, true)
      else return ([first], false)

def targetItem : Nat → Bool → Parse Target
  | 0, _ => fail
  | fuel + 1, withFields => do
    if ← skip (.mark "(") then
      let inner ← target fuel withFields
      expectMark ")"
      return inner
    let line ← nextLine
    let name ← assignedName
    if withFields then
      if ← skip (.mark ".") then return ← fields fuel (.name name line) (← word)
    return .name name
end

mutual
/-- An expression as something that can be assigned to. -/
def target? : Expr → Option Target
  | .name text _ => some (.name text)
  | .field target name => some (.field target name)
  | .list items line => (targets? items).map (.unpack · line)
  | _ => none

def targets? : List Expr → Option (List Target)
  | [] => some []
  | first :: rest => do return (← target? first) :: (← targets? rest)
end

def bindings : Nat → Parse (List (Target × Expr))
  | 0 => fail
  | fuel + 1 => do
    let goal ← targetItem fuel false
    expectMark "="
    let value ← expr fuel
    if ← isNext .blockEnd then return [(goal, value)]
    expectMark ","
    return (goal, value) :: (← bindings fuel)

/-- The parameters of a macro; behind one with a default all have one. -/
def parameters : Nat → List String → List Expr → Parse (List String × List Expr)
  | 0, _, _ => fail
  | fuel + 1, names, defaults => do
    if ← skip (.mark ")") then return (names, defaults)
    let name ← assignedName
    let defaults ←
      if ← skip (.mark "=") then pure (defaults ++ [← expr fuel])
      else if defaults.isEmpty then pure defaults
      else fail
    if ← skip (.mark ")") then return (names ++ [name], defaults)
    expectMark ","
    parameters fuel (names ++ [name]) defaults

def skipContext : Parse Unit := do
  if (← skip (.word "with")) || (← skip (.word "without")) then expectWord "context"

/-- The names that an import asks for, each with the one that it is given. -/
def importedNames : Nat → Parse (List (Expr × String))
  | 0 => fail
  | fuel + 1 => do
    match ← peek with
    | some .blockEnd | some (.word "with") | some (.word "without") => return []
    | _ =>
      let line ← nextLine
      let name ← assignedName
      let goal ← if ← skip (.word "as") then assignedName else pure name
      if ← skip (.mark ",") then return (.name name line, goal) :: (← importedNames fuel)
      else return [(.name name line, goal)]

mutual
/-- Statements up to a block tag that starts with one of the given words, or up to the end. -/
def statements : Nat → List String → Parse (List Stmt)
  | 0, _ => fail
  | fuel + 1, closing => do
    match ← next with
    | none => return []
    | some (.text content) => return .text content :: (← statements fuel closing)
    | some .outputBegin =>
      let value ← expr fuel
      expect .outputEnd
      return .output value :: (← statements fuel closing)
    | some .blockBegin =>
      match ← peek with
      | none => fail
      | some (.word name) =>
        if closing.contains name then return []
        else
          let first ← nested (statement fuel)
          expect .blockEnd
          return first :: (← statements fuel closing)
      | some _ => fail
    | some _ => fail

def statement : Nat → Parse Stmt
  | 0 => fail
  | fuel + 1 => do
    let line ← nextLine
    match ← word with
    | "if" => conditional fuel
    | "for" => forLoop fuel
    | "set" => assignment fuel
    | "with" =>
      let bound ← if ← isNext .blockEnd then pure [] else bindings fuel
      expect .blockEnd
      let body ← statements fuel ["endwith"]
      let _ ← next
      return .within bound body line
    | "macro" => macroDefinition fuel
    | "block" => blockDefinition fuel line
    | "include" =>
      let template ← expr fuel
      skipContext
      let ignoreMissing ← skip (.word "ignore")
      if ignoreMissing then
        expectWord "missing"
        skipContext
      return .embed template ignoreMissing line
    | "import" =>
      let template ← expr fuel
      expectWord "as"
      match target? (← expr fuel) with
      | none => fail
      | some goal =>
        skipContext
        return .importAll template goal line
    | "from" =>
      let template ← expr fuel
      expectWord "import"
      let names ← importedNames fuel
      skipContext
      return .importNames template names line
    | "extends" => return .inherit (← expr fuel) line
    | _ => fail

def conditional : Nat → Parse Stmt
  | 0 => fail
  | fuel + 1 => do
    let condition ← level fuel 0
    expect .blockEnd
    let body ← statements fuel ["endif", "else", "elif"]
    match ← next with
    | some (.word "else") =>
      expect .blockEnd
      let otherwise ← statements fuel ["endif"]
      let _ ← next
      return .branch condition body otherwise
    | some (.word "elif") => return .branch condition body [← conditional fuel]
    | _ => return .branch condition body []

def forLoop : Nat → Parse Stmt
  | 0 => fail
  | fuel + 1 => do
    let goal ← target fuel false
    expectWord "in"
    let items ← level fuel 0
    let condition ← if ← skip (.word "if") then some <$> expr fuel else pure none
    let recursive ← skip (.word "recursive")
    expect .blockEnd
    let body ← statements fuel ["endfor", "else"]
    if ← skip (.word "else") then
      expect .blockEnd
      let otherwise ← statements fuel ["endfor"]
      let _ ← next
      return .forEach goal items condition recursive body otherwise
    else
      let _ ← next
      return .forEach goal items condition recursive body []

def assignment : Nat → Parse Stmt
  | 0 => fail
  | fuel + 1 => do
    let goal ← target fuel true
    let isFiltered ← skip (.mark "|")
    if isFiltered || (← isNext .blockEnd) then
      let filters ← if isFiltered then filterChain fuel else pure []
      expect .blockEnd
      let body ← statements fuel ["endset"]
      let _ ← next
      return .capture goal filters body
    else
      expectMark "="
      return .assign goal (← assigned fuel)

/-- The value of an assignment. Values between commas are a list without brackets. -/
def assigned : Nat → Parse Expr
  | 0 => fail
  | fuel + 1 => do
    let line ← nextLine
    let first ← expr fuel
    if ← isNext (.mark ",") then
      return .list (first :: (← further fuel)) line
    else return first

def further : Nat → Parse (List Expr)
  | 0 => fail
  | fuel + 1 => do
    if ← skip (.mark ",") then
      if ← isNext .blockEnd then return []
      let next ← expr fuel
      return next :: (← further fuel)
    else return []

def macroDefinition : Nat → Parse Stmt
  | 0 => fail
  | fuel + 1 => do
    let name ← word
    expectMark "("
    let (names, defaults) ← parameters fuel [] []
    expect .blockEnd
    let outer := (← get).inMacro
    modify fun state => { state with inMacro := true }
    let body ← statements fuel ["endmacro"]
    modify fun state => { state with inMacro := outer }
    let _ ← next
    return .define name names defaults body

/-- A block is defined once in a template, outside of macros, and may be named again at its end. -/
def blockDefinition : Nat → Nat → Parse Stmt
  | 0, _ => fail
  | fuel + 1, line => do
    if (← get).inMacro then fail
    let name ← word
    if ((← get).blocks.lookup name).isSome then fail
    modify fun state => { state with blocks := state.blocks ++ [(name, [])] }
    expect .blockEnd
    let body ← statements fuel ["endblock"]
    let _ ← next
    match ← peek with
    | some (.word closing) =>
      if closing = name then
        let _ ← next
      else fail
    | _ => pure ()
    modify fun state =>
      { state with blocks := state.blocks.map fun held => if held.1 = name then (name, body) else held }
    return .block name line
end

end Parse

/-- Reads a source. Every token is passed on at most sixteen levels of the grammar, which bounds
the steps. -/
def parse (whitespace : Whitespace) (name source : String) : Except Error Template :=
  let located := tokens whitespace source
  match (Parse.statements (32 * (located.length + 8)) []).run { tokens := located } with
  | .ok (body, state) =>
    .ok ⟨name, body, state.blocks, located.getLast?.map Located.line⟩
  | .error fault => .error ⟨fault.kind, none, some ⟨name, fault.line⟩⟩

end Stencil.Template
