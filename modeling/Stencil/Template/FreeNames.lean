import Stencil.Template.Tree

namespace Stencil.Template

/-- The name of the argument that a macro takes without a parameter for it. It is no free name. -/
def callerName : String :=
  "caller"

/-- The names that a macro takes from around it, and the names given a value so far, scope by
scope. -/
structure NameScan where
  free : List String := []
  scopes : List (List String) := [[]]

namespace NameScan

def use (scan : NameScan) (name : String) : NameScan :=
  if scan.scopes.any (·.contains name) || scan.free.contains name then scan
  else { scan with free := scan.free ++ [name] }

def assign (scan : NameScan) (name : String) : NameScan :=
  match scan.scopes with
  | [] => { scan with scopes := [[name]] }
  | scope :: outer => { scan with scopes := (name :: scope) :: outer }

def enter (scan : NameScan) : NameScan :=
  { scan with scopes := [] :: scan.scopes }

def leave (scan : NameScan) : NameScan :=
  { scan with scopes := scan.scopes.drop 1 }

mutual
/-- The names in an expression. Those in what a slice is taken of are passed over. -/
def expr (scan : NameScan) : Expr → NameScan
  | .absent | .literal _ _ | .constant _ _ => scan
  | .name name _ => scan.use name
  | .list items _ => scan.exprs items
  | .map entries _ => scan.entries entries
  | .negate operand | .not operand | .field operand _ => scan.expr operand
  | .binary _ left right | .both left right | .either left right | .item left right =>
    (scan.expr left).expr right
  | .compare first rest => (scan.expr first).comparisons rest
  | .choice value condition otherwise => ((scan.expr condition).expr value).expr otherwise
  | .slice _ start stop step => ((scan.expr start).expr stop).expr step
  | .filter target _ arguments | .test target _ arguments | .call target arguments _ =>
    (scan.expr target).arguments arguments

def exprs (scan : NameScan) : List Expr → NameScan
  | [] => scan
  | first :: rest => (scan.expr first).exprs rest

def comparisons (scan : NameScan) : List (Comparison × Expr) → NameScan
  | [] => scan
  | (_, operand) :: rest => (scan.expr operand).comparisons rest

def arguments (scan : NameScan) : List (ArgumentRole × Expr) → NameScan
  | [] => scan
  | (_, first) :: rest => (scan.expr first).arguments rest

def entries (scan : NameScan) : List (Expr × Expr) → NameScan
  | [] => scan
  | (key, value) :: rest => ((scan.expr key).expr value).entries rest
end

mutual
def target (scan : NameScan) : Target → NameScan
  | .name name => scan.assign name
  | .field _ _ => scan
  | .unpack items _ => scan.targets items

def targets (scan : NameScan) : List Target → NameScan
  | [] => scan
  | first :: rest => (scan.target first).targets rest
end

def assignAll (scan : NameScan) (names : List String) : NameScan :=
  names.foldl assign scan

def bindings (scan : NameScan) (pairs : List (Target × Expr)) : NameScan :=
  pairs.foldl (fun scan pair => (scan.target pair.1).expr pair.2) scan

mutual
/-- A name counts as assigned from the statement on that gives it a value, also for the value. -/
def stmt (scan : NameScan) : Stmt → NameScan
  | .text _ | .block _ _ | .embed _ _ _ | .inherit _ _ => scan
  | .output value => scan.expr value
  | .branch condition body otherwise =>
    let scan := ((scan.expr condition).enter.stmts body).leave
    (scan.enter.stmts otherwise).leave
  | .forEach goal items condition _ body otherwise =>
    let scan := ((scan.enter.assign "loop").expr items).target goal
    let scan := match condition with
      | some condition => scan.expr condition
      | none => scan
    let scan := (scan.stmts body).leave
    (scan.enter.stmts otherwise).leave
  | .assign goal value => (scan.target goal).expr value
  | .capture goal _ body => ((scan.target goal).enter.stmts body).leave
  | .within pairs body _ => ((scan.enter.bindings pairs).stmts body).leave
  | .define name parameters defaults body =>
    let scan := ((scan.assign name).enter.assign callerName).assignAll parameters
    ((scan.exprs defaults).stmts body).leave
  | .importAll _ goal _ => scan.target goal
  | .importNames _ names _ => scan.assignAll (names.map (·.2))

def stmts (scan : NameScan) : List Stmt → NameScan
  | [] => scan
  | first :: rest => (scan.stmt first).stmts rest
end

end NameScan

/-- The names that a macro uses and does not give a value itself. -/
def usedNames (parameters : List String) (defaults : List Expr) (body : List Stmt) : List String :=
  (((({} : NameScan).assignAll parameters).exprs defaults).stmts body).free

/-- The names that a macro takes from where it is defined. -/
def freeNames (parameters : List String) (defaults : List Expr) (body : List Stmt) : List String :=
  (usedNames parameters defaults body).filter (· != callerName)

end Stencil.Template
