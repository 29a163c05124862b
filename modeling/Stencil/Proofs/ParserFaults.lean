import Mathlib
import Stencil.Proofs.RenderingOutcomes
import Stencil.Template.Language

-- All of Mathlib is imported for `mvcgen`, which no part of it brings.

set_option mvcgen.warning false

namespace Stencil.Template

open Std.Do

namespace Parse

/-- What a fault of the source can be. -/
def IsSourceFault (kind : ErrorKind) : Prop :=
  kind = .syntaxError ∨ kind = .badEscape

/-- Whatever is read, what goes wrong is a fault of the source. -/
abbrev Told {α : Type} : PostCond α (.arg ParseState (.except ParseFault .pure)) :=
  (fun _ _ => ⌜True⌝, fun fault => ⌜IsSourceFault fault.kind⌝, ())

theorem told_iff {α : Type} (action : Parse α) :
    ⦃⌜True⌝⦄ action ⦃Told⦄ ↔
      ∀ state fault, action.run state = .error fault → IsSourceFault fault.kind := by
  have outcome (state : ParseState) : (wp⟦action⟧ Told state).down ↔
      ∀ fault, action.run state = .error fault → IsSourceFault fault.kind := by
    change (wp⟦action.run state⟧ (fun _ => ⌜True⌝, fun fault => ⌜IsSourceFault fault.kind⌝, ())).down ↔ _
    cases action.run state with
    | ok done => exact iff_of_true trivial nofun
    | error fault => exact ⟨fun held _ same => Except.error.inj same ▸ held, fun told => told fault rfl⟩
  exact ⟨fun told state => (outcome state).mp (told state trivial),
    fun told state _ => (outcome state).mpr (told state)⟩

@[spec]
theorem fail_told {α : Type} : ⦃⌜True⌝⦄ (fail : Parse α) ⦃Told⦄ :=
  fun _ _ => .inl rfl

/-- Faults of the lexer come up where the next token is looked at. -/
@[spec]
theorem peek_told : ⦃⌜True⌝⦄ peek ⦃Told⦄ := by
  rw [told_iff]
  intro state fault failed
  simp only [peek, StateT.run_bind, StateT.run_get, pure_bind] at failed
  split at failed
  · cases failed
  · cases failed
    exact .inl rfl
  · cases failed
    exact .inr rfl
  · cases failed

@[spec]
theorem next_told : ⦃⌜True⌝⦄ next ⦃Told⦄ := by
  mvcgen [next]

@[spec]
theorem nextLine_told : ⦃⌜True⌝⦄ nextLine ⦃Told⦄ := by
  mvcgen [nextLine]

@[spec]
theorem isNext_told (token : Token) : ⦃⌜True⌝⦄ isNext token ⦃Told⦄ := by
  mvcgen [isNext]

@[spec]
theorem skip_told (token : Token) : ⦃⌜True⌝⦄ skip token ⦃Told⦄ := by
  mvcgen [skip]

@[spec]
theorem expect_told (token : Token) : ⦃⌜True⌝⦄ expect token ⦃Told⦄ := by
  mvcgen [expect]

@[spec]
theorem expectMark_told (symbol : String) : ⦃⌜True⌝⦄ expectMark symbol ⦃Told⦄ := by
  mvcgen [expectMark]

@[spec]
theorem expectWord_told (name : String) : ⦃⌜True⌝⦄ expectWord name ⦃Told⦄ := by
  mvcgen [expectWord]

@[spec]
theorem word_told : ⦃⌜True⌝⦄ word ⦃Told⦄ := by
  mvcgen [word]

@[spec]
theorem adjacentStrings_told : ⦃⌜True⌝⦄ adjacentStrings ⦃Told⦄ := by
  mvcgen [adjacentStrings]

@[spec]
theorem assignedName_told : ⦃⌜True⌝⦄ assignedName ⦃Told⦄ := by
  mvcgen [assignedName]

@[spec]
theorem comparison_told : ⦃⌜True⌝⦄ comparison ⦃Told⦄ := by
  mvcgen [comparison]

@[spec]
theorem operator_told (level : Nat) : ⦃⌜True⌝⦄ operator level ⦃Told⦄ := by
  mvcgen [operator]

@[spec]
theorem skipContext_told : ⦃⌜True⌝⦄ skipContext ⦃Told⦄ := by
  mvcgen [skipContext]

theorem nested_told {α : Type} {inner : Parse α} (told : ⦃⌜True⌝⦄ inner ⦃Told⦄) :
    ⦃⌜True⌝⦄ nested inner ⦃Told⦄ := by
  mvcgen [nested, told]

@[spec]
theorem dottedFrom_told (fuel : Nat) (name : String) : ⦃⌜True⌝⦄ dottedFrom fuel name ⦃Told⦄ := by
  induction fuel generalizing name with
  | zero => mvcgen [dottedFrom]
  | succ fuel ih => mvcgen [dottedFrom, ih]

/-- All readers of expressions, with so much fuel. -/
structure ExpressionsTold (fuel : Nat) : Prop where
  expr : ⦃⌜True⌝⦄ expr fuel ⦃Told⦄
  chosen : ⦃⌜True⌝⦄ chosen fuel ⦃Told⦄
  choices (value : Expr) : ⦃⌜True⌝⦄ choices fuel value ⦃Told⦄
  level (n : Nat) : ⦃⌜True⌝⦄ level fuel n ⦃Told⦄
  comparisons : ⦃⌜True⌝⦄ comparisons fuel ⦃Told⦄
  chain (n line : Nat) (left : Expr) : ⦃⌜True⌝⦄ chain fuel n line left ⦃Told⦄
  operand : ⦃⌜True⌝⦄ operand fuel ⦃Told⦄
  signed : ⦃⌜True⌝⦄ signed fuel ⦃Told⦄
  primary : ⦃⌜True⌝⦄ primary fuel ⦃Told⦄
  items (close : String) : ⦃⌜True⌝⦄ items fuel close ⦃Told⦄
  entries : ⦃⌜True⌝⦄ entries fuel ⦃Told⦄
  arguments (read : Arguments) : ⦃⌜True⌝⦄ arguments fuel read ⦃Told⦄
  argument (behindNamed : Bool) : ⦃⌜True⌝⦄ argument fuel behindNamed ⦃Told⦄
  appended (line : Nat) (value : Expr) : ⦃⌜True⌝⦄ appended fuel line value ⦃Told⦄
  subscript (value : Expr) : ⦃⌜True⌝⦄ subscript fuel value ⦃Told⦄
  filtered (value : Expr) : ⦃⌜True⌝⦄ filtered fuel value ⦃Told⦄

theorem expressionsTold (fuel : Nat) : ExpressionsTold fuel := by
  induction fuel with
  | zero =>
    constructor
    · mvcgen [expr]
    · mvcgen [chosen]
    · intro value; mvcgen [choices]
    · intro n; mvcgen [level]
    · mvcgen [comparisons]
    · intro n line left; mvcgen [chain]
    · mvcgen [operand]
    · mvcgen [signed]
    · mvcgen [primary]
    · intro close; mvcgen [items]
    · mvcgen [entries]
    · intro read; mvcgen [arguments]
    · intro behindNamed; mvcgen [argument]
    · intro line value; mvcgen [appended]
    · intro value; mvcgen [subscript]
    · intro value; mvcgen [filtered]
  | succ fuel ih =>
    obtain ⟨expr, chosen, choices, level, comparisons, chain, operand, signed, primary, items, entries,
      arguments, argument, appended, subscript, filtered⟩ := ih
    have nestedChosen := nested_told chosen
    have nestedPrimary := nested_told primary
    constructor
    · mvcgen [Parse.expr, nestedChosen]
    · mvcgen [Parse.chosen, level, choices]
    · intro value; mvcgen [Parse.choices, level, chosen, choices]
    · intro n
      unfold Parse.level
      split
      case h_1 => mvcgen
      all_goals
        cases ‹fuel + 1 = Nat.succ _›
        mvcgen [level, comparisons, chain, operand]
    · mvcgen [Parse.comparisons, level, comparisons]
    · intro n line left; mvcgen [Parse.chain, level, chain]
    · mvcgen [Parse.operand, signed, appended, filtered]
    · mvcgen [Parse.signed, signed, nestedPrimary]
    · mvcgen [Parse.primary, expr, items, entries]
    · intro close; mvcgen [Parse.items, expr, items]
    · mvcgen [Parse.entries, expr, entries]
    · intro read; mvcgen [Parse.arguments, argument, arguments]
    · intro behindNamed; mvcgen [Parse.argument, expr]
    · intro line value; mvcgen [Parse.appended, subscript, arguments, appended]
    · intro value; mvcgen [Parse.subscript, expr]
    · intro value; mvcgen [Parse.filtered, signed, arguments, appended, filtered]

@[spec]
theorem filterChain_told (fuel : Nat) : ⦃⌜True⌝⦄ filterChain fuel ⦃Told⦄ := by
  induction fuel with
  | zero => mvcgen [filterChain]
  | succ fuel ih =>
    have arguments := (expressionsTold fuel).arguments
    mvcgen [filterChain, arguments, ih]

@[spec]
theorem fields_told (fuel : Nat) (base : Expr) (name : String) :
    ⦃⌜True⌝⦄ fields fuel base name ⦃Told⦄ := by
  induction fuel generalizing base name with
  | zero => mvcgen [fields]
  | succ fuel ih => mvcgen [fields, ih]

/-- All readers of what values go to, with so much fuel. -/
structure TargetsTold (fuel : Nat) : Prop where
  target (withFields : Bool) : ⦃⌜True⌝⦄ target fuel withFields ⦃Told⦄
  targets (withFields : Bool) : ⦃⌜True⌝⦄ targets fuel withFields ⦃Told⦄
  targetItem (withFields : Bool) : ⦃⌜True⌝⦄ targetItem fuel withFields ⦃Told⦄

theorem targetsTold (fuel : Nat) : TargetsTold fuel := by
  induction fuel with
  | zero =>
    constructor
    · intro withFields; mvcgen [target]
    · intro withFields; mvcgen [targets]
    · intro withFields; mvcgen [targetItem]
  | succ fuel ih =>
    obtain ⟨target, targets, targetItem⟩ := ih
    constructor
    · intro withFields; mvcgen [Parse.target, targets]
    · intro withFields; mvcgen [Parse.targets, targets, targetItem]
    · intro withFields; mvcgen [Parse.targetItem, target]

@[spec]
theorem bindings_told (fuel : Nat) : ⦃⌜True⌝⦄ bindings fuel ⦃Told⦄ := by
  induction fuel with
  | zero => mvcgen [bindings]
  | succ fuel ih =>
    have expr := (expressionsTold fuel).expr
    have targetItem := (targetsTold fuel).targetItem
    mvcgen [bindings, expr, targetItem, ih]

@[spec]
theorem parameters_told (fuel : Nat) (names : List String) (defaults : List Expr) :
    ⦃⌜True⌝⦄ parameters fuel names defaults ⦃Told⦄ := by
  induction fuel generalizing names defaults with
  | zero => mvcgen [parameters]
  | succ fuel ih =>
    have expr := (expressionsTold fuel).expr
    mvcgen [parameters, expr, ih]

@[spec]
theorem importedNames_told (fuel : Nat) : ⦃⌜True⌝⦄ importedNames fuel ⦃Told⦄ := by
  induction fuel with
  | zero => mvcgen [importedNames]
  | succ fuel ih => mvcgen [importedNames, ih]

/-- All readers of statements, with so much fuel. -/
structure StatementsTold (fuel : Nat) : Prop where
  statements (closing : List String) : ⦃⌜True⌝⦄ statements fuel closing ⦃Told⦄
  statement : ⦃⌜True⌝⦄ statement fuel ⦃Told⦄
  conditional : ⦃⌜True⌝⦄ conditional fuel ⦃Told⦄
  forLoop : ⦃⌜True⌝⦄ forLoop fuel ⦃Told⦄
  assignment : ⦃⌜True⌝⦄ assignment fuel ⦃Told⦄
  assigned : ⦃⌜True⌝⦄ assigned fuel ⦃Told⦄
  further : ⦃⌜True⌝⦄ further fuel ⦃Told⦄
  macroDefinition : ⦃⌜True⌝⦄ macroDefinition fuel ⦃Told⦄
  blockDefinition (line : Nat) : ⦃⌜True⌝⦄ blockDefinition fuel line ⦃Told⦄

theorem statementsTold (fuel : Nat) : StatementsTold fuel := by
  induction fuel with
  | zero =>
    constructor
    · intro closing; mvcgen [statements]
    · mvcgen [statement]
    · mvcgen [conditional]
    · mvcgen [forLoop]
    · mvcgen [assignment]
    · mvcgen [assigned]
    · mvcgen [further]
    · mvcgen [macroDefinition]
    · intro line; mvcgen [blockDefinition]
  | succ fuel ih =>
    obtain ⟨statements, statement, conditional, forLoop, assignment, assigned, further,
      macroDefinition, blockDefinition⟩ := ih
    have expr := (expressionsTold fuel).expr
    have level := (expressionsTold fuel).level
    have target := (targetsTold fuel).target
    have nestedStatement := nested_told statement
    constructor
    · intro closing; mvcgen [Parse.statements, expr, nestedStatement, statements]
    · mvcgen [Parse.statement, expr, statements, conditional, forLoop, assignment, macroDefinition,
        blockDefinition]
    · mvcgen [Parse.conditional, level, statements, conditional]
    · mvcgen [Parse.forLoop, expr, level, target, statements]
    · mvcgen [Parse.assignment, target, statements, assigned]
    · mvcgen [Parse.assigned, expr, further]
    · mvcgen [Parse.further, expr, further]
    · mvcgen [Parse.macroDefinition, statements]
    · intro line; mvcgen [Parse.blockDefinition, statements]

end Parse

/-- Where a source cannot be read, the fault is one of the source. -/
theorem parse_isSourceFault {whitespace : Whitespace} {name source : String} {fault : Error}
    (failed : parse whitespace name source = .error fault) : Parse.IsSourceFault fault.kind := by
  unfold parse at failed
  dsimp only at failed
  split at failed
  · cases failed
  · next cause outcome =>
    cases failed
    exact (Parse.told_iff _).mp ((Parse.statementsTold _).statements []) _ cause outcome

theorem engine_findsSources : engine.FindsSources := by
  intro whitespace name source fault failed
  rcases parse_isSourceFault failed with syntaxError | badEscape
  · simp [syntaxError]
  · simp [badEscape]

end Stencil.Template
