import Stencil.Expansion.Pass

namespace Stencil.Expansion

variable {τ : Type} {links : Linkage}

/-- The states of an expander and of the files that directives lead to, one after the other, as
long as each of them succeeds. The list holds the directives done so far. -/
inductive Reach (expander : Expander τ) (files : FileSystem links) :
    List Declaration → Expander τ → FileSystem links → Prop
  | start : Reach expander files [] expander files
  | next {done current tree declaration path after written} :
      Reach expander files done current tree →
      current.expandDirective tree declaration = (.ok path, after, written) →
      Reach expander files (done ++ [declaration]) after written

theorem Pass.createRoots_of_fst {files : FileSystem links} {config : Config}
    (created : (createRoots files config).1 = .ok ()) :
    createRoots files config = (.ok (), (createRoots files config).2) := by
  generalize createRoots files config = roots at created
  exact Prod.ext created rfl

namespace Reach

variable {expander current : Expander τ} {files tree : FileSystem links} {done : List Declaration}

theorem append {later : List Declaration} {after : Expander τ} {written : FileSystem links}
    (reach : Reach expander files done current tree) (rest : Reach current tree later after written) :
    Reach expander files (done ++ later) after written := by
  induction rest with
  | start => simpa using reach
  | next _ step ih =>
    rw [← List.append_assoc]
    exact .next ih step

theorem single {declaration : Declaration} {path : Path}
    (written : (expander.expandDirective files declaration).1 = .ok path) :
    Reach expander files [declaration] (expander.expandDirective files declaration).2.1
      (expander.expandDirective files declaration).2.2 := by
  have step : Reach expander files [] expander files := .start
  generalize expanded : expander.expandDirective files declaration = outcome at written
  exact step.next (expanded.trans (Prod.ext written rfl))

/-- Either all directives of a list succeed, or there is a first one that does not. -/
theorem complete_or_first_failure (expander : Expander τ) (files : FileSystem links)
    (declarations : List Declaration) :
    (∃ current tree, Reach expander files declarations current tree) ∨
      ∃ done declaration rest current tree cause after left,
        declarations = done ++ declaration :: rest ∧ Reach expander files done current tree ∧
        current.expandDirective tree declaration = (.error cause, after, left) := by
  induction declarations generalizing expander files with
  | nil => exact .inl ⟨_, _, .start⟩
  | cons first others ih =>
    match step : expander.expandDirective files first with
    | (.error cause, after, left) =>
      exact .inr ⟨[], first, others, _, _, cause, after, left, rfl, .start, step⟩
    | (.ok path, after, written) =>
      have single : Reach expander files [first] after written := .next .start step
      rcases ih after written with ⟨current, tree, reach⟩ |
        ⟨done, declaration, rest, current, tree, cause, later, left, split, reach, fails⟩
      · exact .inl ⟨current, tree, single.append reach⟩
      · exact .inr ⟨first :: done, declaration, rest, current, tree, cause, later, left,
          by rw [split, List.cons_append], single.append reach, fails⟩

end Reach

namespace Report

/-- The report with the first so many entries written. -/
def markWritten (report : Report) : Nat → Report
  | 0 => report
  | count + 1 => (report.markWritten count).mark count .written

theorem getElem?_markWritten (report : Report) (count i : Nat) :
    (report.markWritten count).entries[i]? =
      report.entries[i]?.map fun entry =>
        { entry with state := if i < count then .written else entry.state } := by
  induction count with
  | zero => simp [markWritten]
  | succ count ih =>
    rw [markWritten, getElem?_mark, ih]
    by_cases last : count = i
    · subst last
      cases report.entries[count]? <;> simp
    · have bound : i < count ↔ i < count + 1 := by omega
      simp only [last, if_false, bound]

theorem length_markWritten (report : Report) (count : Nat) :
    (report.markWritten count).entries.length = report.entries.length := by
  induction count with
  | zero => rfl
  | succ count ih => rw [markWritten, length_mark, ih]

end Report

namespace Pass

theorem expandFrom_append {pass : Pass τ links} (going : pass.failure = none) (index : Nat)
    (declarations others : List Declaration) :
    pass.expandFrom index (declarations ++ others) =
      match pass.expandFrom index declarations with
      | (pass, index) =>
        match pass.failure with
        | none => pass.expandFrom index others
        | some _ => (pass, index) := by
  induction declarations generalizing pass index with
  | nil => simp [expandFrom, going]
  | cons declaration rest ih =>
    rw [List.cons_append, expandFrom, expandFrom]
    split
    · exact ih rfl _
    · rfl

/-- The two levels of the loop come to one over all directives, whatever namespaces are empty. -/
theorem expandNamespaces_eq {pass reached : Pass τ links} (going : pass.failure = none) {index position : Nat}
    {namespaces : List Namespace}
    (run : pass.expandFrom index (namespaces.flatMap Namespace.declarations) = (reached, position)) :
    pass.expandNamespaces index namespaces =
      match reached.failure with
      | none => reached.tell (.completed position)
      | some _ => reached := by
  induction namespaces generalizing pass index with
  | nil =>
    obtain ⟨rfl, rfl⟩ := Prod.mk.inj run
    simp only [expandNamespaces, going]
  | cons ns rest ih =>
    rw [List.flatMap_cons, expandFrom_append going] at run
    rw [expandNamespaces]
    match here : pass.expandFrom index ns.declarations with
    | (after, next) =>
      simp only [here] at run
      cases failed : after.failure with
      | none =>
        simp only [failed] at run ⊢
        exact ih failed run
      | some cause =>
        simp only [failed, Prod.mk.injEq] at run
        obtain ⟨rfl, rfl⟩ := run
        simp only [failed]

theorem expandFrom_of_reach (pass : Pass τ links) (going : pass.failure = none)
    {declarations : List Declaration} {current : Expander τ} {tree : FileSystem links}
    (reach : Reach pass.expander pass.files declarations current tree) :
    ∃ log, pass.expandFrom 0 declarations =
      (⟨current, tree, pass.report.markWritten declarations.length, log, none⟩,
        declarations.length) := by
  induction reach with
  | start =>
    refine ⟨pass.log, ?_⟩
    rw [← going]
    rfl
  | next _ step ih =>
    obtain ⟨log, run⟩ := ih
    rw [expandFrom_append going, run]
    simp only [expandFrom, step, List.length_append, List.length_singleton, Report.markWritten]
    exact ⟨_, rfl⟩

theorem expandFrom_of_failure (pass : Pass τ links) (going : pass.failure = none)
    {done : List Declaration} {current after : Expander τ} {tree left : FileSystem links}
    {declaration : Declaration} {cause : Error}
    (reach : Reach pass.expander pass.files done current tree)
    (fails : current.expandDirective tree declaration = (.error cause, after, left))
    (rest : List Declaration) :
    ∃ log, pass.expandFrom 0 (done ++ declaration :: rest) =
      (⟨after, left, (pass.report.markWritten done.length).mark done.length .aborted, log, some cause⟩,
        done.length) := by
  obtain ⟨log, run⟩ := expandFrom_of_reach pass going reach
  rw [expandFrom_append going, run]
  simp only [expandFrom, fails]
  exact ⟨_, rfl⟩

theorem result_eq_error {pass : Pass τ links} {cause : Error} :
    pass.result = .error cause ↔ pass.failure = some cause := by
  unfold result
  cases pass.failure <;> simp

theorem result_eq_ok {pass : Pass τ links} {report : Report} :
    pass.result = .ok report ↔ pass.failure = none ∧ pass.report = report := by
  unfold result
  cases pass.failure <;> simp

end Pass

/-- The three courses of a pass: no directive is tried as a root cannot be created, all directives
succeed, or a first one fails and none is tried after it. -/
inductive Course (expander : Expander τ) (files : FileSystem links) (task : Task) (report : Report) :
    Pass τ links → Prop
  | blocked {cause tree} : Pass.createRoots files expander.config = (.error cause, tree) →
      Course expander files task report ⟨expander.clear, tree, report, [], some cause⟩
  | finished {ready current tree log} : Pass.createRoots files expander.config = (.ok (), ready) →
      Reach expander.clear ready task.declarations current tree →
      Course expander files task report
        ⟨current, tree, report.markWritten task.directiveCount, log, none⟩
  | stopped {ready done declaration rest current tree cause after left log} :
      Pass.createRoots files expander.config = (.ok (), ready) →
      task.declarations = done ++ declaration :: rest →
      Reach expander.clear ready done current tree →
      current.expandDirective tree declaration = (.error cause, after, left) →
      Course expander files task report
        ⟨after, left, (report.markWritten done.length).mark done.length .aborted, log, some cause⟩

namespace Expander

variable {expander current : Expander τ} {files ready tree : FileSystem links} {task : Task}

theorem expandInto_of_blocked {cause : Error}
    (blocked : Pass.createRoots files expander.config = (.error cause, tree)) (report : Report) :
    expander.expandInto files task report = ⟨expander.clear, tree, report, [], some cause⟩ := by
  simp only [expandInto, blocked]

/-- The pass that is about to try its first directive. -/
def opening (expander : Expander τ) (ready : FileSystem links) (task : Task) (report : Report) :
    Pass τ links where
  expander := expander.clear
  files := ready
  report := report
  log := task.duplicateOutputs.map Event.duplicate ++
    [.started task.directiveCount task.namespaces.length expander.config.outputRoot]

theorem expandInto_of_ready (roots : Pass.createRoots files expander.config = (.ok (), ready))
    (report : Report) :
    expander.expandInto files task report =
      (expander.opening ready task report).expandNamespaces 0 task.namespaces := by
  simp only [expandInto, roots]
  rfl

theorem expandInto_of_reach (roots : Pass.createRoots files expander.config = (.ok (), ready))
    (reach : Reach expander.clear ready task.declarations current tree) (report : Report) :
    ∃ log, expander.expandInto files task report =
      ⟨current, tree, report.markWritten task.directiveCount, log, none⟩ := by
  obtain ⟨log, run⟩ := Pass.expandFrom_of_reach (expander.opening ready task report) rfl reach
  rw [expandInto_of_ready roots, Pass.expandNamespaces_eq rfl run, ← task.length_declarations]
  exact ⟨_, rfl⟩

theorem expandInto_of_failure (roots : Pass.createRoots files expander.config = (.ok (), ready))
    {done rest : List Declaration} {declaration : Declaration} {cause : Error} {after : Expander τ}
    {left : FileSystem links} (split : task.declarations = done ++ declaration :: rest)
    (reach : Reach expander.clear ready done current tree)
    (fails : current.expandDirective tree declaration = (.error cause, after, left))
    (report : Report) :
    ∃ log, expander.expandInto files task report =
      ⟨after, left, (report.markWritten done.length).mark done.length .aborted, log, some cause⟩ := by
  obtain ⟨log, run⟩ := Pass.expandFrom_of_failure (expander.opening ready task report) rfl reach
    fails rest
  rw [← split] at run
  rw [expandInto_of_ready roots, Pass.expandNamespaces_eq rfl run]
  exact ⟨_, rfl⟩

theorem expand_of_reach (roots : Pass.createRoots files expander.config = (.ok (), ready))
    (reach : Reach expander.clear ready task.declarations current tree) :
    (expander.expand files task).failure = none ∧
      (expander.expand files task).expander = current ∧
      (expander.expand files task).files = tree := by
  obtain ⟨log, run⟩ := expandInto_of_reach roots reach (.pending task expander.config.outputRoot)
  unfold expand
  rw [run]
  exact ⟨rfl, rfl, rfl⟩

theorem expand_of_failure (roots : Pass.createRoots files expander.config = (.ok (), ready))
    {done rest : List Declaration} {declaration : Declaration} {cause : Error} {after : Expander τ}
    {left : FileSystem links} (split : task.declarations = done ++ declaration :: rest)
    (reach : Reach expander.clear ready done current tree)
    (fails : current.expandDirective tree declaration = (.error cause, after, left)) :
    (expander.expand files task).failure = some cause ∧
      (expander.expand files task).expander = after ∧
      (expander.expand files task).files = left := by
  obtain ⟨log, run⟩ := expandInto_of_failure roots split reach fails
    (.pending task expander.config.outputRoot)
  unfold expand
  rw [run]
  exact ⟨rfl, rfl, rfl⟩

theorem course (expander : Expander τ) (files : FileSystem links) (task : Task) (report : Report) :
    Course expander files task report (expander.expandInto files task report) := by
  match roots : Pass.createRoots files expander.config with
  | (.error cause, tree) =>
    rw [expandInto_of_blocked roots]
    exact .blocked roots
  | (.ok (), ready) =>
    rcases Reach.complete_or_first_failure expander.clear ready task.declarations with
      ⟨current, tree, reach⟩ |
      ⟨done, declaration, rest, current, tree, cause, after, left, split, reach, fails⟩
    · obtain ⟨log, run⟩ := expandInto_of_reach roots reach report
      rw [run]
      exact .finished roots reach
    · obtain ⟨log, run⟩ := expandInto_of_failure roots split reach fails report
      rw [run]
      exact .stopped roots split reach fails

theorem expand_course (expander : Expander τ) (files : FileSystem links) (task : Task) :
    Course expander files task (.pending task expander.config.outputRoot)
      (expander.expand files task) :=
  expander.course files task _

/-- A pass that went through has come to the end of its directives. -/
theorem reach_of_ok {report : Report} (succeeded : (expander.expand files task).result = .ok report) :
    ∃ ready, Pass.createRoots files expander.config = (.ok (), ready) ∧
      Reach expander.clear ready task.declarations (expander.expand files task).expander
        (expander.expand files task).files ∧
      report = (Report.pending task expander.config.outputRoot).markWritten task.directiveCount := by
  obtain ⟨went, same⟩ := Pass.result_eq_ok.mp succeeded
  have course := expander.expand_course files task
  generalize expander.expand files task = pass at course went same
  cases course with
  | blocked roots => cases went
  | finished roots reach => exact ⟨_, roots, reach, same.symm⟩
  | stopped roots split reach fails => cases went

end Expander

end Stencil.Expansion
