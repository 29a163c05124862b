import Stencil.Proofs.ExpansionReach

namespace Stencil.Expansion

variable {τ : Type} {links : Linkage}

/-- The state of the entry at a position when so many of all directives succeeded before the first
failure. -/
def State.reached (succeeded total position : Nat) (old : State) : State :=
  if position < succeeded then .written
  else if position = succeeded ∧ succeeded < total then .aborted
  else old

/-- One report is another one in which a run over so many directives has left its marks. -/
structure Report.Marked (before after : Report) (succeeded total : Nat) : Prop where
  length : after.entries.length = before.entries.length
  entry : ∀ (i : Nat) (entry : Entry), before.entries[i]? = some entry →
    after.entries[i]? = some { entry with state := State.reached succeeded total i entry.state }

namespace Report

theorem marked_markWritten (report : Report) (total : Nat) :
    report.Marked (report.markWritten total) total total where
  length := report.length_markWritten total
  entry i entry present := by
    rw [getElem?_markWritten, present]
    simp [State.reached]

theorem marked_mark_aborted (report : Report) {succeeded total : Nat} (failed : succeeded < total) :
    report.Marked ((report.markWritten succeeded).mark succeeded .aborted) succeeded total where
  length := by rw [length_mark, length_markWritten]
  entry i entry present := by
    rw [getElem?_mark, getElem?_markWritten, present]
    by_cases here : succeeded = i
    · subst here
      simp [State.reached, failed]
    · have elsewhere : ¬ i = succeeded := fun same => here same.symm
      simp [State.reached, here, elsewhere]

/-- The entries of a fresh report once all of them are written. -/
theorem entries_written (task : Task) (root : Path) :
    ((pending task root).markWritten task.directiveCount).entries =
      task.declarations.map fun declaration =>
        ⟨declaration.namespaceName, declaration.outputFile root, .written⟩ := by
  apply List.ext_getElem?
  intro i
  rw [getElem?_markWritten, pending, List.getElem?_map, List.getElem?_map, Option.map_map]
  cases there : task.declarations[i]? with
  | none => rfl
  | some declaration =>
    have bound := (List.getElem?_eq_some_iff.mp there).1
    rw [task.length_declarations] at bound
    simp [bound]

namespace Marked

variable {task : Task} {root : Path} {after : Report} {succeeded : Nat}

/-- A fresh report still names the directives of its task, each at its place. -/
theorem pending_outputs (marked : (pending task root).Marked after succeeded task.directiveCount) :
    after.entries.map (fun entry => (entry.namespaceName, entry.output)) =
      task.declarations.map fun declaration =>
        (declaration.namespaceName, declaration.outputFile root) := by
  apply List.ext_getElem?
  intro i
  rw [List.getElem?_map, List.getElem?_map]
  match there : task.declarations[i]? with
  | none =>
    have short := marked.length
    simp only [pending, List.length_map] at short
    have past : after.entries[i]? = none := by
      rw [List.getElem?_eq_none_iff] at there ⊢
      omega
    rw [past]
    rfl
  | some declaration =>
    have entry : (pending task root).entries[i]? =
        some ⟨declaration.namespaceName, declaration.outputFile root, .pending⟩ := by
      simp [pending, there]
    rw [marked.entry i _ entry]
    rfl

/-- The states of a fresh report are those of the directives that succeeded, the one that failed,
and all that were not tried, in this order. -/
theorem pending_states (marked : (pending task root).Marked after succeeded task.directiveCount)
    (bound : succeeded ≤ task.directiveCount) :
    after.entries.map (·.state) =
      List.replicate succeeded .written ++
        if succeeded = task.directiveCount then []
        else .aborted :: List.replicate (task.directiveCount - succeeded - 1) .pending := by
  have length := marked.length
  rw [length_pending] at length
  apply List.ext_getElem
  · split <;> simp <;> omega
  · intro i inAfter inStates
    rw [List.length_map] at inAfter
    have inPending : i < (pending task root).entries.length := by
      rw [length_pending]
      omega
    have entry := marked.entry i _ (List.getElem?_eq_getElem inPending)
    rw [List.getElem?_eq_getElem inAfter, Option.some.injEq] at entry
    have old : (pending task root).entries[i].state = .pending := by simp [pending]
    rw [List.getElem_map, entry, List.getElem_append, old]
    simp only [State.reached, List.length_replicate, List.getElem_replicate]
    split
    · rfl
    · next notBefore =>
      have unfinished : succeeded ≠ task.directiveCount := by omega
      simp only [if_neg unfinished, List.getElem_cons, List.getElem_replicate]
      have less : succeeded < task.directiveCount := by omega
      by_cases here : i = succeeded
      · simp [here, less]
      · have beyond : i - succeeded ≠ 0 := by omega
        simp [here, beyond]

/-- A fresh report of a run that went through is complete, and lists all outputs in order. -/
theorem pending_complete
    (marked : (pending task root).Marked after task.directiveCount task.directiveCount) :
    after.isComplete = true ∧
      after.written = task.declarations.map (·.outputFile root) := by
  have states := marked.pending_states (Nat.le_refl _)
  rw [if_pos rfl, List.append_nil] at states
  have every : ∀ entry ∈ after.entries, (entry.state == .written) = true := by
    intro entry member
    have inStates : entry.state ∈ after.entries.map (·.state) := List.mem_map_of_mem member
    rw [states] at inStates
    exact beq_iff_eq.mpr (List.eq_of_mem_replicate inStates)
  have outputs := congrArg (List.map Prod.snd) marked.pending_outputs
  rw [List.map_map, List.map_map] at outputs
  refine ⟨List.all_eq_true.mpr every, ?_⟩
  unfold written
  rw [List.filter_eq_self.mpr every]
  exact outputs

/-- In a fresh report only the entry at which the run ended is aborted. -/
theorem eq_of_pending_aborted
    (marked : (pending task root).Marked after succeeded task.directiveCount) {i : Nat}
    (aborted : after.entries[i]?.map (·.state) = some .aborted) :
    i = succeeded ∧ succeeded < task.directiveCount := by
  obtain ⟨last, there, state⟩ := Option.map_eq_some_iff.mp aborted
  have inAfter := (List.getElem?_eq_some_iff.mp there).1
  have inPending : i < (pending task root).entries.length := by
    rw [← marked.length]
    exact inAfter
  have entry := marked.entry i _ (List.getElem?_eq_getElem inPending)
  rw [there, Option.some.injEq] at entry
  have old : (pending task root).entries[i].state = .pending := by simp [pending]
  rw [entry, old] at state
  simp only [State.reached] at state
  split at state
  · cases state
  · split at state
    · assumption
    · cases state

end Marked

end Report

theorem Pass.createRoots_error {files tree : FileSystem links} {config : Config} {cause : Error}
    (blocked : Pass.createRoots files config = (.error cause, tree)) :
    ∃ root why, (root = config.templateRoot ∨ root = config.outputRoot) ∧
      cause = .createDirectory root why := by
  have named {files tree : FileSystem links} {root : Path}
      (fails : createDirectories files root = (.error cause, tree)) :
      ∃ why, cause = .createDirectory root why := by
    unfold createDirectories at fails
    split at fails
    · simp at fails
    · simp only [Prod.mk.injEq, Except.error.injEq] at fails
      exact ⟨_, fails.1.symm⟩
  unfold createRoots at blocked
  split at blocked
  · obtain ⟨why, same⟩ := named blocked
    exact ⟨_, why, .inr rfl, same⟩
  · next fails =>
    simp only [Prod.mk.injEq, Except.error.injEq] at blocked
    obtain ⟨rfl, rfl⟩ := blocked
    obtain ⟨why, same⟩ := named fails
    exact ⟨_, why, .inl rfl, same⟩

/-- Once the roots are there, the directives that succeed are a first part of all directives, and
every report tells exactly this part and where it ended. -/
theorem Expander.expandInto_marks {expander : Expander τ} {files ready : FileSystem links}
    (roots : Pass.createRoots files expander.config = (.ok (), ready)) (task : Task) :
    ∃ succeeded, succeeded ≤ task.directiveCount ∧
      (∃ current tree,
        Reach expander.clear ready (task.declarations.take succeeded) current tree ∧
        ∀ declaration, task.declarations[succeeded]? = some declaration →
          ∃ cause, (current.expandDirective tree declaration).1 = .error cause ∧
            ∀ report, (expander.expandInto files task report).failure = some cause) ∧
      ∀ report,
        ((expander.expandInto files task report).failure = none ↔ succeeded = task.directiveCount) ∧
        report.Marked (expander.expandInto files task report).report succeeded
          task.directiveCount := by
  rcases Reach.complete_or_first_failure expander.clear ready task.declarations with
    ⟨current, tree, reach⟩ |
    ⟨done, declaration, rest, current, tree, cause, after, left, split, reach, fails⟩
  · refine ⟨task.directiveCount, Nat.le_refl _, ⟨current, tree, ?_, ?_⟩, fun report => ?_⟩
    · rwa [← task.length_declarations, List.take_length]
    · intro declaration there
      simp [← task.length_declarations] at there
    · obtain ⟨log, run⟩ := expandInto_of_reach roots reach report
      rw [run]
      exact ⟨⟨fun _ => rfl, fun _ => rfl⟩, report.marked_markWritten _⟩
  · have count := task.length_declarations
    rw [split, List.length_append, List.length_cons] at count
    have less : done.length < task.directiveCount := by omega
    refine ⟨done.length, Nat.le_of_lt less, ⟨current, tree, ?_, ?_⟩, fun report => ?_⟩
    · rwa [split, List.take_left]
    · intro other there
      rw [split, List.getElem?_append_right (Nat.le_refl _), Nat.sub_self, List.getElem?_cons_zero,
        Option.some.injEq] at there
      subst other
      refine ⟨cause, by rw [fails], fun report => ?_⟩
      obtain ⟨log, run⟩ := expandInto_of_failure roots split reach fails report
      rw [run]
    · obtain ⟨log, run⟩ := expandInto_of_failure roots split reach fails report
      rw [run]
      refine ⟨⟨fun finished => ?_, fun all => ?_⟩, report.marked_mark_aborted less⟩
      · cases finished
      · omega

/-- The run law of a pass. How far it gets does not depend on the report that is handed in, nor on
how the directives are spread over namespaces; a fresh report has one entry for each directive. -/
theorem Expander.expandInto_run_law (expander : Expander τ) (files : FileSystem links) (task : Task) :
    match Pass.createRoots files expander.config with
    | (.error cause, _) =>
      (∃ root why, (root = expander.config.templateRoot ∨ root = expander.config.outputRoot) ∧
        cause = .createDirectory root why) ∧
      ∀ report, (expander.expandInto files task report).failure = some cause ∧
        (expander.expandInto files task report).report = report
    | (.ok (), ready) =>
      ∃ succeeded, succeeded ≤ task.directiveCount ∧
        (∃ current tree,
          Reach expander.clear ready (task.declarations.take succeeded) current tree ∧
          ∀ declaration, task.declarations[succeeded]? = some declaration →
            ∃ cause, (current.expandDirective tree declaration).1 = .error cause ∧
              ∀ report, (expander.expandInto files task report).failure = some cause) ∧
        (∀ report,
          ((expander.expandInto files task report).failure = none ↔
            succeeded = task.directiveCount) ∧
          report.Marked (expander.expandInto files task report).report succeeded
            task.directiveCount) ∧
        (expander.expand files task).report.entries.map
            (fun entry => (entry.namespaceName, entry.output)) =
          task.declarations.map (fun declaration =>
            (declaration.namespaceName, declaration.outputFile expander.config.outputRoot)) ∧
        (expander.expand files task).report.entries.map (·.state) =
          List.replicate succeeded .written ++
            if succeeded = task.directiveCount then []
            else .aborted :: List.replicate (task.directiveCount - succeeded - 1) .pending := by
  match roots : Pass.createRoots files expander.config with
  | (.error cause, tree) =>
    refine ⟨Pass.createRoots_error roots, fun report => ?_⟩
    rw [expandInto_of_blocked roots]
    exact ⟨rfl, rfl⟩
  | (.ok (), ready) =>
    obtain ⟨succeeded, bound, reach, marks⟩ := expandInto_marks roots task
    have fresh := (marks (.pending task expander.config.outputRoot)).2
    exact ⟨succeeded, bound, reach, marks, fresh.pending_outputs, fresh.pending_states bound⟩

end Stencil.Expansion
