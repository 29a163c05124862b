import Stencil.Proofs.Containment
import Stencil.Proofs.RunLaw
import Stencil.Template.Language

namespace Stencil

namespace Task

/-- The namespaces with the first so many of their directives, all of them counted together. -/
def takeDirectives : Nat → List Namespace → List Namespace
  | _, [] => []
  | count, ns :: rest =>
    ⟨ns.name, ns.directives.take count⟩ :: takeDirectives (count - ns.directives.length) rest

/-- The task with its first so many directives, in the same namespaces and the same order. -/
def take (task : Task) (count : Nat) : Task :=
  ⟨takeDirectives count task.namespaces⟩

theorem declarations_take (task : Task) (count : Nat) :
    (task.take count).declarations = task.declarations.take count := by
  unfold take declarations
  simp only
  induction task.namespaces generalizing count with
  | nil => simp [takeDirectives]
  | cons ns rest ih =>
    rw [takeDirectives, List.flatMap_cons, List.flatMap_cons, List.take_append, ih,
      ns.length_declarations]
    simp [Namespace.declarations, List.map_take]

end Task

namespace Expansion

variable {τ : Type}

namespace Expander

variable {expander current : Expander τ} {files ready tree : FileSystem} {task : Task}

/-- A pass whose report has an aborted entry has come as far as this entry, and failed there. -/
theorem stopped_of_aborted {i : Nat}
    (aborted : (expander.expand files task).report.entries[i]?.map (·.state) = some .aborted) :
    ∃ ready done declaration rest current tree cause after left,
      Pass.createRoots files expander.config = (.ok (), ready) ∧
      task.declarations = done ++ declaration :: rest ∧ done.length = i ∧
      Reach expander.clear ready done current tree ∧
      current.expandDirective tree declaration = (.error cause, after, left) ∧
      (expander.expand files task).failure = some cause ∧
      (expander.expand files task).files = left := by
  have course := expander.expand_course files task
  generalize expander.expand files task = pass at course aborted
  cases course with
  | blocked roots =>
    obtain ⟨entry, there, state⟩ := Option.map_eq_some_iff.mp aborted
    simp only [Report.pending, List.getElem?_map, Option.map_eq_some_iff] at there
    obtain ⟨_, _, rfl⟩ := there
    cases state
  | finished roots reach =>
    have marked := (Report.pending task expander.config.outputRoot).marked_markWritten
      task.directiveCount
    exact absurd (marked.eq_of_pending_aborted aborted).2 (Nat.lt_irrefl _)
  | @stopped ready done declaration rest current tree cause after left log roots split reach fails =>
    have count := task.length_declarations
    rw [split, List.length_append, List.length_cons] at count
    have less : done.length < task.directiveCount := by omega
    have marked := (Report.pending task expander.config.outputRoot).marked_mark_aborted less
    exact ⟨ready, done, declaration, rest, current, tree, cause, after, left, roots, split,
      (marked.eq_of_pending_aborted aborted).1.symm, reach, fails, rfl, rfl⟩

/-- A directive that fails leaves the files alone, but for directories on the way to its output when
it is only these, or the file in the last of them, that cannot be created. -/
theorem expandDirective_error_growth {declaration : Declaration} {cause : Error} {after : Expander τ}
    {left : FileSystem}
    (fails : current.expandDirective tree declaration = (.error cause, after, left)) :
    left = tree ∨
      (∃ path why, cause = .createDirectory path why ∨ cause = .write path why) ∧
        Growth tree left (left.OnPath (declaration.outputFile current.config.outputRoot))
          fun _ => False := by
  rcases current.expandDirective_cases tree declaration with ⟨_, whole⟩ | ⟨contained,
    ⟨_, _, _, whole⟩ | ⟨text, _, _, _, _, stored, whole⟩ | ⟨_, _, _, _, _, whole⟩⟩
  · rw [whole, Prod.mk.injEq, Prod.mk.injEq] at fails
    exact .inl fails.2.2.symm
  · rw [whole, Prod.mk.injEq, Prod.mk.injEq] at fails
    exact .inl fails.2.2.symm
  · rw [whole, Prod.mk.injEq, Prod.mk.injEq, Except.error.injEq] at fails
    obtain ⟨rfl, _, rfl⟩ := fails
    obtain ⟨why, growth⟩ := store_error contained stored
    have upward : (current.config.outputRoot.join declaration.directory).components <+:
        (declaration.outputFile current.config.outputRoot).components := by
      rw [Declaration.outputFile_components contained, Declaration.directory_components contained]
      exact List.prefix_append _ _
    refine .inr ⟨why, growth.mono ?_ fun _ nothing => nothing⟩
    rintro location ⟨above, within, found⟩
    exact ⟨above, within.trans upward, found⟩
  · rw [whole] at fails
    cases (Prod.mk.inj fails).1

/-- A pass that fails at a directive leaves the files as the pass over the directives before it does,
which succeeds. Only when the output itself cannot be created there may be directories on the way to
it besides. The directives behind it could be any others. -/
theorem expand_failure_atomic (expander : Expander τ) (files : FileSystem) (task : Task) {i : Nat}
    {cause : Error} (failed : (expander.expand files task).result = .error cause)
    (aborted : (expander.expand files task).report.entries[i]?.map (·.state) = some .aborted) :
    (∃ report, (expander.expand files (task.take i)).result = .ok report) ∧
    (match cause with
      | .createDirectory .. | .write .. =>
        (∀ location content,
          (expander.expand files task).files.get? location = some (.file content) ↔
            (expander.expand files (task.take i)).files.get? location = some (.file content)) ∧
        ∃ declaration, task.declarations[i]? = some declaration ∧
          ∀ location, (expander.expand files task).files.item? location =
              (expander.expand files (task.take i)).files.item? location ∨
            (expander.expand files (task.take i)).files.item? location = none ∧
            (expander.expand files task).files.item? location = some .directory ∧
            ∃ above : Path, above.components <+:
                (declaration.outputFile expander.config.outputRoot).components ∧
              (expander.expand files task).files.resolve above = .ok location
      | _ => (expander.expand files task).files = (expander.expand files (task.take i)).files) ∧
    ∀ other : Task, other.declarations.take (i + 1) = task.declarations.take (i + 1) →
      (expander.expand files other).result = .error cause ∧
        (expander.expand files other).files = (expander.expand files task).files := by
  obtain ⟨ready, done, declaration, rest, current, tree, why, after, left, roots, split, rfl, reach,
    fails, failure, final⟩ := stopped_of_aborted aborted
  rw [Pass.result_eq_error, failure, Option.some.injEq] at failed
  subst why
  have sooner : (task.take done.length).declarations = done := by
    rw [task.declarations_take, split, List.take_left]
  obtain ⟨went, _, shorter⟩ := expand_of_reach roots (sooner.symm ▸ reach)
  have there : task.declarations[done.length]? = some declaration := by
    rw [split, List.getElem?_append_right (Nat.le_refl _), Nat.sub_self, List.getElem?_cons_zero]
  have effect := expandDirective_error_growth fails
  rw [reach.alike.config] at effect
  have growth : Growth tree left (left.OnPath (declaration.outputFile expander.config.outputRoot))
      fun _ => False := by
    rcases effect with same | ⟨_, growth⟩
    · rw [same]
      exact .refl ..
    · exact growth
  refine ⟨⟨_, Pass.result_eq_ok.mpr ⟨went, rfl⟩⟩, ?_, fun other same => ?_⟩
  · rw [final, shorter]
    have added (location : Location) : left.item? location = tree.item? location ∨
        tree.item? location = none ∧ left.item? location = some .directory ∧
          left.OnPath (declaration.outputFile expander.config.outputRoot) location := by
      rcases growth.item location with same | created | ⟨_, _, nothing⟩
      · exact .inl same
      · exact .inr created
      · exact nothing.elim
    have contents (location : Location) (content : Content) :
        left.get? location = some (.file content) ↔ tree.get? location = some (.file content) :=
      growth.get?_file (fun nothing => nothing) content
    rcases effect with same | ⟨⟨path, why, rfl | rfl⟩, _⟩
    · cases cause with
      | createDirectory _ _ | write _ _ => exact ⟨contents, declaration, there, added⟩
      | _ => exact same
    · exact ⟨contents, declaration, there, added⟩
    · exact ⟨contents, declaration, there, added⟩
  · have front : task.declarations.take (done.length + 1) = done ++ [declaration] := by
      rw [split, List.take_length_add_append]
      rfl
    have again : other.declarations = done ++ declaration :: other.declarations.drop (done.length + 1) := by
      rw [List.append_cons, ← front, ← same, List.take_append_drop]
    obtain ⟨failedAgain, _, left⟩ := expand_of_failure roots again reach fails
    rw [Pass.result_eq_error, final]
    exact ⟨failedAgain, left⟩

/-- One template of a class, and nothing generated from it yet. -/
def sampleFiles (links : Linkage := .linked) : FileSystem links where
  root := .directory [("templates", .directory
    [("model", .directory [("Class.java.ftl", .file (.text "class {{ Type }}"))])])]

def sampleExpander : Expander Template where
  engine := Template.engine
  config := { templateRoot := ⟨"templates"⟩, outputRoot := ⟨"generated"⟩ }

/-- The second of two directives asks for a template that does not exist. -/
theorem expand_failure_atomic_missing_template :
    let task : Task := ⟨[⟨"model", [⟨"A", .single .int, "Class"⟩, ⟨"B", .single .int, "Record"⟩]⟩]⟩
    (sampleExpander.expand sampleFiles task).result =
        .error (.templateNotFound ⟨"templates/model/Record.java.ftl"⟩) ∧
      (sampleExpander.expand sampleFiles task).files =
        (sampleExpander.expand sampleFiles (task.take 1)).files := by
  intro task
  have failed : (sampleExpander.expand sampleFiles task).result =
      .error (.templateNotFound ⟨"templates/model/Record.java.ftl"⟩) :=
    Pass.result_eq_error.mpr (by decide +kernel)
  exact ⟨failed, (expand_failure_atomic sampleExpander sampleFiles task failed
    (i := 1) (by decide +kernel)).2.1⟩

end Expander

end Expansion

end Stencil
