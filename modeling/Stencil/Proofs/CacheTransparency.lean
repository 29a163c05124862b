import Stencil.Proofs.ExpanderHistory
import Stencil.Proofs.FailureAtomicity
import Stencil.Proofs.RequestedTemplates

namespace Stencil.Expansion

variable {τ : Type} {links : Linkage}

/-- A call for the text of a directive, with the files as they are at the time. -/
structure Call (links : Linkage) where
  files : FileSystem links
  declaration : Declaration

namespace Expander

/-- The answers to calls that are made one after the other. -/
def answers (expander : Expander τ) : List (Call links) → List (Except Error String)
  | [] => []
  | call :: rest =>
    (expander.render call.files call.declaration).1 ::
      (expander.render call.files call.declaration).2.answers rest

def afterCalls (expander : Expander τ) (calls : List (Call links)) : Expander τ :=
  calls.foldl (fun expander call => (expander.render call.files call.declaration).2) expander

/-- The templates that calls ask for, in order, each with the files at the time. -/
def lookups (expander : Expander τ) : List (Call links) → List (FileSystem links × String)
  | [] => []
  | call :: rest =>
    (expander.renderRequests call.files call.declaration).map (call.files, ·) ++
      (expander.render call.files call.declaration).2.lookups rest

/-- Each template that is asked for reads as it did when the first one was asked for. -/
def Steady (expander : Expander τ) (calls : List (Call links)) : Prop :=
  ∀ first ∈ (expander.lookups calls).head?, ∀ lookup ∈ expander.lookups calls,
    loadSource lookup.1 expander.config.templateRoot lookup.2 =
      loadSource first.1 expander.config.templateRoot lookup.2

/-- The calls for texts that directives come to when they are expanded in order. -/
def callsFrom (expander : Expander τ) (files : FileSystem links) : List Declaration → List (Call links)
  | [] => []
  | declaration :: rest =>
    (if declaration.isContained then [⟨files, declaration⟩] else []) ++
      match expander.expandDirective files declaration with
      | (.ok _, expander, files) => expander.callsFrom files rest
      | (.error _, _, _) => []

/-- The calls for texts that a pass comes to. -/
def passCalls (expander : Expander τ) (files : FileSystem links) (task : Task) : List (Call links) :=
  match Pass.createRoots files expander.config with
  | (.ok (), ready) => expander.clear.callsFrom ready task.declarations
  | (.error _, _) => []

section

variable {expander : Expander τ} {answer : String → Except Template.Error τ} {calls : List (Call links)}

theorem afterCalls_append (expander : Expander τ) (calls others : List (Call links)) :
    expander.afterCalls (calls ++ others) = (expander.afterCalls calls).afterCalls others :=
  List.foldl_append

theorem lookups_append (expander : Expander τ) (calls others : List (Call links)) :
    expander.lookups (calls ++ others) =
      expander.lookups calls ++ (expander.afterCalls calls).lookups others := by
  induction calls generalizing expander with
  | nil => rfl
  | cons call rest ih =>
    rw [List.cons_append, lookups, lookups, ih, List.append_assoc]
    rfl

/-- While everything reads as one lookup answers, nothing else is kept, and an expander that has loaded
nothing gives the same answers. -/
theorem answers_of_holds (held : expander.Holds answer)
    (loads : ∀ lookup ∈ expander.lookups calls, expander.load lookup.1 lookup.2 = answer lookup.2) :
    expander.answers calls =
        calls.map (fun call => (expander.clear.render call.files call.declaration).1) ∧
      (expander.afterCalls calls).Holds answer := by
  induction calls generalizing expander with
  | nil => exact ⟨rfl, held⟩
  | cons call rest ih =>
    have alike := expander.render_alike call.files call.declaration
    have cleared : expander.Alike expander.clear := ⟨rfl, rfl⟩
    have now : ∀ name ∈ expander.renderRequests call.files call.declaration,
        expander.load call.files name = answer name := fun name asked =>
      loads (call.files, name) (List.mem_append_left _ (List.mem_map_of_mem asked))
    obtain ⟨same, holds, _⟩ := render_of_holds cleared held (expander.holds_clear answer) now
    obtain ⟨later, kept⟩ := ih holds fun lookup asked => by
      rw [alike.load]
      exact loads lookup (List.mem_append_right _ asked)
    rw [alike.clear] at later
    refine ⟨?_, kept⟩
    rw [answers, later, List.map_cons, same]

/-- In steady calls the loader answers at any time as it did at first. -/
theorem Steady.exists_answer (steady : expander.Steady calls) :
    ∃ answer : String → Except Template.Error τ, ∀ lookup ∈ expander.lookups calls,
      expander.load lookup.1 lookup.2 = answer lookup.2 := by
  cases asked : expander.lookups calls with
  | nil => exact ⟨expander.load ({} : FileSystem links), fun _ member => nomatch member⟩
  | cons first rest =>
    refine ⟨expander.load first.1, fun lookup member => ?_⟩
    rw [← asked] at member
    have same := steady first (by rw [asked]; rfl) lookup member
    unfold load
    rw [same]

end

section

variable {expander current after : Expander τ} {files tree written : FileSystem links}
  {declaration : Declaration}

theorem callsFrom_of_ok {path : Path}
    (step : expander.expandDirective files declaration = (.ok path, after, written))
    (rest : List Declaration) :
    expander.callsFrom files (declaration :: rest) =
      (if declaration.isContained then [⟨files, declaration⟩] else []) ++ after.callsFrom written rest := by
  rw [callsFrom, step]

theorem callsFrom_of_error {cause : Error}
    (fails : expander.expandDirective files declaration = (.error cause, after, written))
    (rest : List Declaration) :
    expander.callsFrom files (declaration :: rest) =
      if declaration.isContained then [⟨files, declaration⟩] else [] := by
  rw [callsFrom, fails, List.append_nil]

theorem afterCalls_of_expanded {result : Except Error Path}
    (expanded : expander.expandDirective files declaration = (result, after, written)) :
    expander.afterCalls (if declaration.isContained then [⟨files, declaration⟩] else []) = after := by
  have last := expander.expandDirective_expander files declaration
  rw [expanded] at last
  simp only at last
  rw [last]
  split <;> rfl

end

end Expander

section

variable {expander current : Expander τ} {files tree : FileSystem links} {done : List Declaration}

theorem Reach.callsFrom (reach : Reach expander files done current tree) (rest : List Declaration) :
    expander.callsFrom files (done ++ rest) =
      expander.callsFrom files done ++ current.callsFrom tree rest := by
  induction reach generalizing rest with
  | start => rfl
  | @next done current tree declaration path after written previous step ih =>
    rw [List.append_assoc, List.singleton_append, ih, ih [declaration], Expander.callsFrom_of_ok step,
      Expander.callsFrom_of_ok step, Expander.callsFrom, List.append_nil, List.append_assoc]

/-- What an expander keeps is what the calls have loaded that the directives came to. -/
theorem Reach.afterCalls (reach : Reach expander files done current tree) :
    expander.afterCalls (expander.callsFrom files done) = current := by
  induction reach with
  | start => rfl
  | @next done current tree declaration path after written previous step ih =>
    rw [previous.callsFrom, Expander.afterCalls_append, ih, Expander.callsFrom_of_ok step,
      Expander.callsFrom, List.append_nil, Expander.afterCalls_of_expanded step]

end

namespace Expander

theorem passCalls_of_ready {expander : Expander τ} {files ready : FileSystem links}
    (roots : Pass.createRoots files expander.config = (.ok (), ready)) (task : Task) :
    expander.passCalls files task = expander.clear.callsFrom ready task.declarations := by
  unfold passCalls
  rw [roots]

theorem afterCalls_passCalls (expander : Expander τ) (files : FileSystem links) (task : Task)
    (report : Report) :
    expander.clear.afterCalls (expander.passCalls files task) =
      (expander.expandInto files task report).expander := by
  have course := expander.course files task report
  generalize expander.expandInto files task report = pass at course
  cases course with
  | blocked roots =>
    unfold passCalls
    rw [roots]
    rfl
  | finished roots reach => rw [passCalls_of_ready roots, reach.afterCalls]
  | stopped roots split reach fails =>
    rw [passCalls_of_ready roots, split, reach.callsFrom, afterCalls_append, reach.afterCalls,
      callsFrom_of_error fails, afterCalls_of_expanded fails]

/-- Where an expander has nothing loaded: when it is made, and in a pass, whatever was asked before. -/
inductive Origin (links : Linkage) where
  | made
  | cleared (history : List (Request links)) (files : FileSystem links) (task : Task) (report : Report)

namespace Origin

/-- The expander that was made, or that has come through the pass. -/
def expander (engine : Engine τ) (config : Config) : Origin links → Expander τ
  | made => ⟨engine, config, []⟩
  | cleared history files task report =>
    ((history.foldl after ⟨engine, config, []⟩).expandInto files task report).expander

/-- The calls since nothing was loaded. -/
def calls (engine : Engine τ) (config : Config) : Origin links → List (Call links)
  | made => []
  | cleared history files task _ => (history.foldl after ⟨engine, config, []⟩).passCalls files task

variable {engine : Engine τ} {config : Config}

theorem afterCalls_calls (engine : Engine τ) (config : Config) (origin : Origin links) :
    (Expander.mk engine config []).afterCalls (origin.calls engine config) =
      origin.expander engine config := by
  cases origin with
  | made => rfl
  | cleared history files task report =>
    have alike := history_alike ⟨engine, config, []⟩ history
    have kept := (history.foldl after ⟨engine, config, []⟩).afterCalls_passCalls files task report
    rw [alike.clear] at kept
    exact kept

theorem alike (engine : Engine τ) (config : Config) (origin : Origin links) :
    (Expander.mk engine config []).Alike (origin.expander engine config) := by
  cases origin with
  | made => exact ⟨rfl, rfl⟩
  | cleared history files task report =>
    exact (history_alike _ history).trans (expandInto_alike _ files task report)

theorem answers_eq {origin : Origin links} {calls : List (Call links)}
    (steady : (Expander.mk engine config []).Steady (origin.calls engine config ++ calls)) :
    (origin.expander engine config).answers calls =
      calls.map fun call => ((Expander.mk engine config []).render call.files call.declaration).1 := by
  obtain ⟨answer, loads⟩ := steady.exists_answer
  rw [lookups_append] at loads
  have empty : (Expander.mk engine config []).Holds answer := fun _ _ found => nomatch found
  obtain ⟨_, held⟩ := answers_of_holds empty fun lookup asked => loads lookup (List.mem_append_left _ asked)
  rw [afterCalls_calls] at held loads
  obtain ⟨same, _⟩ := answers_of_holds held fun lookup asked => by
    rw [(alike engine config origin).load]
    exact loads lookup (List.mem_append_right _ asked)
  rw [same, (alike engine config origin).clear]
  rfl

end Origin

/-- Calls on one expander are answered as by a new one with the same files, as long as each template
reads as it did when the first one was asked for, after the expander was made or after a pass had
forgotten what was loaded. In whatever order calls are made and however often, each has one answer. -/
theorem answers_transparent (engine : Engine τ) (config : Config) (origin : Origin links)
    (calls : List (Call links))
    (steady : (Expander.mk engine config []).Steady (origin.calls engine config ++ calls)) :
    (origin.expander engine config).answers calls =
      calls.map (fun call => ((Expander.mk engine config []).render call.files call.declaration).1) ∧
    ∀ (other : Origin links) (others : List (Call links)),
      (Expander.mk engine config []).Steady (other.calls engine config ++ others) →
      ∀ i j : Nat, calls[i]? = others[j]? →
        ((origin.expander engine config).answers calls)[i]? =
          ((other.expander engine config).answers others)[j]? := by
  refine ⟨Origin.answers_eq steady, fun other others steadyToo i j same => ?_⟩
  rw [Origin.answers_eq steady, Origin.answers_eq steadyToo, List.getElem?_map, List.getElem?_map, same]

/-- A template of a class, and one that includes it. -/
def wholeFiles : FileSystem where
  root := .directory [("templates", .directory [("model", .directory
    [("Class.java.ftl", .file (.text "class {{ Type }}")),
      ("Whole.java.ftl", .file (.text "\x7b% include 'model/Class.java.ftl' %\x7d"))])])]

/-- After a pass that has loaded a template by including it, this one is asked for itself, and then one
that does not exist, and again the first one. -/
theorem answers_transparent_included :
    let origin : Origin .linked := .cleared [] wholeFiles ⟨[⟨"model", [⟨"A", .single .int, "Whole"⟩]⟩]⟩ {}
    let expander := origin.expander Template.engine sampleExpander.config
    let files := ((wholeFiles.createDirectories ⟨"generated/model"⟩).2.put ["generated", "model", "A.java"]
      (.file (.text "changed")))
    let calls : List (Call .linked) := [⟨files, ⟨"model", ⟨"B", .single .long, "Class"⟩⟩⟩,
      ⟨files, ⟨"model", ⟨"B", .single .int, "Record"⟩⟩⟩, ⟨files, ⟨"model", ⟨"B", .single .byte, "Whole"⟩⟩⟩]
    expander.cache.keys = ["model/Class.java.ftl", "model/Whole.java.ftl"] ∧
      expander.answers calls = [.ok "class Long",
        .error (.templateNotFound ⟨"templates/model/Record.java.ftl"⟩), .ok "class Byte"] := by
  intro origin expander files calls
  have steady : (Expander.mk Template.engine sampleExpander.config []).Steady
      (origin.calls Template.engine sampleExpander.config ++ calls) := by
    unfold Steady
    decide +kernel
  refine ⟨by decide +kernel, ?_⟩
  rw [(answers_transparent Template.engine sampleExpander.config origin calls steady).1]
  decide +kernel

end Expander

end Stencil.Expansion
