import Stencil.Proofs.DirectiveSteps
import Stencil.Proofs.TemplateLoading

namespace Stencil.Expansion

variable {τ : Type} {links : Linkage}

namespace Expander

/-- The names of templates that are asked for while a directive is expanded. -/
def directiveRequests (expander : Expander τ) (files : FileSystem links) (declaration : Declaration) :
    List String :=
  if declaration.isContained ∧ files.isFile (declaration.templateFile expander.config.templateRoot) then
    requests files (expander.rendering declaration) expander
  else []

theorem directiveRequests_of_contained {expander : Expander τ} {files : FileSystem links}
    {declaration : Declaration} (contained : declaration.isContained = true) :
    expander.directiveRequests files declaration = expander.renderRequests files declaration := by
  simp only [directiveRequests, renderRequests, contained, true_and]

/-- The names that are asked for while directives are expanded in order, up to the first error. -/
def requestsFrom (expander : Expander τ) (files : FileSystem links) : List Declaration → List String
  | [] => []
  | declaration :: rest =>
    expander.directiveRequests files declaration ++
      match expander.expandDirective files declaration with
      | (.ok _, expander, files) => expander.requestsFrom files rest
      | (.error _, _, _) => []

/-- All names of templates that a pass asks for. -/
def requested (expander : Expander τ) (files : FileSystem links) (task : Task) : List String :=
  match Pass.createRoots files expander.config with
  | (.ok (), ready) => expander.clear.requestsFrom ready task.declarations
  | (.error _, _) => []

end Expander

variable {expander current after : Expander τ} {files tree written : FileSystem links}
  {done : List Declaration}

theorem Reach.requestsFrom (reach : Reach expander files done current tree)
    (rest : List Declaration) :
    expander.requestsFrom files (done ++ rest) =
      expander.requestsFrom files done ++ current.requestsFrom tree rest := by
  induction reach generalizing rest with
  | start => rfl
  | @next done current tree declaration path after written previous step ih =>
    have onward (others : List Declaration) :
        current.requestsFrom tree (declaration :: others) =
          current.directiveRequests tree declaration ++ after.requestsFrom written others := by
      rw [Expander.requestsFrom, step]
    rw [List.append_assoc, List.singleton_append, ih, ih [declaration], onward, onward,
      Expander.requestsFrom, List.append_nil, List.append_assoc]

theorem Expander.requested_of_ready {ready : FileSystem links}
    (roots : Pass.createRoots files expander.config = (.ok (), ready)) (task : Task) :
    expander.requested files task = expander.clear.requestsFrom ready task.declarations := by
  unfold Expander.requested
  rw [roots]

/-- What a directive asks for when directives have come to it is among what all of them ask for. -/
theorem Reach.directiveRequests_mem {declarations : List Declaration} {declaration : Declaration}
    (reach : Reach expander files done current tree) (within : done ++ [declaration] <+: declarations)
    {name : String} (member : name ∈ current.directiveRequests tree declaration) :
    name ∈ expander.requestsFrom files declarations := by
  obtain ⟨rest, split⟩ := within
  rw [← split, List.append_assoc, reach.requestsFrom, List.singleton_append, Expander.requestsFrom]
  exact List.mem_append_right _ (List.mem_append_left _ member)

theorem Reach.requested {ready : FileSystem links} {task : Task} {declaration : Declaration}
    (reach : Reach expander.clear ready done current tree)
    (roots : Pass.createRoots files expander.config = (.ok (), ready))
    (within : done ++ [declaration] <+: task.declarations) {name : String}
    (member : name ∈ current.directiveRequests tree declaration) :
    name ∈ expander.requested files task := by
  rw [Expander.requested_of_ready roots]
  exact reach.directiveRequests_mem within member

namespace Expander

variable {declaration : Declaration}

/-- None of the templates that are kept has a name that leads up. -/
def Rooted (expander : Expander τ) : Prop :=
  ∀ name template, expander.cache.find? name = some template → ".." ∉ Path.pieces ⟨name⟩

theorem rooted_clear (expander : Expander τ) : expander.clear.Rooted :=
  fun _ _ found => nomatch found

theorem load_of_up (expander : Expander τ) (files : FileSystem links) {name : String}
    (up : ".." ∈ Path.pieces ⟨name⟩) :
    expander.load files name = .error (.ofKind .templateNotFound) := by
  unfold load
  rw [loadSource_of_up files _ up]

theorem Rooted.render (rooted : expander.Rooted) (files : FileSystem links) (declaration : Declaration) :
    (expander.render files declaration).2.Rooted := by
  intro name template found up
  rcases find?_render found with earlier | loads
  · exact rooted name template earlier up
  · rw [expander.load_of_up files up] at loads
    cases loads

/-- A key that leads up is refused whether its path is that of a file or not. -/
theorem Rooted.render_of_up (rooted : expander.Rooted) (files : FileSystem links)
    (up : ".." ∈ Path.pieces ⟨declaration.templateKey⟩) :
    expander.render files declaration =
      (.error (.templateNotFound (declaration.templateFile expander.config.templateRoot)),
        expander) := by
  have fetched : expander.fetch files declaration.templateKey =
      (.error (.ofKind .templateNotFound), expander) := by
    unfold Expander.fetch
    cases found : expander.cache.find? declaration.templateKey with
    | some template => exact absurd up (rooted _ template found)
    | none =>
      rw [expander.load_of_up files up]
  rw [render_eq]
  split
  · have kind : (Template.Error.ofKind .templateNotFound).kind = .templateNotFound := rfl
    simp [rendering, Expander.run, fetched, kind]
  · rfl

theorem Rooted.stays (rooted : expander.Rooted) {text : String}
    (rendered : expander.render files declaration = (.ok text, after)) :
    ".." ∉ Path.pieces ⟨declaration.templateKey⟩ := by
  intro up
  rw [rooted.render_of_up files up] at rendered
  cases (Prod.mk.inj rendered).1

end Expander

theorem Reach.rooted (reach : Reach expander.clear files done current tree) : current.Rooted := by
  induction reach with
  | start => exact expander.rooted_clear
  | @next done current tree declaration path after written previous step ih =>
    obtain ⟨_, text, rendered, _⟩ := Expander.expandDirective_ok step
    have rooted := ih.render tree declaration
    rwa [rendered] at rooted

end Stencil.Expansion
