import Stencil.Expansion.Expander

namespace Stencil

namespace Rendering

variable {τ α : Type}

/-- The result of a rendering whose requests are all answered by one lookup. -/
def eval (answer : String → Except Template.Error τ) : Rendering τ α → α
  | done result => result
  | load name resume => (resume (answer name)).eval answer

/-- The names that a rendering asks for on the way to this result. -/
def asked (answer : String → Except Template.Error τ) : Rendering τ α → List String
  | done _ => []
  | load name resume => name :: (resume (answer name)).asked answer

end Rendering

namespace Expansion.Expander

variable {τ α β : Type} {links : Linkage} {expander other : Expander τ} {files : FileSystem links}
  {answer : String → Except Template.Error τ}

/-- Two expanders that differ at most in the templates that they have loaded. -/
structure Alike (expander other : Expander τ) : Prop where
  engine : other.engine = expander.engine
  config : other.config = expander.config

theorem Alike.trans {between : Expander τ} (first : expander.Alike between)
    (second : between.Alike other) : expander.Alike other :=
  ⟨second.engine.trans first.engine, second.config.trans first.config⟩

theorem Alike.load (alike : expander.Alike other) (files : FileSystem links) :
    other.load files = expander.load files := by
  funext name
  unfold Expander.load
  rw [alike.config, alike.engine]

theorem fetch_alike (expander : Expander τ) (files : FileSystem links) (name : String) :
    expander.Alike (expander.fetch files name).2 := by
  unfold fetch
  split
  · exact ⟨rfl, rfl⟩
  · split <;> exact ⟨rfl, rfl⟩

theorem run_alike (files : FileSystem links) (rendering : Rendering τ α) (expander : Expander τ) :
    expander.Alike (run files rendering expander).2 := by
  induction rendering generalizing expander with
  | done result => exact ⟨rfl, rfl⟩
  | load name resume ih => exact (expander.fetch_alike files name).trans (ih _ _)

theorem run_bind (files : FileSystem links) (rendering : Rendering τ α) (next : α → Rendering τ β)
    (expander : Expander τ) :
    run files (rendering.bind next) expander =
      run files (next (run files rendering expander).1) (run files rendering expander).2 := by
  induction rendering generalizing expander with
  | done result => rfl
  | load name resume ih => exact ih _ _

/-- The rendering of a directive as one computation, from the request for its own template on. -/
def rendering (expander : Expander τ) (declaration : Declaration) :
    Rendering τ (Except Error String) :=
  .load declaration.templateKey fun
    | .error cause =>
      .done <| .error <|
        if cause.kind = .templateNotFound then
          .templateNotFound (declaration.templateFile expander.config.templateRoot)
        else .ofTemplate declaration.templateKey cause
    | .ok template =>
      (expander.engine.render template declaration.directive.model).bind fun result =>
        .done (result.mapError (Error.ofTemplate declaration.templateKey))

theorem Alike.rendering (alike : expander.Alike other) : other.rendering = expander.rendering := by
  funext declaration
  unfold Expander.rendering
  rw [alike.config, alike.engine]

theorem render_eq (expander : Expander τ) (files : FileSystem links) (declaration : Declaration) :
    expander.render files declaration =
      if files.isFile (declaration.templateFile expander.config.templateRoot) then
        run files (expander.rendering declaration) expander
      else
        (.error (.templateNotFound (declaration.templateFile expander.config.templateRoot)),
          expander) := by
  unfold render
  simp only
  split
  · have alike := expander.fetch_alike files declaration.templateKey
    rw [rendering, run]
    match fetched : expander.fetch files declaration.templateKey with
    | (.error cause, after) =>
      simp only [run]
      split <;> rfl
    | (.ok template, after) =>
      rw [fetched] at alike
      have engine : after.engine = expander.engine := alike.engine
      simp only [engine, run_bind, run]
      match ran : run files (expander.engine.render template declaration.directive.model) after with
      | (.ok text, last) => rfl
      | (.error cause, last) => rfl
  · rfl

theorem render_alike (expander : Expander τ) (files : FileSystem links) (declaration : Declaration) :
    expander.Alike (expander.render files declaration).2 := by
  rw [render_eq]
  split
  · exact run_alike files (expander.rendering declaration) expander
  · exact ⟨rfl, rfl⟩

theorem find?_fetch {name sought : String} {template : τ}
    (found : (expander.fetch files name).2.cache.find? sought = some template) :
    expander.cache.find? sought = some template ∨ expander.load files sought = .ok template := by
  unfold fetch at found
  split at found
  · exact .inl found
  · split at found
    · next loaded =>
      rw [Entries.find?_insert] at found
      split at found
      · next same =>
        subst same
        exact .inr (loaded.trans (congrArg Except.ok (Option.some.inj found)))
      · exact .inl found
    · exact .inl found

theorem find?_run {rendering : Rendering τ α} {sought : String} {template : τ}
    (found : (run files rendering expander).2.cache.find? sought = some template) :
    expander.cache.find? sought = some template ∨ expander.load files sought = .ok template := by
  induction rendering generalizing expander with
  | done result => exact .inl found
  | load name resume ih =>
    rcases @ih (expander.fetch files name).1 (expander.fetch files name).2 found with earlier | loads
    · exact find?_fetch earlier
    · rw [(expander.fetch_alike files name).load] at loads
      exact .inr loads

/-- What is loaded when a directive has been rendered was loaded before or loads from the files. -/
theorem find?_render {declaration : Declaration} {sought : String} {template : τ}
    (found : (expander.render files declaration).2.cache.find? sought = some template) :
    expander.cache.find? sought = some template ∨ expander.load files sought = .ok template := by
  rw [render_eq] at found
  split at found
  · exact find?_run found
  · exact .inl found

/-- The names that are asked for while a rendering is run, whether or not they are loaded already. -/
def requests (files : FileSystem links) : Rendering τ α → Expander τ → List String
  | .done _, _ => []
  | .load name resume, expander =>
    name :: requests files (resume (expander.fetch files name).1) (expander.fetch files name).2

/-- What is loaded already is what the lookup answers. -/
def Holds (expander : Expander τ) (answer : String → Except Template.Error τ) : Prop :=
  ∀ name template, expander.cache.find? name = some template → answer name = .ok template

theorem holds_clear (expander : Expander τ) (answer : String → Except Template.Error τ) :
    expander.clear.Holds answer :=
  fun _ _ found => nomatch found

/-- Whether a template is loaded already cannot be told from the answer to a request for it. -/
theorem fetch_of_holds {name : String} (held : expander.Holds answer)
    (loads : expander.load files name = answer name) :
    (expander.fetch files name).1 = answer name ∧ (expander.fetch files name).2.Holds answer := by
  unfold fetch
  cases found : expander.cache.find? name with
  | some template => exact ⟨(held name template found).symm, held⟩
  | none =>
    cases answered : expander.load files name with
    | error cause => exact ⟨answered.symm.trans loads, held⟩
    | ok template =>
      refine ⟨answered.symm.trans loads, fun sought known inserted => ?_⟩
      rw [Entries.find?_insert] at inserted
      split at inserted
      · next same =>
        rw [← same, ← loads, answered]
        exact congrArg Except.ok (Option.some.inj inserted)
      · exact held sought known inserted

/-- A rendering that is run comes to the result that a lookup alone would give, if the lookup answers
as the templates are loaded. -/
theorem run_of_holds {rendering : Rendering τ α} (held : expander.Holds answer)
    (loads : ∀ name ∈ requests files rendering expander, expander.load files name = answer name) :
    (run files rendering expander).1 = rendering.eval answer ∧
      (run files rendering expander).2.Holds answer ∧
      requests files rendering expander = rendering.asked answer := by
  induction rendering generalizing expander with
  | done result => exact ⟨rfl, held, rfl⟩
  | load name resume ih =>
    obtain ⟨answered, holds⟩ := fetch_of_holds held (loads name List.mem_cons_self)
    have later := ih (expander.fetch files name).1 holds fun sought member => by
      rw [(expander.fetch_alike files name).load]
      exact loads sought (List.mem_cons_of_mem _ member)
    rw [answered] at later
    refine ⟨?_, ?_, ?_⟩
    · simp only [run, answered]
      exact later.1
    · simp only [run, answered]
      exact later.2.1
    · rw [requests, answered, Rendering.asked, later.2.2]

/-- The names are known from the lookup before anything is run. -/
theorem requests_eq_asked {rendering : Rendering τ α} (held : expander.Holds answer)
    (loads : ∀ name ∈ rendering.asked answer, expander.load files name = answer name) :
    requests files rendering expander = rendering.asked answer := by
  induction rendering generalizing expander with
  | done result => rfl
  | load name resume ih =>
    obtain ⟨answered, holds⟩ := fetch_of_holds held (loads name List.mem_cons_self)
    rw [requests, Rendering.asked, answered]
    refine congrArg (name :: ·) (ih (answer name) holds fun sought member => ?_)
    rw [(expander.fetch_alike files name).load]
    exact loads sought (List.mem_cons_of_mem _ member)

/-- The names that are asked for while a directive is rendered. -/
def renderRequests (expander : Expander τ) (files : FileSystem links) (declaration : Declaration) :
    List String :=
  if files.isFile (declaration.templateFile expander.config.templateRoot) then
    requests files (expander.rendering declaration) expander
  else []

/-- What two expanders have loaded cannot be told from what they render, if it is what one lookup
answers. -/
theorem render_of_holds {declaration : Declaration} (alike : expander.Alike other)
    (held : expander.Holds answer) (otherHeld : other.Holds answer)
    (loads : ∀ name ∈ expander.renderRequests files declaration, expander.load files name = answer name) :
    (other.render files declaration).1 = (expander.render files declaration).1 ∧
      (expander.render files declaration).2.Holds answer ∧
      (other.render files declaration).2.Holds answer := by
  rw [render_eq, render_eq, alike.config, alike.rendering]
  unfold renderRequests at loads
  split
  · next present =>
    rw [if_pos present] at loads
    obtain ⟨result, holds, asked⟩ := run_of_holds held loads
    rw [asked] at loads
    have otherLoads : ∀ name ∈ (expander.rendering declaration).asked answer,
        other.load files name = answer name := fun name member => by
      rw [alike.load]
      exact loads name member
    -- The other one asks for the names that the answers lead to, which are the same for both.
    rw [← requests_eq_asked otherHeld otherLoads] at otherLoads
    obtain ⟨otherResult, otherHolds, _⟩ := run_of_holds otherHeld otherLoads
    exact ⟨otherResult.trans result.symm, holds, otherHolds⟩
  · exact ⟨rfl, held, otherHeld⟩

end Expansion.Expander

end Stencil
