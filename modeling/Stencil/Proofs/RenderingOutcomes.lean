import Stencil.Proofs.PathSpellings
import Stencil.Proofs.RequestedTemplates
import Stencil.Proofs.TemplateFiles

namespace Stencil

/-- Faults of a source are never reported as a template that is not found. Only the loader does so. -/
def Engine.FindsSources {τ : Type} (engine : Engine τ) : Prop :=
  ∀ whitespace name source fault, engine.compile whitespace name source = .error fault →
    fault.kind ≠ .templateNotFound

namespace Expansion

variable {τ : Type} {links : Linkage} {files : FileSystem links} {declaration : Declaration}

theorem Error.ofTemplate_ne_templateNotFound (key : String) (fault : Template.Error) (path : Path) :
    ofTemplate key fault ≠ .templateNotFound path := by
  unfold ofTemplate
  split <;> simp

/-- A name loads, or fails to load, for one of three reasons. -/
theorem loadSource_cases (files : FileSystem links) (root : Path) (name : String) :
    (∃ source, loadSource files root name = .ok source) ∨
      loadSource files root name = .error (.ofKind .templateNotFound) ∨
      loadSource files root name = .error (.ofKind .invalidOperation) := by
  unfold loadSource
  split
  · exact .inr (.inl rfl)
  · split
    · exact .inl ⟨_, rfl⟩
    · exact .inr (.inl rfl)
    · exact .inr (.inr rfl)

/-- What can be read is found, even if it is no text. -/
theorem loadSource_of_read {root : Path} {name : String} {content : Content}
    (stays : ".." ∉ Path.pieces ⟨name⟩) (held : files.read (root.join ⟨name⟩) = .ok content) :
    loadSource files root name ≠ .error (.ofKind .templateNotFound) := by
  have accepted : ¬ (Text.pieces '/' name).contains ".." = true := fun refused =>
    stays (List.contains_iff_mem.mp refused)
  unfold loadSource FileSystem.readText
  rw [if_neg accepted, held]
  cases content with
  | text value => simp [Bind.bind, Except.bind]
  | binary bytes => simp [Bind.bind, Except.bind, Template.Error.ofKind]

namespace Expander

variable {expander : Expander τ}

/-- A template is not found by the name it is asked for if it is not loaded already and the loader has
nothing for it. -/
theorem fetch_notFound_iff (finds : expander.engine.FindsSources) (files : FileSystem links) (name : String) :
    (∃ fault, (expander.fetch files name).1 = .error fault ∧ fault.kind = .templateNotFound) ↔
      expander.cache.find? name = none ∧
        loadSource files expander.config.templateRoot name = .error (.ofKind .templateNotFound) := by
  unfold fetch load
  cases expander.cache.find? name with
  | some template => simp
  | none =>
    rcases loadSource_cases files expander.config.templateRoot name with
      ⟨source, loaded⟩ | lost | failed
    · rw [loaded]
      cases compiled : expander.engine.compile expander.config.whitespace name source with
      | ok template => simp [compiled]
      | error fault =>
        have kind := finds _ _ _ _ compiled
        simp [compiled, kind]
    · rw [lost]
      simp [Template.Error.ofKind]
    · rw [failed]
      simp [Template.Error.ofKind]

/-- The text that the engine makes of a directive's template, or the fault that it ends with while it
loads or renders it. -/
def engineText (expander : Expander τ) (files : FileSystem links) (declaration : Declaration) :
    Except Template.Error String :=
  match expander.fetch files declaration.templateKey with
  | (.error fault, _) => .error fault
  | (.ok template, loaded) =>
    (loaded.run files (loaded.engine.render template declaration.directive.model)).1

/-- There is no template for a directive: its file is missing, or nothing is found by its key. -/
def MissesTemplate (expander : Expander τ) (files : FileSystem links) (declaration : Declaration) : Prop :=
  files.isFile (declaration.templateFile expander.config.templateRoot) = false ∨
    ∃ fault, (expander.fetch files declaration.templateKey).1 = .error fault ∧
      fault.kind = .templateNotFound

/-- A directive without a template is told by the path of the missing file. All else that goes wrong
is told by the key, as the engine has it. -/
theorem render_cases (expander : Expander τ) (files : FileSystem links) (declaration : Declaration) :
    (expander.MissesTemplate files declaration ∧ (expander.render files declaration).1 =
      .error (.templateNotFound (declaration.templateFile expander.config.templateRoot))) ∨
    ¬ expander.MissesTemplate files declaration ∧
      ((∃ fault, expander.engineText files declaration = .error fault ∧
        (expander.render files declaration).1 = .error (.ofTemplate declaration.templateKey fault)) ∨
      ∃ text, expander.engineText files declaration = .ok text ∧
        (expander.render files declaration).1 = .ok text) := by
  unfold MissesTemplate engineText render
  simp only
  cases present : files.isFile (declaration.templateFile expander.config.templateRoot) with
  | false => exact .inl ⟨.inl rfl, rfl⟩
  | true =>
    simp only [Bool.true_eq_false, false_or, if_true]
    rcases fetched : expander.fetch files declaration.templateKey with ⟨outcome, after⟩
    cases outcome with
    | error fault =>
      by_cases lost : fault.kind = .templateNotFound
      · simp only [lost, if_true]
        exact .inl ⟨⟨fault, rfl, lost⟩, trivial⟩
      · simp only [lost, if_false]
        refine .inr ⟨?_, .inl ⟨fault, rfl, rfl⟩⟩
        rintro ⟨other, same, kind⟩
        cases same
        exact lost kind
    | ok template =>
      have alike := expander.fetch_alike files declaration.templateKey
      rw [fetched] at alike
      have engine : after.engine = expander.engine := alike.engine
      refine .inr ⟨?_, ?_⟩
      · rintro ⟨fault, failed, _⟩
        cases failed
      · simp only [engine]
        generalize run files (expander.engine.render template declaration.directive.model) after = ran
        rcases ran with ⟨outcome, last⟩
        cases outcome with
        | error fault => exact .inl ⟨fault, by simp only, rfl⟩
        | ok text => exact .inr ⟨text, by simp only, rfl⟩

theorem render_eq_templateNotFound_iff {path : Path} :
    (expander.render files declaration).1 = .error (.templateNotFound path) ↔
      path = declaration.templateFile expander.config.templateRoot ∧
        expander.MissesTemplate files declaration := by
  rcases expander.render_cases files declaration with ⟨misses, whole⟩ |
    ⟨has, ⟨fault, _, whole⟩ | ⟨text, _, whole⟩⟩
  · rw [whole]
    simp [misses, eq_comm]
  · rw [whole]
    simp [has, Error.ofTemplate_ne_templateNotFound]
  · rw [whole]
    simp [has]

end Expander

end Expansion

end Stencil
