import Stencil.Proofs.DuplicateWarnings
import Stencil.Proofs.ListingOrder

namespace Stencil

/-- A name as classes have it: a capital first, and then letters and digits. -/
structure IsClassName (name : String) : Prop where
  capital : ∃ c, name.toList.head? = some c ∧ c.isUpper = true
  letters : name.toList.all Char.isAlphanum = true

instance (name : String) : Decidable (IsClassName name) :=
  decidable_of_iff (name.toList.head?.any Char.isUpper = true ∧ name.toList.all Char.isAlphanum = true)
    ⟨fun ⟨capital, letters⟩ => ⟨(Option.any_eq_true ..).mp capital, letters⟩,
      fun named => ⟨(Option.any_eq_true ..).mpr named.capital, named.letters⟩⟩

namespace IsClassName

variable {name tail : String}

theorem capital_append (named : IsClassName name) (tail : String) :
    ∃ c, (name ++ tail).toList.head? = some c ∧ c.isUpper = true := by
  obtain ⟨c, first, capital⟩ := named.capital
  refine ⟨c, ?_, capital⟩
  rw [String.toList_append, List.head?_append, first]
  rfl

theorem isAlphanum (named : IsClassName name) : ∀ c ∈ name.toList, c.isAlphanum = true :=
  List.all_eq_true.mp named.letters

theorem append (named : IsClassName name) (letters : tail.toList.all Char.isAlphanum = true) :
    IsClassName (name ++ tail) := by
  refine ⟨named.capital_append tail, ?_⟩
  rw [String.toList_append, List.all_append, named.letters, letters]
  rfl

theorem not_mem (named : IsClassName name) {c : Char} (sign : c.isAlphanum = false) :
    c ∉ name.toList := by
  intro member
  rw [named.isAlphanum c member] at sign
  cases sign

/-- The name of a file that holds a class. -/
theorem isTitle (named : IsClassName name) (ascii : Text.IsAscii tail) (single : '/' ∉ tail.toList) :
    Path.IsTitle (name ++ tail) := by
  have letters : Text.IsAscii name := fun c member => Text.ascii_of_isAlphanum (named.isAlphanum c member)
  refine ⟨named.capital_append tail, letters.append ascii, ?_⟩
  rw [String.toList_append, List.mem_append, not_or]
  exact ⟨named.not_mem (by decide), single⟩

theorem isPlainSegment (named : IsClassName name) : isPlainSegment name = true := by
  rw [Declaration.isPlainSegment_iff]
  refine ⟨?_, ?_, ?_, named.not_mem (by decide), named.not_mem (by decide)⟩
  · rintro rfl
    obtain ⟨c, first, _⟩ := named.capital
    simp at first
  · rintro rfl
    exact named.not_mem (by decide : '.'.isAlphanum = false) (by simp)
  · rintro rfl
    exact named.not_mem (by decide : '.'.isAlphanum = false) (by simp)

end IsClassName

/-- A directive whose output and template are called as classes are. -/
structure Directive.IsNamed (directive : Directive) : Prop where
  output : IsClassName directive.outputName
  template : IsClassName directive.templateName

theorem Path.IsWord.isPlainSegment {name : String} (isWord : IsWord name) :
    isPlainSegment name = true := by
  have absent {c : Char} (sign : c.isLower = false) : c ∉ name.toList := by
    intro member
    rw [isWord.isLower c member] at sign
    cases sign
  rw [Declaration.isPlainSegment_iff]
  exact ⟨isWord.ordinary.1, isWord.ordinary.2.1, isWord.ordinary.2.2, absent (by decide),
    absent (by decide)⟩

namespace Declaration

/-- A directive that is named so, in such a namespace. -/
structure IsNamed (declaration : Declaration) : Prop where
  segments : ∀ segment ∈ declaration.segments, Path.IsWord segment
  directive : declaration.directive.IsNamed

namespace IsNamed

variable {declaration : Declaration}

theorem isContained (named : declaration.IsNamed) : declaration.isContained = true := by
  refine Bool.and_eq_true_iff.mpr ⟨List.all_eq_true.mpr fun segment member => ?_,
    named.directive.output.isPlainSegment⟩
  exact (named.segments segment member).isPlainSegment

/-- What is joined to the root and the directory in turn can be joined at once. -/
theorem join_directory (named : declaration.IsNamed) (root : Path) {name : String}
    (title : Path.IsTitle name) :
    ∃ steps, Path.LeadsToTitle steps ∧
      (root.join declaration.directory).join ⟨name⟩ = root.join (.ofPieces steps) := by
  obtain ⟨solid, relative, spelled⟩ := directory_pieces named.isContained
  have alone := Path.isRelative_of_single title.single
  have leads := Path.LeadsToTitle.append named.segments title
  have joined : (declaration.directory.join ⟨name⟩).pieces = declaration.segments ++ [name] := by
    rw [solid.pieces_append alone, spelled, Path.pieces_of_single title.single]
  have same : declaration.directory.join ⟨name⟩ = .ofPieces (declaration.segments ++ [name]) :=
    congrArg Path.mk (Text.pieces_injective (joined.trans leads.pieces.symm))
  exact ⟨_, leads, by rw [solid.join_assoc relative alone, same]⟩

theorem outputFile (named : declaration.IsNamed) (root : Path) :
    ∃ steps, Path.LeadsToTitle steps ∧ declaration.outputFile root = root.join (.ofPieces steps) :=
  named.join_directory root (named.directive.output.isTitle (by decide) (by decide))

theorem templateFile (named : declaration.IsNamed) (root : Path) :
    ∃ steps, Path.LeadsToTitle steps ∧ declaration.templateFile root = root.join (.ofPieces steps) :=
  named.join_directory root (named.directive.template.isTitle (by decide) (by decide))

end IsNamed

end Declaration

namespace Task

/-- A task whose directories have small names and whose classes have the names of classes, no two of
which are the same in one namespace. -/
structure IsNamed (task : Task) : Prop where
  segments : ∀ ns ∈ task.namespaces, ∀ segment ∈ Text.pieces '.' ns.name, Path.IsWord segment
  directives : ∀ ns ∈ task.namespaces, ∀ directive ∈ ns.directives, directive.IsNamed
  outputs : ∀ ns ∈ task.namespaces, (ns.directives.map (·.outputName)).Nodup
  namespaces : (task.namespaces.map (·.name)).Nodup

namespace IsNamed

variable {task other : Task}

theorem left (named : (task ++ other).IsNamed) : task.IsNamed where
  segments := (List.forall_mem_append.mp named.segments).1
  directives := (List.forall_mem_append.mp named.directives).1
  outputs := (List.forall_mem_append.mp named.outputs).1
  namespaces := by
    have distinct : ((task.namespaces ++ other.namespaces).map (·.name)).Nodup := named.namespaces
    rw [List.map_append] at distinct
    exact distinct.of_append_left

theorem right (named : (task ++ other).IsNamed) : other.IsNamed where
  segments := (List.forall_mem_append.mp named.segments).2
  directives := (List.forall_mem_append.mp named.directives).2
  outputs := (List.forall_mem_append.mp named.outputs).2
  namespaces := by
    have distinct : ((task.namespaces ++ other.namespaces).map (·.name)).Nodup := named.namespaces
    rw [List.map_append] at distinct
    exact distinct.of_append_right

theorem declarations (named : task.IsNamed) :
    ∀ declaration ∈ task.declarations, declaration.IsNamed := by
  intro declaration member
  obtain ⟨ns, inTask, within⟩ := List.mem_flatMap.mp member
  obtain ⟨directive, inNamespace, rfl⟩ := List.mem_map.mp within
  exact ⟨named.segments ns inTask, named.directives ns inTask directive inNamespace⟩

theorem isContained (named : task.IsNamed) :
    ∀ declaration ∈ task.declarations, declaration.isContained = true :=
  fun declaration member => (named.declarations declaration member).isContained

/-- No output is declared twice. -/
theorem duplicateOutputs (named : task.IsNamed) : task.duplicateOutputs = [] := by
  rw [duplicateOutputs_eq_nil, outputKeys, Task.declarations, List.map_flatMap, List.nodup_flatMap]
  have distinct := List.pairwise_map.mp named.namespaces
  -- Two keys of one namespace differ in the output, two of different namespaces in the namespace.
  refine ⟨fun ns inTask => ?_, distinct.imp fun {ns other} apart => ?_⟩
  · rw [Namespace.declarations, List.map_map]
    refine List.Nodup.of_map Prod.snd ?_
    rw [List.map_map]
    exact named.outputs ns inTask
  · have under {ns : Namespace} {key : String × String} (member : key ∈ ns.declarations.map
        fun declaration => (declaration.namespaceName, declaration.directive.outputName)) :
        key.1 = ns.name := by
      obtain ⟨declaration, within, rfl⟩ := List.mem_map.mp member
      obtain ⟨directive, _, rfl⟩ := List.mem_map.mp within
      rfl
    exact fun key inFirst inSecond => apart ((under inFirst).symm.trans (under inSecond))

/-- The outputs are listed as they are declared, but for their order. -/
theorem perm_outputFiles (named : task.IsNamed) (root : Path) :
    (task.outputFiles root).Perm (task.declarations.map (·.outputFile root)) := by
  refine Path.perm_listing ?_
  have apart := duplicateOutputs_eq_nil_iff_pairwise.mp named.duplicateOutputs
  rw [List.map_map, List.Nodup, List.pairwise_map]
  refine apart.imp_of_mem fun {declaration other} member alsoMember notSame same => notSame ?_
  exact (Declaration.components_outputFile_iff (named.isContained declaration member)
    (named.isContained other alsoMember) root).mp same

theorem sorted_outputFiles (named : task.IsNamed) (root : Path) :
    (task.outputFiles root).Pairwise fun a b => Text.bytes a.spelling < Text.bytes b.spelling := by
  refine Path.pairwise_bytes_listing root fun path member => ?_
  obtain ⟨declaration, inTask, rfl⟩ := List.mem_map.mp member
  exact (named.declarations declaration inTask).outputFile root

theorem sorted_inputFiles (named : task.IsNamed) (root : Path) :
    (task.inputFiles root).Pairwise fun a b => Text.bytes a.spelling < Text.bytes b.spelling := by
  refine Path.pairwise_bytes_listing root fun path member => ?_
  obtain ⟨declaration, inTask, rfl⟩ := List.mem_map.mp member
  exact (named.declarations declaration inTask).templateFile root

end IsNamed

end Task

end Stencil
