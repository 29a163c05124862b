import Stencil.CommandLine.Commands
import Stencil.Proofs.EntryLookups

namespace Stencil

namespace Kind

variable {text : String} {kind : Kind}

theorem sameLetters_iff (letters others : List Char) :
    sameLetters letters others = true ↔ letters.map Char.toLower = others.map Char.toLower := by
  induction letters generalizing others with
  | nil => cases others <;> simp [sameLetters]
  | cons letter letters ih =>
    cases others with
    | nil => simp [sameLetters]
    | cons other others => simp [sameLetters, ih]

/-- The two tables of names agree up to the case of letters. -/
theorem toLower_name (kind : Kind) : kind.name.toList.map Char.toLower = kind.primitiveName.toList := by
  cases kind <;> decide

theorem primitiveName_injective : Function.Injective primitiveName := by
  intro kind other same
  cases kind <;> cases other <;> first | rfl | exact absurd same (by decide)

theorem toList_toLower (text : String) : text.toLower.toList = text.toList.map Char.toLower :=
  String.toList_map

theorem sameLetters_name :
    sameLetters kind.name.toList text.toList = true ↔ text.toLower = kind.primitiveName := by
  rw [sameLetters_iff, toLower_name, ← String.toList_inj, toList_toLower]
  exact eq_comm

theorem find?_all : all.find? (fun kind => sameLetters kind.name.toList text.toList) = some kind ↔
    text.toLower = kind.primitiveName := by
  rw [← sameLetters_name]
  constructor
  · intro found
    exact List.find?_some (p := fun kind : Kind => sameLetters kind.name.toList text.toList) found
  · intro same
    refine find?_of_unique (mem_all kind) same fun other sameToo => primitiveName_injective ?_
    rw [← sameLetters_name.mp same, ← sameLetters_name.mp sameToo]

theorem parse_eq_ok : parse text = .ok kind ↔ text.toLower = kind.primitiveName := by
  rw [← find?_all, parse]
  split
  · next other found => rw [found, Except.ok.injEq, Option.some.injEq]
  · next missing => simp [missing]

theorem parse_eq_error (unknown : ∀ kind : Kind, text.toLower ≠ kind.primitiveName) :
    parse text = .error ⟨text⟩ := by
  rw [parse]
  split
  · next kind found => exact absurd (find?_all.mp found) (unknown kind)
  · rfl

theorem parse_name (kind : Kind) : parse kind.name = .ok kind := by
  refine parse_eq_ok.mpr (String.toList_inj.mp ?_)
  rw [toList_toLower, toLower_name]

theorem parse_primitiveName (kind : Kind) : parse kind.primitiveName = .ok kind := by
  refine parse_eq_ok.mpr (String.toList_inj.mp ?_)
  rw [toList_toLower]
  cases kind <;> decide

theorem isAlpha_of_toLower {c : Char} (letter : c.toLower.isAlpha = true) : c.isAlpha = true := by
  by_cases upper : c.isUpper = true
  · exact Bool.or_eq_true_iff.mpr (.inl upper)
  · have same : c.toLower = c := dif_neg fun bounds => upper (decide_eq_true bounds)
    rwa [same] at letter

/-- A text that is read as a kind has the length of the kind's name, and no sign but ASCII letters. -/
theorem letters_of_parse (read : parse text = .ok kind) :
    text.length = kind.name.length ∧ ∀ c ∈ text.toList, c.isAlpha = true := by
  have lower : text.toList.map Char.toLower = kind.primitiveName.toList := by
    rw [← parse_eq_ok.mp read, toList_toLower]
  constructor
  · have lengths := congrArg List.length (lower.trans (toLower_name kind).symm)
    rwa [List.length_map, List.length_map, String.length_toList, String.length_toList] at lengths
  · intro c member
    have letters : kind.primitiveName.toList.all Char.isAlpha = true := by
      cases kind <;> decide
    rw [← lower] at letters
    exact isAlpha_of_toLower (List.all_eq_true.mp letters c.toLower (List.mem_map_of_mem member))

end Kind

namespace CommandLine

variable {json : Bool} {written : String}

theorem forM_printLine (lines : List String) (written : String) :
    (lines.forM printLine : Printing Unit) written = (.ok (), written ++ unlines lines) := by
  induction lines generalizing written with
  | nil =>
    have done : (List.forM [] printLine : Printing Unit) written = (.ok (), written) := rfl
    rw [done]
    simp [unlines]
  | cons line lines ih =>
    have next : (List.forM (line :: lines) printLine : Printing Unit) written =
        (List.forM lines printLine : Printing Unit) (written ++ line ++ "\n") := rfl
    rw [next, ih]
    simp [unlines, String.append_assoc]

/-- The lines that are printed for one descriptor. -/
def page (descriptor : Descriptor) (json : Bool) : List String :=
  if json then [descriptor.json.pretty] else descriptor.lines

theorem describe_known {name : String} {kind : Kind} (known : Kind.parse name = .ok kind) :
    describe (some name) json written = (.ok (), written ++ unlines (page (.ofKind kind) json)) := by
  have printed := forM_printLine (page (.ofKind kind) json) written
  simp only [describe, known]
  cases json with
  | true => exact printed
  | false =>
    have alone : ((page (.ofKind kind) false).forM printLine >>= pure : Printing Unit) written =
        (.ok (), written ++ unlines (page (.ofKind kind) false)) := by
      rw [bind_pure]
      exact printed
    exact alone

theorem describe_unknown {name : String} {unknown : UnknownKind} (fails : Kind.parse name = .error unknown) :
    describe (some name) json written = (.error unknown, written) := by
  simp only [describe, fails]
  rfl

/-- A kind is read from its name in any mixture of ASCII capitals and small letters, and from nothing
else. Of every other text the error tells it as it was given, and a description that is asked for by it
fails before a line is printed. -/
theorem kind_names_exact (text : String) :
    (∀ kind, Kind.parse text = .ok kind ↔ text.toLower = kind.primitiveName) ∧
    (∀ kind other : Kind, text.toLower = kind.primitiveName → text.toLower = other.primitiveName →
      kind = other) ∧
    (Kind.parse text = .error ⟨text⟩ ↔ ∀ kind : Kind, text.toLower ≠ kind.primitiveName) ∧
    (∀ kind, Kind.parse text = .ok kind →
      text.length = kind.name.length ∧ ∀ c ∈ text.toList, c.isAlpha = true) ∧
    (∀ kind : Kind, Kind.parse (toString kind) = .ok kind ∧ Kind.parse kind.name = .ok kind ∧
      Kind.parse kind.primitiveName = .ok kind) ∧
    ∀ json written,
      (∀ kind : Kind, text.toLower = kind.primitiveName → describe (some text) json written =
        (.ok (), written ++ unlines (page (.ofKind kind) json))) ∧
      ((∀ kind : Kind, text.toLower ≠ kind.primitiveName) →
        describe (some text) json written = (.error ⟨text⟩, written)) ∧
      ((∃ unknown, (describe (some text) json written).1 = .error unknown) ↔
        ∀ kind : Kind, text.toLower ≠ kind.primitiveName) := by
  have found {json written} {kind : Kind} (spelled : text.toLower = kind.primitiveName) :
      describe (some text) json written = (.ok (), written ++ unlines (page (.ofKind kind) json)) :=
    describe_known (Kind.parse_eq_ok.mpr spelled)
  have missed {json written} (unknown : ∀ kind : Kind, text.toLower ≠ kind.primitiveName) :
      describe (some text) json written = (.error ⟨text⟩, written) :=
    describe_unknown (Kind.parse_eq_error unknown)
  refine ⟨fun kind => Kind.parse_eq_ok, fun kind other same sameToo => ?_, ⟨fun fails kind spelled => ?_,
    Kind.parse_eq_error⟩, fun kind => Kind.letters_of_parse, fun kind => ?_, fun json written => ?_⟩
  · exact Kind.primitiveName_injective (same.symm.trans sameToo)
  · rw [Kind.parse_eq_ok.mpr spelled] at fails
    cases fails
  · exact ⟨Kind.parse_name kind, Kind.parse_name kind, Kind.parse_primitiveName kind⟩
  · refine ⟨fun kind => found, missed, fun ⟨unknown, fails⟩ kind spelled => ?_, fun unknown => ?_⟩
    · rw [found spelled] at fails
      cases fails
    · exact ⟨⟨text⟩, congrArg Prod.fst (missed unknown)⟩

end CommandLine

end Stencil
