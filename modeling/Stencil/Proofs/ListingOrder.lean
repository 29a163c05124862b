import Mathlib.Data.String.Basic
import Stencil.Proofs.OutputPaths
import Stencil.Proofs.PathOrder

namespace Stencil

namespace Text

/-- A text as it is encoded. -/
def bytes (s : String) : List UInt8 :=
  s.toByteArray.data.toList

theorem bytes_append (s t : String) : bytes (s ++ t) = bytes s ++ bytes t := by
  unfold bytes
  rw [String.toByteArray_append, ByteArray.data_append, Array.toList_append]

def IsAscii (s : String) : Prop :=
  ∀ c ∈ s.toList, c.val ≤ 127

instance (s : String) : Decidable (IsAscii s) :=
  decidable_of_iff (s.toList.all (fun c => c.val ≤ 127) = true) (by simp [IsAscii])

theorem IsAscii.append {s t : String} (ascii : IsAscii s) (otherAscii : IsAscii t) :
    IsAscii (s ++ t) := by
  intro c member
  rw [String.toList_append] at member
  rcases List.mem_append.mp member with first | second
  · exact ascii c first
  · exact otherAscii c second

theorem bytes_eq_map {s : String} (ascii : IsAscii s) :
    bytes s = s.toList.map fun c => c.val.toUInt8 := by
  have encoded : s.toList.flatMap String.utf8EncodeChar = s.toList.map fun c => c.val.toUInt8 := by
    rw [List.map_eq_flatMap]
    refine List.flatMap_congr fun c member => ?_
    exact String.utf8EncodeChar_eq_singleton (Char.utf8Size_eq_one_iff.mpr (ascii c member))
  unfold bytes
  rw [← String.utf8Encode_toList, List.utf8Encode, encoded]
  simp

theorem toUInt8_lt {c d : Char} (ascii : d.val ≤ 127) (less : c < d) :
    c.val.toUInt8 < d.val.toUInt8 := by
  have bound : d.val.toNat ≤ 127 := ascii
  have lessVal : c.val.toNat < d.val.toNat := less
  rw [UInt8.lt_iff_toNat_lt, UInt32.toNat_toUInt8, UInt32.toNat_toUInt8]
  omega

/-- Texts of ASCII signs are ordered as their bytes are. -/
theorem bytes_lt_bytes {s t : String} (ascii : IsAscii s) (otherAscii : IsAscii t) (less : s < t) :
    bytes s < bytes t := by
  rw [bytes_eq_map ascii, bytes_eq_map otherAscii]
  rw [String.lt_iff] at less
  unfold IsAscii at otherAscii
  generalize s.toList = cs at less
  generalize t.toList = ds at less otherAscii
  induction less with
  | nil => exact List.Lex.nil
  | rel first => exact List.Lex.rel (toUInt8_lt (otherAscii _ List.mem_cons_self) first)
  | cons _ ih => exact List.Lex.cons (ih fun c member => otherAscii c (List.mem_cons_of_mem _ member))

theorem isUpper_iff {c : Char} : c.isUpper = true ↔ 'A'.val ≤ c.val ∧ c.val ≤ 'Z'.val :=
  decide_eq_true_iff

theorem isLower_iff {c : Char} : c.isLower = true ↔ 'a'.val ≤ c.val ∧ c.val ≤ 'z'.val :=
  Bool.and_eq_true_iff.trans (and_congr decide_eq_true_iff decide_eq_true_iff)

theorem slash_lt_of_isLower {c : Char} (small : c.isLower = true) : '/' < c :=
  UInt32.lt_of_lt_of_le (by decide) (isLower_iff.mp small).1

theorem lt_of_isUpper_of_isLower {c d : Char} (capital : c.isUpper = true) (small : d.isLower = true) :
    c < d :=
  UInt32.lt_of_le_of_lt (isUpper_iff.mp capital).2
    (UInt32.lt_of_lt_of_le (by decide) (isLower_iff.mp small).1)

theorem ascii_of_isLower {c : Char} (small : c.isLower = true) : c.val ≤ 127 :=
  UInt32.le_trans (isLower_iff.mp small).2 (by decide)

theorem ascii_of_isAlphanum {c : Char} (letter : c.isAlphanum = true) : c.val ≤ 127 := by
  rcases Bool.or_eq_true_iff.mp letter with alpha | digit
  · rcases Bool.or_eq_true_iff.mp alpha with capital | small
    · exact UInt32.le_trans (isUpper_iff.mp capital).2 (by decide)
    · exact ascii_of_isLower small
  · exact UInt32.le_trans (of_decide_eq_true (Bool.and_eq_true_iff.mp digit).2) (by decide)

end Text

namespace Path

/-- A name of small letters only. -/
structure IsWord (name : String) : Prop where
  ne_empty : name ≠ ""
  letters : name.toList.all Char.isLower = true

instance (name : String) : Decidable (IsWord name) :=
  decidable_of_iff (name ≠ "" ∧ name.toList.all Char.isLower = true)
    ⟨fun ⟨ne_empty, letters⟩ => ⟨ne_empty, letters⟩, fun isWord => ⟨isWord.ne_empty, isWord.letters⟩⟩

theorem IsWord.isLower {name : String} (isWord : IsWord name) : ∀ c ∈ name.toList, c.isLower = true :=
  List.all_eq_true.mp isWord.letters

/-- A name in ASCII that begins with a capital. -/
structure IsTitle (name : String) : Prop where
  capital : ∃ c, name.toList.head? = some c ∧ c.isUpper = true
  ascii : Text.IsAscii name
  single : '/' ∉ name.toList

/-- Steps through directories with small names to a file whose name begins with a capital. -/
inductive LeadsToTitle : List String → Prop
  | file {name} : IsTitle name → LeadsToTitle [name]
  | within {word steps} : IsWord word → LeadsToTitle steps → LeadsToTitle (word :: steps)

theorem IsWord.ordinary {name : String} (isWord : IsWord name) : name ≠ "" ∧ name ≠ "." ∧ name ≠ ".." := by
  refine ⟨isWord.ne_empty, ?_, ?_⟩
  all_goals
    rintro rfl
    exact absurd isWord.letters (by decide)

theorem IsTitle.ordinary {name : String} (title : IsTitle name) :
    name ≠ "" ∧ name ≠ "." ∧ name ≠ ".." := by
  obtain ⟨c, first, capital⟩ := title.capital
  have notDot : '.' ≠ c := by
    rintro rfl
    exact absurd capital (by decide)
  refine ⟨?_, ?_, ?_⟩
  all_goals
    rintro rfl
    simp [notDot] at first

/-- Capitals come before small letters. -/
theorem IsTitle.lt_append {name word : String} (title : IsTitle name) (isWord : IsWord word)
    (tail : String) : name < word ++ tail := by
  obtain ⟨c, first, capital⟩ := title.capital
  obtain ⟨rest, spelled⟩ := List.head?_eq_some_iff.mp first
  rw [String.lt_iff, String.toList_append, spelled]
  match found : word.toList with
  | [] => exact absurd (String.toList_eq_nil_iff.mp found) isWord.ne_empty
  | d :: others =>
    have small := isWord.isLower d (found ▸ List.mem_cons_self)
    exact List.Lex.rel (Text.lt_of_isUpper_of_isLower capital small)

/-- A slash behind a word comes before any letter that could stand there. -/
theorem IsWord.lt_append {word other : String} (isWord : IsWord other) (less : word < other)
    (tail otherTail : String) : word ++ "/" ++ tail < other ++ "/" ++ otherTail := by
  have small := isWord.isLower
  rw [String.lt_iff] at less ⊢
  simp only [String.toList_append]
  generalize word.toList = cs at less
  generalize other.toList = ds at less small
  induction less with
  | nil => exact List.Lex.rel (Text.slash_lt_of_isLower (small _ List.mem_cons_self))
  | rel first => exact List.Lex.rel first
  | cons _ ih => exact List.Lex.cons (ih fun c member => small c (List.mem_cons_of_mem _ member))

namespace LeadsToTitle

variable {steps others : List String}

theorem ne_nil (leads : LeadsToTitle steps) : steps ≠ [] := by
  cases leads <;> simp

theorem intercalate_cons (leads : LeadsToTitle steps) (word : String) :
    "/".intercalate (word :: steps) = word ++ "/" ++ "/".intercalate steps := by
  cases steps with
  | nil => exact absurd rfl leads.ne_nil
  | cons next rest => rw [String.intercalate_cons_cons]

/-- Where directories and files are named apart, the order of the components is that of the texts. -/
theorem intercalate_lt (leads : LeadsToTitle steps) (otherLeads : LeadsToTitle others)
    (less : Component.compareList (steps.map .name) (others.map .name) = .lt) :
    "/".intercalate steps < "/".intercalate others := by
  have named (x y : String) (xs ys : List Component) :
      Component.compareList (.name x :: xs) (.name y :: ys) = .lt ↔
        x < y ∨ x = y ∧ Component.compareList xs ys = .lt := by
    rw [Component.compareList, Ordering.then_eq_lt]
    change Ord.compare x y = .lt ∨ Ord.compare x y = .eq ∧ _ ↔ _
    rw [compare_lt_iff_lt, compare_eq_iff_eq]
  induction leads generalizing others with
  | @file name title =>
    cases otherLeads with
    | @file other otherTitle =>
      rcases (named name other [] []).mp less with before | ⟨_, impossible⟩
      · simpa using before
      · cases impossible
    | @within word rest isWord inner =>
      -- A file comes before a directory in both orders, as its first letter does.
      rw [inner.intercalate_cons, String.append_assoc]
      simpa using title.lt_append isWord _
  | @within word steps isWord inner ih =>
    cases otherLeads with
    | @file other otherTitle =>
      have after : other < word := by simpa using otherTitle.lt_append isWord ""
      rcases (named word other _ []).mp less with before | ⟨same, _⟩
      · exact absurd (before.trans after) (lt_irrefl word)
      · exact absurd (same ▸ after) (lt_irrefl word)
    | @within otherWord rest otherIsWord otherInner =>
      rw [inner.intercalate_cons, otherInner.intercalate_cons]
      rcases (named word otherWord _ _).mp less with before | ⟨rfl, later⟩
      · exact otherIsWord.lt_append before _ _
      · have lessLater := ih otherInner later
        rw [String.lt_iff] at lessLater ⊢
        simp only [String.toList_append]
        exact List.append_left_lt lessLater

theorem single (leads : LeadsToTitle steps) : ∀ step ∈ steps, '/' ∉ step.toList := by
  induction leads with
  | file title =>
    intro step member
    rw [List.mem_singleton.mp member]
    exact title.single
  | within isWord _ ih =>
    intro step member slash
    rcases List.mem_cons.mp member with rfl | later
    · exact lt_irrefl _ (Text.slash_lt_of_isLower (isWord.isLower _ slash))
    · exact ih step later slash

theorem ascii (leads : LeadsToTitle steps) : Text.IsAscii ("/".intercalate steps) := by
  induction leads with
  | file title => simpa using title.ascii
  | within isWord inner ih =>
    rw [inner.intercalate_cons]
    have letters : Text.IsAscii _ := fun c member => Text.ascii_of_isLower (isWord.isLower c member)
    exact (letters.append (by decide)).append ih

theorem ordinary (leads : LeadsToTitle steps) :
    ∀ step ∈ steps, step ≠ "" ∧ step ≠ "." ∧ step ≠ ".." := by
  induction leads with
  | file title =>
    intro step member
    rw [List.mem_singleton.mp member]
    exact title.ordinary
  | within isWord _ ih =>
    intro step member
    rcases List.mem_cons.mp member with rfl | later
    · exact isWord.ordinary
    · exact ih step later

theorem pieces (leads : LeadsToTitle steps) : (ofPieces steps).pieces = steps :=
  pieces_ofPieces leads.ne_nil leads.single

theorem isRelative (leads : LeadsToTitle steps) : (ofPieces steps).isAbsolute = false := by
  rw [← Bool.not_eq_true, isAbsolute_iff_pieces, leads.pieces]
  rintro ⟨rest, _, rfl⟩
  exact (leads.ordinary "" List.mem_cons_self).1 rfl

theorem components_join (leads : LeadsToTitle steps) (root : Path) :
    (root.join (ofPieces steps)).components = root.components ++ steps.map .name := by
  have names : steps.filterMap Component.ofPiece? = steps.map Component.name := by
    rw [← List.filterMap_eq_map]
    refine List.filterMap_congr fun step member => ?_
    obtain ⟨notEmpty, notDot, notUp⟩ := leads.ordinary step member
    exact Component.ofPiece?_eq_name notEmpty notDot notUp
  rw [Path.components_join root leads.isRelative, leads.pieces, names]
  intro _ dot
  rw [leads.pieces] at dot
  exact (leads.ordinary "." (List.mem_of_mem_head? (Option.mem_def.mpr dot))).2.1 rfl

end LeadsToTitle

theorem LeadsToTitle.append {words : List String} {name : String} (isWord : ∀ word ∈ words, IsWord word)
    (title : IsTitle name) : LeadsToTitle (words ++ [name]) := by
  induction words with
  | nil => exact .file title
  | cons word rest ih =>
    rw [List.forall_mem_cons] at isWord
    exact .within isWord.1 (ih isWord.2)

/-- All that is joined to a root has the same text before it. -/
theorem exists_front (root : Path) : ∃ front : String, ∀ path : Path, path.isAbsolute = false →
    (root.join path).spelling = front ++ path.spelling := by
  by_cases closed : root.spelling.isEmpty || root.spelling.toList.getLast? == some '/'
  · exact ⟨root.spelling, fun path relative => by simp only [join, relative, closed]; rfl⟩
  · exact ⟨root.spelling ++ "/", fun path relative => by simp only [join, relative, closed]; rfl⟩

theorem LeadsToTitle.bytes_lt {steps others : List String} (leads : LeadsToTitle steps)
    (otherLeads : LeadsToTitle others) (root : Path)
    (less : compare (root.join (ofPieces steps)) (root.join (ofPieces others)) = .lt) :
    Text.bytes (root.join (ofPieces steps)).spelling <
      Text.bytes (root.join (ofPieces others)).spelling := by
  obtain ⟨front, joined⟩ := root.exists_front
  rw [joined _ leads.isRelative, joined _ otherLeads.isRelative, Text.bytes_append, Text.bytes_append]
  refine List.append_left_lt (Text.bytes_lt_bytes leads.ascii otherLeads.ascii ?_)
  rw [compare, leads.components_join, otherLeads.components_join, Component.compareList_append] at less
  exact leads.intercalate_lt otherLeads less

/-- A listing of paths below one root is in the order of their texts, too. -/
theorem pairwise_bytes_listing (root : Path) {paths : List Path}
    (titled : ∀ path ∈ paths, ∃ steps, LeadsToTitle steps ∧ path = root.join (ofPieces steps)) :
    (listing paths).Pairwise fun a b => Text.bytes a.spelling < Text.bytes b.spelling := by
  refine (pairwise_compare_listing paths).imp_of_mem fun {a b} member otherMember less => ?_
  obtain ⟨steps, leads, rfl⟩ := titled a (mem_of_mem_listing member)
  obtain ⟨others, otherLeads, rfl⟩ := titled b (mem_of_mem_listing otherMember)
  exact leads.bytes_lt otherLeads root less

end Path

end Stencil
