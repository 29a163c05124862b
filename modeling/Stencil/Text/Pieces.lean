namespace Stencil.Text

/-- Cuts a list at every separator. There is always one piece more than there are separators. -/
def cut (separator : Char) : List Char → List (List Char)
  | [] => [[]]
  | c :: rest =>
    if c = separator then [] :: cut separator rest
    else
      match cut separator rest with
      | [] => [[c]]
      | piece :: pieces => (c :: piece) :: pieces

def pieces (separator : Char) (s : String) : List String :=
  (cut separator s.toList).map String.ofList

theorem cut_ne_nil (separator : Char) (cs : List Char) : cut separator cs ≠ [] := by
  cases cs with
  | nil => simp [cut]
  | cons c rest =>
    rw [cut]
    split
    · simp
    · split <;> simp

theorem intercalate_cut (separator : Char) (cs : List Char) :
    [separator].intercalate (cut separator cs) = cs := by
  induction cs with
  | nil => rfl
  | cons c rest ih =>
    rw [cut]
    split
    · next same =>
      subst same
      match found : cut c rest with
      | [] => exact absurd found (cut_ne_nil c rest)
      | piece :: others =>
        rw [found] at ih
        simp [List.intercalate, List.intersperse, ← ih]
    · match found : cut separator rest with
      | [] => exact absurd found (cut_ne_nil separator rest)
      | [piece] => rw [found] at ih; simpa [List.intercalate, List.intersperse] using ih
      | piece :: next :: others =>
        rw [found] at ih
        simp only [List.intercalate, List.intersperse, List.flatten_cons, List.cons_append] at ih ⊢
        rw [ih]

theorem not_mem_of_mem_cut {separator : Char} {cs piece : List Char}
    (member : piece ∈ cut separator cs) : separator ∉ piece := by
  induction cs generalizing piece with
  | nil => simp_all [cut]
  | cons c rest ih =>
    rw [cut] at member
    split at member
    · rcases List.mem_cons.1 member with rfl | later
      · simp
      · exact ih later
    · next differs =>
      split at member
      · rw [List.mem_singleton.1 member]
        simpa using Ne.symm differs
      · next found =>
        rcases List.mem_cons.1 member with rfl | later
        · have apart := ih (found ▸ List.mem_cons_self)
          simpa using ⟨Ne.symm differs, apart⟩
        · exact ih (found ▸ List.mem_cons_of_mem _ later)

end Stencil.Text
