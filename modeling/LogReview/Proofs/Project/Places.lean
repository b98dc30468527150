import LogReview.Proofs.Project.Names

/-! The places that paths name. A path leads part by part from one place to another. A place has names only, no empty
parts, no dots and no ways up, and a place that is written out names itself wherever it is read. -/
namespace LogReview.Path
variable {place goal : List String} {parts : List (List Char)}

/-- Names all the way down from the root. -/
def IsPlace (place : List String) : Prop :=
  ∀ part ∈ place, part ≠ "" ∧ part ≠ "." ∧ part ≠ ".." ∧ '/' ∉ part.toList

instance (place : List String) : Decidable (IsPlace place) :=
  inferInstanceAs (Decidable (∀ part ∈ place, _))

/-- Where the parts of a path lead. Nothing and a dot lead nowhere, two dots lead up and at the root nowhere, and all
else leads down. -/
inductive Leads : List String → List (List Char) → List String → Prop
  | here (place : List String) : Leads place [] place
  | stay {place goal : List String} {part : List Char} {parts : List (List Char)}
      (empty : part = [] ∨ part = ['.']) (rest : Leads place parts goal) : Leads place (part :: parts) goal
  | up {place goal : List String} {parts : List (List Char)} (rest : Leads place.dropLast parts goal) :
      Leads place (['.', '.'] :: parts) goal
  | down {place goal : List String} {part : List Char} {parts : List (List Char)}
      (name : ¬ (part = [] ∨ part = ['.'] ∨ part = ['.', '.']))
      (rest : Leads (place ++ [String.ofList part]) parts goal) : Leads place (part :: parts) goal

theorem Leads.isPlace (leads : Leads place parts goal) (start : IsPlace place)
    (slashless : ∀ part ∈ parts, '/' ∉ part) : IsPlace goal := by
  induction leads with
  | here => exact start
  | stay _ _ ih => exact ih start (List.forall_mem_cons.mp slashless).2
  | up _ ih =>
    exact ih (fun part hpart => start part (List.dropLast_subset _ hpart)) (List.forall_mem_cons.mp slashless).2
  | @down place goal part parts name _ ih =>
    obtain ⟨first, rest⟩ := List.forall_mem_cons.mp slashless
    have named : String.ofList part ≠ "" ∧ String.ofList part ≠ "." ∧ String.ofList part ≠ ".." := by
      simpa [← String.toList_inj] using name
    have last : '/' ∉ (String.ofList part).toList := by rwa [String.toList_ofList]
    exact ih (List.forall_mem_append.mpr
      ⟨start, List.forall_mem_singleton.mpr ⟨named.1, named.2.1, named.2.2, last⟩⟩) rest

section Slashes

end Slashes

section Reading

theorem parts_ofText (s : String) :
    (ofText s).parts = ((splitSlashes s.toList).filter (!isEmptyPart ·)).map String.ofList := by
  rw [ofText]
  split <;> rfl

/-- A path is read from the root exactly if it starts with a slash. -/
theorem isAbsolute_ofText_iff {s : String} : (ofText s).isAbsolute ↔ s.toList.head? = some '/' := by
  rw [ofText, List.head?_eq_some_iff]
  split
  · next shape => exact iff_of_true rfl ⟨_, shape⟩
  · next shape => exact iff_of_true rfl ⟨_, shape⟩
  · next shape => exact iff_of_true rfl ⟨_, shape⟩
  · next other => exact iff_of_false Bool.false_ne_true fun ⟨tail, shape⟩ => other tail shape

end Reading

section Following

end Following

/-- Where reading a path starts: at the root, or in the directory `cwd`. -/
def start (cwd : List String) (s : String) : List String := if s.toList.head? = some '/' then [] else cwd

section RoundTrip

theorem text_ofPlace (place : List String) : (ofPlace place).text = "/" ++ "/".intercalate place := rfl

theorem IsPlace.isName (isPlace : IsPlace place) : ∀ part ∈ place, isName part := by
  intro part hpart
  obtain ⟨nonempty, _, _, slashless⟩ := isPlace part hpart
  exact isName_iff.mpr ⟨by simpa using nonempty, slashless⟩

theorem isAbsolute_ofText_text_ofPlace (place : List String) : (ofText (ofPlace place).text).isAbsolute :=
  isAbsolute_ofText_iff.mpr (by simp [text_ofPlace])

end RoundTrip

end LogReview.Path
