import LogReview.Terminal.Basic
import Mathlib.Tactic.Common

/-! How a message begins. Brackets, backslashes, colons and the signs that are not shown as they are can change what is
read around them, but they never reach back: a message whose text begins with other signs is shown with that
beginning. -/
namespace LogReview.Terminal

/-- Signs that have no meaning of their own in marked text and are shown as they are. -/
def isOrdinary (c : Char) : Bool :=
  c != '[' && c != '\\' && c != ':' && c != '\n' && c != '\t' && !isDropped c

section Ordinary
variable {c : Char} {start : List Char}

theorem isOrdinary_iff :
    isOrdinary c ↔ c ≠ '[' ∧ c ≠ '\\' ∧ c ≠ ':' ∧ c ≠ '\n' ∧ c ≠ '\t' ∧ isDropped c = false := by
  simp [isOrdinary, and_assoc]

theorem tag?_eq_none (h : isOrdinary c) (cs : List Char) : tag? (c :: cs) = none := by
  rw [tag?]
  rintro d ds eq
  exact (isOrdinary_iff.mp h).1 (List.cons.inj eq).1

theorem guardEnd_cases (cs : List Char) : guardEnd cs = cs ∨ guardEnd cs = cs ++ ['\\'] := by
  rw [guardEnd]
  split
  · exact .inr rfl
  · split
    · exact .inl rfl
    · exact .inr rfl
  · exact .inl rfl

/-- Before the first tag a piece is only begun. -/
theorem piecesWith_append (h : ∀ c ∈ start, isOrdinary c) (fuel : Nat) (seen cs : List Char) :
    piecesWith (start.length + fuel) seen (start ++ cs) = piecesWith fuel (start.reverse ++ seen) cs := by
  induction start generalizing seen with
  | nil => simp
  | cons c start ih =>
    rw [List.forall_mem_cons] at h
    rw [List.length_cons, Nat.add_right_comm, List.cons_append, piecesWith, tag?_eq_none h.1]
    simp [ih h.2]

theorem exists_dropWhile_eq (h : ∀ c ∈ start, isOrdinary c) (seen : List Char) :
    ∃ kept, (seen ++ start.reverse).dropWhile (· == '\\') = kept ++ start.reverse := by
  induction seen with
  | nil =>
    refine ⟨[], ?_⟩
    cases last : start.reverse with
    | nil => rfl
    | cons c cs =>
      have ordinary : isOrdinary c := h c (List.mem_reverse.mp (last ▸ List.mem_cons_self))
      simp [(isOrdinary_iff.mp ordinary).2.1]
  | cons c seen ih =>
    by_cases backslash : c = '\\'
    · simpa [backslash] using ih
    · exact ⟨c :: seen, by simp [backslash]⟩

/-- Only the backslashes at its end are cut from a piece that has been begun. -/
theorem exists_piecesWith_eq (h : ∀ c ∈ start, isOrdinary c) (fuel : Nat) (seen cs : List Char) :
    ∃ more rest, piecesWith fuel (seen ++ start.reverse) cs = (start ++ more) :: rest := by
  induction fuel generalizing seen cs with
  | zero => exact ⟨seen.reverse, [], by simp [piecesWith]⟩
  | succ fuel ih =>
    cases cs with
    | nil => exact ⟨seen.reverse, [], by simp [piecesWith]⟩
    | cons c cs =>
      rw [piecesWith]
      split
      · obtain ⟨kept, eq⟩ := exists_dropWhile_eq h seen
        exact ⟨kept.reverse, _, by rw [eq, List.reverse_append, List.reverse_reverse]⟩
      · exact ih (c :: seen) cs

theorem exists_pieces_eq (h : ∀ c ∈ start, isOrdinary c) (cs : List Char) :
    ∃ more rest, pieces (start ++ cs) = (start ++ more) :: rest := by
  obtain ⟨more, rest, eq⟩ := exists_piecesWith_eq h cs.length [] cs
  refine ⟨more, rest, ?_⟩
  rw [pieces, List.length_append, piecesWith_append h, List.append_nil]
  exact eq

theorem unescape_append (h : ∀ c ∈ start, isOrdinary c) (cs : List Char) :
    unescape (start ++ cs) = start ++ unescape cs := by
  induction start with
  | nil => rfl
  | cons c start ih =>
    rw [List.forall_mem_cons] at h
    rw [List.cons_append, unescape, ih h.2, List.cons_append]
    exact fun _ backslash _ => (isOrdinary_iff.mp h.1).2.1 backslash

theorem emojis_append (h : ∀ c ∈ start, isOrdinary c) (cs : List Char) : emojis (start ++ cs) = start ++ emojis cs := by
  suffices ∀ fuel, emojisWith (start.length + fuel) (start ++ cs) = start ++ emojisWith fuel cs by
    rw [emojis, List.length_append, this, emojis]
  intro fuel
  induction start with
  | nil => simp
  | cons c start ih =>
    rw [List.forall_mem_cons] at h
    have colon : (c == ':') = false := by simpa using (isOrdinary_iff.mp h.1).2.2.1
    rw [List.length_cons, Nat.add_right_comm, List.cons_append, emojisWith, colon, ih h.2]
    rfl

theorem expandTabs_append (h : ∀ c ∈ start, isOrdinary c) (seen cs : List Char) :
    expandTabs seen (start ++ cs) = start ++ expandTabs (start.reverse ++ seen) cs := by
  induction start generalizing seen with
  | nil => rfl
  | cons c start ih =>
    rw [List.forall_mem_cons] at h
    obtain ⟨_, _, _, newline, tab, _⟩ := isOrdinary_iff.mp h.1
    rw [List.cons_append, expandTabs, ih h.2, List.cons_append, List.reverse_cons, List.append_assoc, List.singleton_append]
    · exact newline
    · exact tab

theorem shown_append (h : ∀ c ∈ start, isOrdinary c) (cs : List Char) :
    shown (start ++ cs) = start ++ expandTabs start.reverse (cs.filter (!isDropped ·)) := by
  have kept : start.filter (!isDropped ·) = start := by
    rw [List.filter_eq_self]
    intro c hc
    simp [(isOrdinary_iff.mp (h c hc)).2.2.2.2.2]
  rw [shown, List.filter_append, kept, expandTabs_append h, List.append_nil]

theorem isOrdinary_of_isDigit (h : c.isDigit) : isOrdinary c := by
  have other : ∀ d : Char, d.isDigit = false → c ≠ d := by
    rintro d hd rfl
    exact absurd h (by simp [hd])
  rw [isOrdinary_iff]
  refine ⟨other _ rfl, other _ rfl, other _ rfl, other _ rfl, other _ rfl, ?_⟩
  simp [isDropped, other]

end Ordinary

/-- A message begins as its text does, whatever follows. -/
theorem message_begins {sign : Char} {start : List Char} (hsign : isOrdinary sign) (h : ∀ c ∈ start, isOrdinary c)
    {text : String} (begins : start <+: text.toList) : sign :: ' ' :: start <+: (message sign text).toList := by
  obtain ⟨rest, begins⟩ := begins
  obtain ⟨guarded, eq⟩ : ∃ guarded, guardEnd text.toList = start ++ guarded := by
    rcases guardEnd_cases text.toList with eq | eq
    · exact ⟨rest, by rw [eq, begins]⟩
    · exact ⟨rest ++ ['\\'], by rw [eq, ← begins, List.append_assoc]⟩
  obtain ⟨piece, others, cut⟩ := exists_pieces_eq h guarded
  have ordinary : ∀ c ∈ sign :: ' ' :: start, isOrdinary c :=
    List.forall_mem_cons.mpr ⟨hsign, List.forall_mem_cons.mpr ⟨by decide, h⟩⟩
  rw [message, String.toList_ofList, eq, cut, List.flatMap_cons, unescape_append h, emojis_append h, List.append_assoc]
  exact ⟨_, (shown_append ordinary _).symm⟩

/-- A message whose text has no sign with a meaning of its own is shown as it is. -/
theorem message_of_ordinary {sign : Char} (hsign : isOrdinary sign) {text : String}
    (h : ∀ c ∈ text.toList, isOrdinary c) : message sign text = String.ofList (sign :: ' ' :: text.toList) := by
  have guarded : guardEnd text.toList = text.toList := by
    have last : ∀ cs, text.toList.reverse ≠ '\\' :: cs := by
      intro cs eq
      have inside : '\\' ∈ text.toList := List.mem_reverse.mp (eq ▸ List.mem_cons_self)
      exact (isOrdinary_iff.mp (h _ inside)).2.1 rfl
    rw [guardEnd]
    split
    · exact absurd ‹_› (last _)
    · exact absurd ‹_› (last _)
    · rfl
  have whole : pieces text.toList = [text.toList] := by
    simpa [pieces, piecesWith] using piecesWith_append h 0 [] []
  have unescaped : unescape text.toList = text.toList := by simpa [unescape] using unescape_append h []
  have named : emojis text.toList = text.toList := by simpa [emojis, emojisWith] using emojis_append h []
  have ordinary : ∀ c ∈ sign :: ' ' :: text.toList, isOrdinary c :=
    List.forall_mem_cons.mpr ⟨hsign, List.forall_mem_cons.mpr ⟨by decide, h⟩⟩
  have shown : shown (sign :: ' ' :: text.toList) = sign :: ' ' :: text.toList := by
    simpa [expandTabs] using shown_append ordinary []
  simp only [message, guarded, whole, List.flatMap_singleton, unescaped, named, shown]

end LogReview.Terminal
