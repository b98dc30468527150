import LogReview.Project.Directory
import Mathlib.Tactic.Common

/-! Names without slashes. Where all entries of a disk have such names, the text of a path to one of them tells the
parts of the path. -/
namespace LogReview

namespace Path

/-- What an entry can be called. -/
def isName (part : String) : Bool := !part.toList.isEmpty && !part.toList.contains '/'

theorem isName_iff {part : String} : isName part ↔ part.toList ≠ [] ∧ '/' ∉ part.toList := by
  simp [isName]

theorem splitSlashes_of_notMem {cs : List Char} (h : '/' ∉ cs) : splitSlashes cs = [cs] := by
  induction cs with
  | nil => rfl
  | cons c cs ih =>
    simp only [List.mem_cons, not_or] at h
    simp [splitSlashes, ih h.2, Ne.symm h.1]

theorem splitSlashes_append {cs : List Char} (h : '/' ∉ cs) (rest : List Char) :
    splitSlashes (cs ++ '/' :: rest) = cs :: splitSlashes rest := by
  induction cs with
  | nil => simp [splitSlashes]
  | cons c cs ih =>
    simp only [List.mem_cons, not_or] at h
    simp [splitSlashes, ih h.2, Ne.symm h.1]

/-- Without the empty parts, splitting undoes joining. -/
theorem splitSlashes_intercalate {parts : List String} (h : ∀ part ∈ parts, isName part) :
    (splitSlashes (['/'].intercalate (parts.map String.toList))).filter (!·.isEmpty) = parts.map String.toList := by
  induction parts with
  | nil => rfl
  | cons part parts ih =>
    obtain ⟨nonempty, slashless⟩ := isName_iff.mp (h part (by simp))
    have rest := ih fun p hp => h p (by simp [hp])
    cases parts with
    | nil => simp [splitSlashes_of_notMem slashless, nonempty]
    | cons next parts =>
      rw [List.map_cons] at rest
      rw [List.map_cons, List.map_cons, List.intercalate_cons_cons, List.append_assoc, List.singleton_append,
        splitSlashes_append slashless, List.filter_cons_of_pos (by simpa using nonempty), rest]

theorem text_ofPlace_injective {as bs : List String} (ha : ∀ part ∈ as, isName part) (hb : ∀ part ∈ bs, isName part)
    (h : (ofPlace as).text = (ofPlace bs).text) : as = bs := by
  have joined := congrArg String.toList h
  simp only [text, ofPlace, String.toList_append, String.toList_intercalate] at joined
  have split := congrArg (fun cs => (splitSlashes cs).filter (!·.isEmpty)) (List.append_cancel_left joined)
  simp only [show "/".toList = ['/'] from rfl, splitSlashes_intercalate ha, splitSlashes_intercalate hb] at split
  exact (List.map_inj_right fun _ _ => String.ext).mp split

end Path

namespace Entry

mutual

/-- Whether everything below an entry has a name. -/
def isProper : Entry → Bool
  | file .. => true
  | directory _ es => areProper es

def areProper : List Entry → Bool
  | [] => true
  | e :: es => Path.isName e.name && e.isProper && areProper es

end

theorem proper_of_mem {es : List Entry} (h : areProper es) {e : Entry} (he : e ∈ es) :
    Path.isName e.name ∧ e.isProper := by
  induction es with
  | nil => cases he
  | cons f es ih =>
    simp only [areProper, Bool.and_eq_true] at h
    rcases List.mem_cons.mp he with rfl | he
    · exact h.1
    · exact ih h.2 he

theorem isName_of_follow {above : List Entry} {here e : Entry} {parts : List String}
    (habove : ∀ a ∈ above, a.isProper) (hhere : here.isProper) (h : follow above here parts = .ok e) :
    ∀ part ∈ parts, Path.isName part := by
  fun_induction follow above here parts with
  | case1 => simp
  | case2 => cases h
  | case3 part parts name es up ih =>
    rw [beq_iff_eq.mp up]
    exact List.forall_mem_cons.mpr ⟨rfl, ih habove hhere h⟩
  | case4 part parts name es up outer above ih =>
    rw [beq_iff_eq.mp up]
    rw [List.forall_mem_cons] at habove
    exact List.forall_mem_cons.mpr ⟨rfl, ih habove.2 habove.1 h⟩
  | case5 above part parts name es down e found ih =>
    have named : e.name = part := by simpa using List.find?_some found
    obtain ⟨isName, proper⟩ := proper_of_mem hhere (List.mem_of_find?_eq_some found)
    rw [named] at isName
    exact List.forall_mem_cons.mpr ⟨isName, ih (List.forall_mem_cons.mpr ⟨hhere, habove⟩) proper h⟩
  | case6 => cases h

theorem isName_of_hasFile {root : Entry} (proper : root.isProper) {parts : List String} (h : root.hasFile parts) :
    ∀ part ∈ parts, Path.isName part := by
  rw [hasFile, get?] at h
  match located : root.locate parts with
  | .ok e => exact isName_of_follow (by simp) proper located
  | .error _ => simp [located, Except.toOption] at h

end Entry

end LogReview
