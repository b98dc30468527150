import LogReview.Project.Directory
import Mathlib.Tactic.Common

/-! What stays of a directory when the contents of its files are left out, and what the rewriting of one file
changes: the content read at its place and nothing else. -/
namespace LogReview.Entry

/-! ### Outlines -/

mutual

/-- An entry with the contents of its files left out. -/
def outline : Entry → Entry
  | file name _ => file name (.ok .empty)
  | directory name es => directory name (outlines es)

def outlines : List Entry → List Entry
  | [] => []
  | e :: es => e.outline :: outlines es

end

@[simp] theorem outlines_eq_map (es : List Entry) : outlines es = es.map outline := by
  induction es with
  | nil => rfl
  | cons e es ih => rw [outlines, ih, List.map_cons]

@[simp] theorem outline_directory (name : String) (es : List Entry) :
    (directory name es).outline = directory name (es.map outline) := by
  rw [outline, outlines_eq_map]

@[simp] theorem name_outline (e : Entry) : e.outline.name = e.name := by
  cases e <;> rfl

@[simp] theorem isFile_outline (e : Entry) : e.outline.isFile = e.isFile := by
  cases e <;> rfl

@[simp] theorem isDirectory_outline (e : Entry) : e.outline.isDirectory = e.isDirectory := by
  cases e <;> rfl

@[simp] theorem entries_outline (e : Entry) : e.outline.entries = e.entries.map outline := by
  cases e with
  | file => rfl
  | directory name es => rw [outline_directory, entries, entries]

theorem find?_map_outline (es : List Entry) (part : String) :
    (es.map outline).find? (·.name == part) = (es.find? (·.name == part)).map outline := by
  simp only [List.find?_map, Function.comp_def, name_outline]

theorem follow_outline (above : List Entry) (here : Entry) (parts : List String) :
    follow (above.map outline) here.outline parts = (follow above here parts).map outline := by
  fun_induction follow above here parts with
  | case1 => rfl
  | case2 => rfl
  | case3 part parts name es up ih => simpa [follow, up] using ih
  | case4 part parts name es up outer above ih => simpa [follow, up] using ih
  | case5 above part parts name es down e found ih =>
    simp only [List.map_cons, outline_directory] at ih
    simp only [outline_directory, follow, if_neg down, find?_map_outline, found, Option.map_some]
    exact ih
  | case6 above part parts name es down missing =>
    simp only [outline_directory, follow, if_neg down, find?_map_outline, missing, Option.map_none]
    rfl

theorem locate_outline (root : Entry) (parts : List String) :
    root.outline.locate parts = (root.locate parts).map outline :=
  follow_outline [] root parts

theorem get?_outline (root : Entry) (parts : List String) :
    root.outline.get? parts = (root.get? parts).map outline := by
  rw [get?, get?, locate_outline]
  cases root.locate parts <;> rfl

@[simp] theorem hasDirectory_outline (root : Entry) (parts : List String) :
    root.outline.hasDirectory parts = root.hasDirectory parts := by
  simp [hasDirectory, get?_outline, Option.any_map]

@[simp] theorem hasFile_outline (root : Entry) : root.outline.hasFile = root.hasFile := by
  funext parts
  simp [hasFile, get?_outline, Option.any_map]

mutual

theorem directoriesFrom_outline (parts : List String) : (e : Entry) →
    directoriesFrom parts e.outline = directoriesFrom parts e
  | file .. => rfl
  | directory _ es => by rw [outline, directoriesFrom, directoriesFrom, directoriesIn_outlines]

theorem directoriesIn_outlines (parts : List String) : (es : List Entry) →
    directoriesIn parts (outlines es) = directoriesIn parts es
  | [] => rfl
  | e :: es => by
    rw [outlines, directoriesIn, directoriesIn, name_outline, directoriesFrom_outline, directoriesIn_outlines]

end

/-! ### Places -/

/-- The entry at a place, all of whose parts are names. -/
def at? (e : Entry) : List String → Option Entry
  | [] => some e
  | part :: parts =>
    match e.entries.find? (·.name == part) with
    | some e => at? e parts
    | none => none

theorem at?_concat {root e : Entry} {place : List String} (h : root.at? place = some e) (part : String) :
    root.at? (place ++ [part]) = e.entries.find? (·.name == part) := by
  induction place generalizing root with
  | nil =>
    cases h
    simp only [List.nil_append, at?]
    split
    · next found => exact found.symm
    · next missing => exact missing.symm
  | cons first place ih =>
    simp only [at?] at h
    simp only [List.cons_append, at?]
    split at h
    · exact ih h
    · cases h

/-- The directories passed from `root` to `here`, whose place is kept from the innermost part out. -/
inductive Trail (root : Entry) : List String → List Entry → Entry → Prop
  | top : Trail root [] [] root
  | down {place : List String} {above : List Entry} {here e : Entry} {part : String}
      (trail : Trail root place above here) (found : here.entries.find? (·.name == part) = some e) :
      Trail root (part :: place) (here :: above) e

theorem Trail.at? {root here : Entry} {place : List String} {above : List Entry}
    (trail : Trail root place above here) : root.at? place.reverse = some here := by
  induction trail with
  | top => rfl
  | down _ found ih => rw [List.reverse_cons, at?_concat ih, found]

theorem Trail.follow {root here e : Entry} {place parts : List String} {above : List Entry}
    (trail : Trail root place above here) (h : follow above here parts = .ok e) :
    ∃ above, Trail root (parts.foldl Path.step place) above e := by
  fun_induction Entry.follow above here parts generalizing place with
  | case1 above here =>
    cases h
    exact ⟨above, trail⟩
  | case2 => cases h
  | case3 part parts name es up ih =>
    cases trail
    simpa [Path.step, up] using ih .top h
  | case4 part parts name es up outer above ih =>
    cases trail with
    | down trail found => simpa [Path.step, up] using ih trail h
  | case5 above part parts name es down e found ih =>
    simpa [Path.step, down] using ih (.down trail found) h
  | case6 => cases h

/-- What is reached by parts with `..` among them stands at the place they name. -/
theorem at?_of_locate {root e : Entry} {parts : List String} (h : root.locate parts = .ok e) :
    root.at? (Path.follow [] parts) = some e := by
  obtain ⟨above, trail⟩ := Trail.top.follow h
  exact trail.at?

/-! ### Rewriting a file -/

def content? : Entry → Option (Except Obstacle Source)
  | file _ content => some content
  | directory .. => none

theorem find?_put_self (e : Entry) (es : List Entry) : (put e es).find? (·.name == e.name) = some e := by
  induction es with
  | nil => simp [put]
  | cons f es ih =>
    rw [put]
    split
    · simp
    · next other => simpa [other] using ih

theorem find?_put_of_ne {e : Entry} {part : String} (h : e.name ≠ part) (es : List Entry) :
    (put e es).find? (·.name == part) = es.find? (·.name == part) := by
  have skip : ¬ (e.name == part) = true := by simpa using h
  induction es with
  | nil => simp [put, skip]
  | cons f es ih =>
    rw [put]
    split
    · next same =>
      have skipped : ¬ (f.name == part) = true := by rwa [beq_iff_eq.mp same]
      simp [skip, skipped]
    · rw [List.find?_cons, List.find?_cons, ih]

theorem map_outline_put {e f : Entry} {es : List Entry} (found : es.find? (·.name == e.name) = some f)
    (h : e.outline = f.outline) : (put e es).map outline = es.map outline := by
  induction es with
  | nil => cases found
  | cons g es ih =>
    rw [put]
    split
    · next same =>
      have here : g = f := by simpa [same] using found
      rw [List.map_cons, List.map_cons, h, here]
    · next other =>
      rw [List.map_cons, List.map_cons, ih (by simpa [other] using found)]

/-- A file gets its new content, and everything else stays. -/
theorem store_of_at?_file {root : Entry} {place : List String} {name : String} {old : Except Obstacle Source}
    (h : root.at? place = some (file name old)) (content : Except Obstacle Source) :
    ∃ after, root.store content place = .ok after ∧ after.outline = root.outline ∧
      after.at? place = some (file name content) ∧
      ∀ other, other ≠ place → (after.at? other).bind content? = (root.at? other).bind content? := by
  induction place generalizing root with
  | nil =>
    cases h
    refine ⟨file name content, rfl, rfl, rfl, fun other ne => ?_⟩
    obtain ⟨part, parts, rfl⟩ := List.exists_cons_of_ne_nil ne
    rfl
  | cons part place ih =>
    cases root with
    | file => cases h
    | directory top es =>
      simp only [at?, entries] at h
      split at h
      · next e found =>
        obtain ⟨after, written, same, stands, others⟩ := ih h
        -- The outline keeps the name, so that `put` finds the entry to replace.
        have named : after.name = part := by
          rw [← name_outline, same, name_outline]
          simpa using List.find?_some found
        subst named
        refine ⟨directory top (put after es), by simp only [store, found, written], ?_, ?_, ?_⟩
        · rw [outline_directory, outline_directory, map_outline_put found same]
        · simp only [at?, entries, find?_put_self, stands]
        · intro other ne
          cases other with
          | nil => rfl
          | cons first rest =>
            by_cases same : after.name = first
            · subst same
              have differs : rest ≠ place := fun eq => ne (by rw [eq])
              simpa only [at?, entries, find?_put_self, found] using others rest differs
            · simp only [at?, entries, find?_put_of_ne same]
      · cases h

theorem locate_of_hasFile {root : Entry} {parts : List String} (h : root.hasFile parts) :
    ∃ name content, root.locate parts = .ok (file name content) := by
  rw [hasFile, get?] at h
  match located : root.locate parts with
  | .ok (file name content) => exact ⟨name, content, rfl⟩
  | .ok (directory ..) => simp [located, Except.toOption, isFile] at h
  | .error _ => simp [located, Except.toOption] at h

theorem read_of_locate {root : Entry} {parts : List String} {e : Entry} (h : root.locate parts = .ok e) :
    root.read parts = (match e.content? with | some content => content | none => .error .isDirectory) := by
  rw [read, h]
  cases e <;> rfl

/-- With the same outlines, what is read differs only where the contents at a place do. -/
theorem read_eq_of_outline_eq {root after : Entry} (same : after.outline = root.outline) {parts : List String}
    (h : (after.at? (Path.follow [] parts)).bind content? = (root.at? (Path.follow [] parts)).bind content?) :
    after.read parts = root.read parts := by
  have located : (after.locate parts).map outline = (root.locate parts).map outline := by
    rw [← locate_outline, same, locate_outline]
  match there : after.locate parts, here : root.locate parts with
  | .ok e, .ok f =>
    rw [at?_of_locate there, at?_of_locate here] at h
    rw [read_of_locate there, read_of_locate here, show e.content? = f.content? from h]
  | .error o, .error p =>
    rw [there, here] at located
    cases located
    rw [read, read, there, here]
  | .ok _, .error _ => rw [there, here] at located; cases located
  | .error _, .ok _ => rw [there, here] at located; cases located

/-- A file can be rewritten. It is then read as written, every other place as before. -/
theorem read_write {root : Entry} {parts : List String} (h : root.hasFile parts) (content : Source) :
    ∃ after, root.write content (Path.follow [] parts) = .ok after ∧ after.outline = root.outline ∧
      after.read parts = .ok content ∧
      ∀ other, Path.follow [] other ≠ Path.follow [] parts → after.read other = root.read other := by
  obtain ⟨name, old, located⟩ := locate_of_hasFile h
  obtain ⟨after, written, same, stands, others⟩ := store_of_at?_file (at?_of_locate located) (.ok content)
  refine ⟨after, written, same, ?_, fun other ne => read_eq_of_outline_eq same (others _ ne)⟩
  -- The file is there still, and at its place stands what was written.
  rw [← hasFile_outline, ← same, hasFile_outline] at h
  obtain ⟨name', content', found⟩ := locate_of_hasFile h
  have eq := (at?_of_locate found).symm.trans stands
  cases eq
  exact read_of_locate found

end LogReview.Entry
