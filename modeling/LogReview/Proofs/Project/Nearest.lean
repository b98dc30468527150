import LogReview.Project.Configuration
import LogReview.Project.Directory
import Mathlib.Data.List.Induction
import Mathlib.Data.List.Infix

/-! Which configuration is in effect. The search goes from a directory up to the root, and in each directory through the
names in their order. The first file it meets is taken, and nothing that comes later matters. -/
namespace LogReview.Configuration
variable {files others : Files} {dir place q : List String}

/-! ### The rounds of the search -/

/-- The configuration that is in the directory itself. -/
def inside? (files : Files) (dir : List String) : Option (List String) :=
  (names.map fun n => dir ++ [n]).find? fun place => (files place).isSome

/-- The directory around a directory. The root is its own parent. -/
def parent (dir : List String) : List String := dir.dropLast

/-- The search with the number of its rounds. Where a directory has no configuration it goes on with the parent, and ends
where that is the same directory again. -/
inductive Search (files : Files) : List String → Nat → Option (List String) → Prop
  | found {dir place : List String} (here : inside? files dir = some place) : Search files dir 1 (some place)
  | exhausted {dir : List String} (here : inside? files dir = none) (root : parent dir = dir) : Search files dir 1 none
  | up {dir : List String} {rounds : Nat} {result : Option (List String)} (here : inside? files dir = none)
      (inner : parent dir ≠ dir) (rest : Search files (parent dir) rounds result) : Search files dir (rounds + 1) result

theorem Search.unique {m n : Nat} {r s : Option (List String)} (first : Search files dir m r)
    (second : Search files dir n s) : r = s := by
  induction first generalizing n with
  | found here =>
    cases second with
    | found here' => rw [← here, here']
    | exhausted here' => cases here.symm.trans here'
    | up here' => cases here.symm.trans here'
  | exhausted here root =>
    cases second with
    | found here' => cases here.symm.trans here'
    | exhausted => rfl
    | up _ inner => exact absurd root inner
  | up here inner _ ih =>
    cases second with
    | found here' => cases here.symm.trans here'
    | exhausted _ root => exact absurd root inner
    | up _ _ rest => exact ih rest

theorem candidates_nil : candidates [] = names.map fun n => [n] := by
  simp [candidates, climb]

theorem candidates_concat (dir : List String) (part : String) :
    candidates (dir ++ [part]) = (names.map fun n => dir ++ [part] ++ [n]) ++ candidates dir := by
  simp [candidates, climb]

theorem find?_nil (files : Files) : find? files [] = inside? files [] := by
  rw [find?, candidates_nil, inside?]
  rfl

theorem find?_concat (files : Files) (dir : List String) (part : String) :
    find? files (dir ++ [part]) = (inside? files (dir ++ [part])).or (find? files dir) := by
  rw [find?, candidates_concat, List.find?_append]
  rfl

theorem exists_search (files : Files) (dir : List String) :
    ∃ rounds ≤ dir.length + 1, Search files dir rounds (find? files dir) := by
  induction dir using List.reverseRecOn with
  | nil =>
    rw [find?_nil]
    cases here : inside? files [] with
    | some place => exact ⟨1, by simp, .found here⟩
    | none => exact ⟨1, by simp, .exhausted here rfl⟩
  | append_singleton dir part ih =>
    rw [find?_concat]
    cases here : inside? files (dir ++ [part]) with
    | some place => exact ⟨1, by simp, .found here⟩
    | none =>
      obtain ⟨rounds, bound, rest⟩ := ih
      have outer : parent (dir ++ [part]) = dir := List.dropLast_concat
      refine ⟨rounds + 1, by simpa using bound, .up here ?_ ?_⟩
      · simp [outer]
      · rwa [outer]

/-! ### The order of the search -/

/-- A file with one of the names, in the directory or in one around it. -/
def Candidate (dir place : List String) : Prop := ∃ d n, d <+: dir ∧ n ∈ names ∧ place = d ++ [n]

/-- The first of two candidates is further in, or beside the second with a name that comes before. -/
inductive Before (dir : List String) : List String → List String → Prop
  | nearer {d e : List String} {n m : String} (inner : d <+: dir) (outer : e <+: d) (ne : e ≠ d) (hn : n ∈ names)
      (hm : m ∈ names) : Before dir (d ++ [n]) (e ++ [m])
  | beside {d : List String} {n m : String} (inner : d <+: dir) (order : [n, m].Sublist names) :
      Before dir (d ++ [n]) (d ++ [m])

theorem mem_candidates : place ∈ candidates dir ↔ Candidate dir place := by
  induction dir using List.reverseRecOn with
  | nil => simp [candidates_nil, Candidate, eq_comm]
  | append_singleton dir part ih =>
    rw [candidates_concat, List.mem_append, ih, List.mem_map]
    constructor
    · rintro (⟨n, hn, rfl⟩ | ⟨d, n, hd, hn, rfl⟩)
      · exact ⟨dir ++ [part], n, List.prefix_rfl, hn, rfl⟩
      · exact ⟨d, n, hd.trans (List.prefix_append dir [part]), hn, rfl⟩
    · rintro ⟨d, n, hd, hn, rfl⟩
      rcases List.prefix_concat_iff.mp hd with rfl | hd
      · exact .inl ⟨n, hn, rfl⟩
      · exact .inr ⟨d, n, hd, hn, rfl⟩

theorem Before.candidate (h : Before dir q place) : Candidate dir q := by
  cases h with
  | nearer inner _ _ hn _ => exact ⟨_, _, inner, hn, rfl⟩
  | beside inner order => exact ⟨_, _, inner, order.subset (by simp), rfl⟩

theorem Before.widen {wide : List String} (h : Before dir q place) (around : dir <+: wide) : Before wide q place := by
  cases h with
  | nearer inner outer ne hn hm => exact .nearer (inner.trans around) outer ne hn hm
  | beside inner order => exact .beside (inner.trans around) order

theorem length_lt_of_prefix {d e : List String} (outer : e <+: d) (ne : e ≠ d) : e.length < d.length :=
  lt_of_le_of_ne outer.length_le fun same => ne (outer.eq_of_length same)

theorem Before.length_le (h : Before dir q place) : place.length ≤ q.length := by
  cases h with
  | nearer _ outer _ _ _ => simpa using outer.length_le
  | beside => simp

theorem Before.order {d : List String} {n m : String} (h : Before dir (d ++ [n]) (d ++ [m])) : [n, m].Sublist names := by
  generalize first : d ++ [n] = q, second : d ++ [m] = place at h
  cases h with
  | nearer _ outer ne _ _ =>
    have shorter := length_lt_of_prefix outer ne
    rw [← (List.append_inj' first rfl).1, ← (List.append_inj' second rfl).1] at shorter
    exact absurd shorter (lt_irrefl _)
  | beside _ order =>
    have hn := (List.append_inj' first rfl).2
    have hm := (List.append_inj' second rfl).2
    rwa [List.singleton_inj.mp hn, List.singleton_inj.mp hm]

theorem Before.asymm (h : Before dir q place) : ¬ Before dir place q := by
  intro back
  cases h with
  | nearer _ outer ne _ _ =>
    have longer := back.length_le
    have shorter := length_lt_of_prefix outer ne
    simp only [List.length_append, List.length_singleton] at longer
    omega
  | @beside d n m _ order =>
    have names_asymm : ∀ n ∈ names, ∀ m ∈ names, [n, m].Sublist names → ¬ [m, n].Sublist names := by decide +kernel
    exact names_asymm n (order.subset (by simp)) m (order.subset (by simp)) order back.order

theorem pairwise_beside (dir : List String) : (names.map fun n => dir ++ [n]).Pairwise (Before dir) := by
  rw [List.pairwise_map, List.pairwise_iff_forall_sublist]
  intro n m order
  exact .beside List.prefix_rfl order

/-- The candidates are looked at in their order. -/
theorem pairwise_candidates (dir : List String) : (candidates dir).Pairwise (Before dir) := by
  induction dir using List.reverseRecOn with
  | nil =>
    rw [candidates_nil]
    exact pairwise_beside []
  | append_singleton dir part ih =>
    rw [candidates_concat, List.pairwise_append]
    refine ⟨pairwise_beside _, ih.imp fun before => before.widen (List.prefix_append dir [part]), ?_⟩
    intro q hq place hplace
    obtain ⟨n, hn, rfl⟩ := List.mem_map.mp hq
    obtain ⟨e, m, outer, hm, rfl⟩ := mem_candidates.mp hplace
    refine .nearer List.prefix_rfl (outer.trans (List.prefix_append dir [part])) ?_ hn hm
    rintro rfl
    exact absurd outer.length_le (by simp)

/-- In a list in order, the first element of a kind is the one of that kind with none before it. -/
theorem find?_eq_some_iff_of_pairwise {α : Type} {r : α → α → Prop} {xs : List α} (ordered : xs.Pairwise r)
    (asymm : ∀ {a b}, r a b → ¬ r b a) {f : α → Bool} {a : α} :
    xs.find? f = some a ↔ a ∈ xs ∧ f a ∧ ∀ b ∈ xs, r b a → f b = false := by
  rw [List.find?_eq_some_iff_append]
  constructor
  · rintro ⟨ha, before, after, rfl, none⟩
    obtain ⟨_, behind, cross⟩ := List.pairwise_append.mp ordered
    refine ⟨by simp, ha, ?_⟩
    intro b hb first
    rcases List.mem_append.mp hb with hb | hb
    · simpa using none b hb
    · rcases List.mem_cons.mp hb with rfl | hb
      · exact absurd first (asymm first)
      · exact absurd (List.rel_of_pairwise_cons behind hb) (asymm first)
  · rintro ⟨ha, hf, none⟩
    obtain ⟨before, after, rfl⟩ := List.append_of_mem ha
    refine ⟨hf, before, after, rfl, ?_⟩
    intro b hb
    have first := (List.pairwise_append.mp ordered).2.2 b hb a (by simp)
    simp [none b (by simp [hb]) first]

theorem find?_eq_some_iff : find? files dir = some place ↔
    Candidate dir place ∧ (files place).isSome ∧ ∀ q, Before dir q place → files q = none := by
  rw [find?, find?_eq_some_iff_of_pairwise (pairwise_candidates dir) Before.asymm, mem_candidates]
  simp only [mem_candidates, Option.isSome_eq_false_iff, Option.isNone_iff_eq_none]
  refine and_congr_right fun _ => and_congr_right fun _ => ?_
  exact ⟨fun none q first => none q first.candidate first, fun none q _ first => none q first⟩

theorem find?_eq_none_iff : find? files dir = none ↔ ∀ q, Candidate dir q → files q = none := by
  simp [find?, mem_candidates]

/-! ### What the settings depend on -/

theorem absent_of_agree (same : (others q).isSome = (files q).isSome) (absent : files q = none) : others q = none := by
  rw [absent] at same
  simpa using same

/-- Another configuration is only found if something comes before it or the file itself changes. -/
theorem find?_of_agree (h : find? files dir = some place) (same : others place = files place)
    (earlier : ∀ q, Before dir q place → (others q).isSome = (files q).isSome) : find? others dir = some place := by
  obtain ⟨candidate, there, none⟩ := find?_eq_some_iff.mp h
  refine find?_eq_some_iff.mpr ⟨candidate, by rwa [same], fun q first => ?_⟩
  exact absent_of_agree (earlier q first) (none q first)

theorem near_of_agree (h : find? files dir = some place) (same : others place = files place)
    (earlier : ∀ q, Before dir q place → (others q).isSome = (files q).isSome) : near others dir = near files dir := by
  simp only [near, h, find?_of_agree h same earlier, ofFile, same]

theorem near_of_none (h : find? files dir = none) (same : ∀ q, Candidate dir q → (others q).isSome = (files q).isSome) :
    near others dir = near files dir := by
  have none : find? others dir = none := by
    rw [find?_eq_none_iff] at h ⊢
    intro q candidate
    exact absent_of_agree (same q candidate) (h q candidate)
  simp only [near, h, none]

theorem ofFile_of_agree (same : others place = files place) : ofFile others place = ofFile files place := by
  rw [ofFile, ofFile, same]

/-- The search ends after a round for each directory at most. It gives the first file in its order, or none if there is no
candidate at all; the settings depend on that file and on there being none before it, or only on the file that was asked
for. -/
theorem find?_nearest (files : Files) (dir : List String) :
    (∀ result, find? files dir = result ↔ ∃ rounds ≤ dir.length + 1, Search files dir rounds result) ∧
      (∀ place, find? files dir = some place ↔
        Candidate dir place ∧ (files place).isSome ∧ ∀ q, Before dir q place → files q = none) ∧
      (find? files dir = none ↔ ∀ q, Candidate dir q → files q = none) ∧
      (∀ others place, find? files dir = some place → others place = files place →
        (∀ q, Before dir q place → (others q).isSome = (files q).isSome) →
          load others none dir = load files none dir) ∧
      (∀ others, find? files dir = none → (∀ q, Candidate dir q → (others q).isSome = (files q).isSome) →
        load others none dir = load files none dir) ∧
      ∀ (others : Files) (place dir' : List String), others place = files place →
        load others (some place) dir' = load files (some place) dir := by
  refine ⟨fun result => ⟨?_, ?_⟩, fun place => find?_eq_some_iff, find?_eq_none_iff, ?_, ?_, ?_⟩
  · rintro rfl
    exact exists_search files dir
  · rintro ⟨_, _, search⟩
    obtain ⟨_, _, own⟩ := exists_search files dir
    exact own.unique search
  · intro others place found same earlier
    exact near_of_agree found same earlier
  · intro others none same
    exact near_of_none none same
  · intro others place dir' same
    exact ofFile_of_agree same

/-- The files of a project whose directory has a configuration, and a directory that is called like a better one. More
is in the directory around it and beside the configuration. -/
def homeWith (outer later : List Entry) : Files :=
  (Entry.directory "" [.directory "home" (outer ++ [.directory "p" (later ++ [
    .directory "src" [], .directory "logaudit.yaml" [],
    .file ".logaudit.yaml" (.ok "scan: \x7bjobs: 2\x7d".toUTF8)])])]).file?

def plainHome : Files := homeWith [] []

def crowdedHome : Files := homeWith [.file "logaudit.yaml" (.error .denied)] [.file ".logaudit.yml" (.ok "- b".toUTF8)]

/-- The configuration is found in the second round. One that is further out and one with a later name do not matter. -/
theorem find?_crowdedHome :
    find? crowdedHome ["home", "p", "src"] = some ["home", "p", ".logaudit.yaml"] ∧
      Search crowdedHome ["home", "p", "src"] 2 (some ["home", "p", ".logaudit.yaml"]) ∧
      (crowdedHome ["home", "logaudit.yaml"]).isSome ∧ plainHome ["home", "logaudit.yaml"] = none ∧
      load plainHome none ["home", "p", "src"] = load crowdedHome none ["home", "p", "src"] ∧
      load plainHome (some ["home", "p", ".logaudit.yaml"]) [] =
        load crowdedHome (some ["home", "p", ".logaudit.yaml"]) ["home", "p", "src"] := by
  have found : find? crowdedHome ["home", "p", "src"] = some ["home", "p", ".logaudit.yaml"] := by decide +kernel
  have alone : find? plainHome ["home", "p", "src"] = some ["home", "p", ".logaudit.yaml"] := by decide +kernel
  have search : Search crowdedHome ["home", "p", "src"] 2 (some ["home", "p", ".logaudit.yaml"]) :=
    .up (by decide +kernel) (by decide) (.found (by decide +kernel))
  have earlier : ∀ q, Before ["home", "p", "src"] q ["home", "p", ".logaudit.yaml"] →
      (plainHome q).isSome = (crowdedHome q).isSome := by
    intro q first
    rw [(find?_eq_some_iff.mp alone).2.2 q first, (find?_eq_some_iff.mp found).2.2 q first]
  obtain ⟨_, _, _, agree, _, asked⟩ := find?_nearest crowdedHome ["home", "p", "src"]
  exact ⟨found, search, by decide +kernel, rfl, agree _ _ found rfl earlier, asked plainHome _ [] rfl⟩

end LogReview.Configuration
