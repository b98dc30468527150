import LogReview.Command
import Mathlib.Tactic.Common

/-! Command lines without the options that ask for a number of jobs or for verbosity. However these options are written,
what the others say is read as if they were not there. -/
namespace LogReview.Command

/-- What is left of one argument when the two options are taken out of it, whether it asks for verbosity, and the option
whose value is the next argument. -/
structure Cut where
  kept : List String := []
  verbose : Bool := false
  waiting : Option Setting := none
deriving Repr, DecidableEq

namespace Cut

/-- Short options side by side. -/
def shorts : List Char → Cut
  | [] => {}
  | 'v' :: cs => { shorts cs with verbose := true }
  | 'j' :: cs => { waiting := if cs.isEmpty then some .jobs else none }
  | cs => { kept := [String.ofList ('-' :: cs)], waiting := if cs == ['c'] then some .config else none }

def ofArgument (arg : String) : Cut :=
  match arg.toList with
  | '-' :: c :: cs =>
    match Reading.splitValue ('-' :: c :: cs) with
    | ("--config", v) => { kept := [arg], waiting := if v.isNone then some .config else none }
    | ("--jobs", v) => { waiting := if v.isNone then some .jobs else none }
    | ("--verbose", none) => { verbose := true }
    | _ => if c == '-' then { kept := [arg] } else shorts (c :: cs)
  | _ => { kept := [arg] }

end Cut

/-- A command line without the two options, and whether it asked for verbosity. Values of options are not options
themselves, and neither is what stands behind two dashes. -/
def distill : List String → List String × Bool
  | [] => ([], false)
  | arg :: args =>
    if arg == "--" then (arg :: args, false)
    else
      let cut := Cut.ofArgument arg
      match cut.waiting, args with
      | none, args => (cut.kept ++ (distill args).1, cut.verbose || (distill args).2)
      | some .config, value :: args => (cut.kept ++ value :: (distill args).1, cut.verbose || (distill args).2)
      | some .jobs, _ :: args => (cut.kept ++ (distill args).1, cut.verbose || (distill args).2)
      | some _, [] => (cut.kept, cut.verbose)

namespace Reading
variable {r s : Reading}

/-- A reading without what it knows of the two options. -/
def plain (r : Reading) : Reading :=
  { r with
    arguments := { r.arguments with jobs := none, verbose := false }
    waiting := r.waiting.filter (· == .config) }

theorem plain_waiting (idle : r.waiting = none) : r.plain.waiting = none := by simp [plain, idle]

@[simp] theorem plain_help (r : Reading) : r.help.plain = r.plain.help := rfl

@[simp] theorem plain_operand (r : Reading) (arg : String) : (r.operand arg).plain = r.plain.operand arg := rfl

@[simp] theorem plain_setting_config (r : Reading) (v : Option String) :
    (r.setting .config v).plain = r.plain.setting .config v := by
  cases v <;> rfl

theorem plain_setting_jobs (idle : r.waiting = none) (v : Option String) : (r.setting .jobs v).plain = r.plain := by
  cases v <;> simp [setting, set, plain, idle, Option.filter]

@[simp] theorem ended_setting (r : Reading) (s : Setting) (v : Option String) : (r.setting s v).ended = r.ended := by
  cases s <;> cases v <;> rfl

@[simp] theorem verbose_setting (r : Reading) (s : Setting) (v : Option String) :
    (r.setting s v).arguments.verbose = r.arguments.verbose := by
  cases s <;> cases v <;> rfl

@[simp] theorem waiting_setting (r : Reading) (s : Setting) (v : Option String) :
    (r.setting s v).waiting = if v.isNone then some s else none := by
  cases s <;> cases v <;> rfl

theorem next_of_ended (idle : r.waiting = none) (ended : r.ended) (arg : String) :
    r.next arg = some (r.operand arg) := by
  rw [next, idle]
  simp [ended]

theorem next_of_waiting {setting : Setting} (h : r.waiting = some setting) (arg : String) :
    r.next arg = some (r.set setting arg) := by
  rw [next, h]

theorem next_eq_option (idle : r.waiting = none) (going : r.ended = false) {arg : String} (other : arg ≠ "--")
    {c : Char} {cs : List Char} (h : arg.toList = '-' :: c :: cs) : r.next arg = r.option ('-' :: c :: cs) := by
  simp [next, idle, going, other, h]

theorem next_eq_operand (idle : r.waiting = none) (going : r.ended = false) {arg : String}
    (h : ∀ c cs, arg.toList ≠ '-' :: c :: cs) : r.next arg = some (r.operand arg) := by
  have dashes : arg ≠ "--" := fun same => h '-' [] (same ▸ rfl)
  simp [next, idle, going, dashes]

/-- A single dash begins short options. -/
theorem option_of_ne {c : Char} (h : c ≠ '-') (cs : List Char) : r.option ('-' :: c :: cs) = r.shorts (c :: cs) := by
  have name : ∀ rest v, splitValue ('-' :: c :: cs) ≠ (String.ofList ('-' :: '-' :: rest), v) := by
    intro rest v same
    have first : (splitValue ('-' :: c :: cs)).1 = String.ofList (('-' :: c :: cs).takeWhile (· != '=')) := by
      rw [splitValue]
      split <;> rfl
    rw [same, String.ofList_inj] at first
    by_cases equals : c = '='
    · simp [equals] at first
    · simp [equals] at first
      exact h first.1.symm
  unfold option
  split
  · exact absurd ‹_› (name "config".toList _)
  · exact absurd ‹_› (name "jobs".toList _)
  · exact absurd ‹_› (name "verbose".toList _)
  · exact absurd ‹_› (name "help".toList _)
  · split
    · rename_i same
      exact absurd (List.cons.inj (List.cons.inj same).2).1 h
    · rfl

/-- Of the long options only help is left beside the three that a cut looks for. -/
theorem option_of_dashes {cs : List Char} (config : ∀ v, splitValue ('-' :: '-' :: cs) ≠ ("--config", v))
    (jobs : ∀ v, splitValue ('-' :: '-' :: cs) ≠ ("--jobs", v))
    (verbose : splitValue ('-' :: '-' :: cs) ≠ ("--verbose", none)) (h : r.option ('-' :: '-' :: cs) = some s) :
    s = r.help ∧ ∀ t : Reading, t.option ('-' :: '-' :: cs) = some t.help := by
  have help : splitValue ('-' :: '-' :: cs) = ("--help", none) := by
    by_contra other
    simp [option] at h
  simp only [option, help, Option.some.injEq] at h ⊢
  exact ⟨h.symm, fun _ => trivial⟩

/-- What one argument adds to a reading, seen through its cut: what is kept of the argument adds the same but for the
two options. -/
structure Adds (r : Reading) (cut : Cut) (s : Reading) : Prop where
  ended : s.ended = false
  waiting : s.waiting = cut.waiting
  verbose : s.arguments.verbose = (r.arguments.verbose || cut.verbose)
  kept : cut.kept.foldlM next r.plain = some s.plain

theorem adds_shorts (idle : r.waiting = none) (going : r.ended = false) {cs : List Char} (h : r.shorts cs = some s) :
    Adds r (Cut.shorts cs) s := by
  fun_induction shorts r cs with
  | case1 r =>
    cases h
    exact ⟨going, idle, by simp [Cut.shorts], rfl⟩
  | case2 r cs ih =>
    have step := ih idle going h
    exact ⟨step.ended, step.waiting, by simp [Cut.shorts, step.verbose, Reading.verbose], step.kept⟩
  | case3 r cs =>
    cases h
    have dash : String.ofList ('-' :: 'c' :: cs) ≠ "--" := by
      intro same
      simpa using congrArg String.toList same
    refine ⟨by simp [going], by cases cs <;> simp [Cut.shorts], by simp [Cut.shorts], ?_⟩
    have read := next_eq_option (plain_waiting idle) going dash String.toList_ofList
    rw [option_of_ne (by decide)] at read
    rw [plain_setting_config]
    exact (List.foldlM_cons ..).trans (read ▸ rfl)
  | case4 r cs =>
    cases h
    refine ⟨by simp [going], by cases cs <;> simp [Cut.shorts], by simp [Cut.shorts], ?_⟩
    rw [plain_setting_jobs idle]
    rfl
  | case5 => cases h

/-- The step: one argument that is no end of options. -/
theorem adds_ofArgument (idle : r.waiting = none) (going : r.ended = false) {arg : String} (other : arg ≠ "--")
    (h : r.next arg = some s) : Adds r (Cut.ofArgument arg) s := by
  unfold Cut.ofArgument
  split
  · rename_i c cs chars
    have read := next_eq_option (plain_waiting idle) going other chars
    rw [next_eq_option idle going other chars] at h
    split
    · rename_i v name
      simp only [option, name, Option.some.injEq] at h read
      subst h
      exact ⟨by simp [going], by simp, by simp, by simp [read]⟩
    · rename_i v name
      simp only [option, name, Option.some.injEq] at h
      subst h
      exact ⟨by simp [going], by simp, by simp, by simp [plain_setting_jobs idle]⟩
    · rename_i name
      simp only [option, name, Option.some.injEq] at h
      subst h
      exact ⟨going, idle, by simp [verbose], rfl⟩
    · rename_i config jobs verbose
      by_cases dash : c = '-'
      · subst dash
        obtain ⟨rfl, help⟩ := option_of_dashes config jobs verbose h
        exact ⟨going, idle, by simp [Reading.help], by simp [read, help]⟩
      · rw [option_of_ne dash] at h
        simpa [dash] using adds_shorts idle going h
  · rename_i operand
    rw [next_eq_operand idle going operand] at h
    cases h
    exact ⟨going, idle, by simp [Reading.operand], by simp [next_eq_operand (plain_waiting idle) going operand]⟩

theorem exists_adds (idle : r.waiting = none) (going : r.ended = false) {arg : String} (other : arg ≠ "--")
    {args : List String} (h : (arg :: args).foldlM next r = some s) :
    ∃ t, Adds r (Cut.ofArgument arg) t ∧ args.foldlM next t = some s := by
  obtain ⟨t, step, rest⟩ := Option.bind_eq_some_iff.mp h
  exact ⟨t, adds_ofArgument idle going other step, rest⟩

/-- Behind the end of options every argument is an operand. -/
theorem foldlM_of_ended (idle : r.waiting = none) (ended : r.ended) {args : List String}
    (h : args.foldlM next r = some s) :
    args.foldlM next r.plain = some s.plain ∧ s.arguments.verbose = r.arguments.verbose := by
  induction args generalizing r with
  | nil =>
    cases h
    exact ⟨rfl, rfl⟩
  | cons arg args ih =>
    rw [List.foldlM_cons, next_of_ended idle ended] at h
    rw [List.foldlM_cons, next_of_ended (plain_waiting idle) ended]
    exact @ih (r.operand arg) idle ended h

theorem next_dashes (idle : r.waiting = none) (going : r.ended = false) :
    r.next "--" = some { r with ended := true } := by
  simp [next, idle, going]

/-- The run: what is left of a command line is read as the whole of it, but for the two options. -/
theorem foldlM_distill (idle : r.waiting = none) (going : r.ended = false) {args : List String}
    (h : args.foldlM next r = some s) (complete : s.waiting = none) :
    (distill args).1.foldlM next r.plain = some s.plain ∧
      s.arguments.verbose = (r.arguments.verbose || (distill args).2) := by
  fun_induction distill args generalizing r with
  | case1 =>
    cases h
    simp
  | case2 arg args dashes =>
    obtain rfl := beq_iff_eq.mp dashes
    rw [List.foldlM_cons, next_dashes idle going] at h
    rw [List.foldlM_cons, next_dashes (plain_waiting idle) going, Bool.or_false]
    exact @foldlM_of_ended { r with ended := true } _ idle rfl _ h
  | case3 arg other cut args waits =>
    rename_i ih
    obtain ⟨t, step, rest⟩ := exists_adds idle going (by simpa using other) h
    obtain ⟨plain, verbose⟩ := ih (step.waiting.trans waits) step.ended rest
    rw [List.foldlM_append, step.kept, verbose, step.verbose, Bool.or_assoc]
    exact ⟨plain, rfl⟩
  | case4 arg other cut value args waits =>
    rename_i ih
    obtain ⟨t, step, rest⟩ := exists_adds idle going (by simpa using other) h
    have waiting : t.waiting = some .config := step.waiting.trans waits
    rw [List.foldlM_cons, next_of_waiting waiting] at rest
    obtain ⟨plain, verbose⟩ := @ih (t.set .config value) rfl step.ended rest
    have waiting : t.plain.waiting = some .config := by simp [Reading.plain, waiting]
    rw [List.foldlM_append, step.kept]
    refine ⟨?_, by rw [verbose, ← Bool.or_assoc, ← step.verbose]; rfl⟩
    change (value :: (distill args).1).foldlM next t.plain = _
    rw [List.foldlM_cons, next_of_waiting waiting]
    exact plain
  | case5 arg other cut value args waits =>
    rename_i ih
    obtain ⟨t, step, rest⟩ := exists_adds idle going (by simpa using other) h
    have waiting : t.waiting = some .jobs := step.waiting.trans waits
    rw [List.foldlM_cons, next_of_waiting waiting] at rest
    obtain ⟨plain, verbose⟩ := @ih (t.set .jobs value) rfl step.ended rest
    have same : (t.set .jobs value).plain = t.plain := by simp [Reading.plain, set, waiting, Option.filter]
    rw [List.foldlM_append, step.kept]
    exact ⟨same ▸ plain, by rw [verbose, ← Bool.or_assoc, ← step.verbose]; rfl⟩
  | case6 arg other cut setting =>
    rename_i waits
    -- an option at the end of the line has no value
    obtain ⟨t, step, rest⟩ := exists_adds idle going (by simpa using other) h
    cases rest
    cases complete.symm.trans (step.waiting.trans waits)

end Reading

/-- What is left of a command line asks for the same, without jobs and verbosity. -/
theorem Arguments.read?_distill {args : List String} {a : Arguments} (h : read? args = some a) :
    read? (distill args).1 = some { a with jobs := none, verbose := false } ∧ a.verbose = (distill args).2 := by
  rw [read?] at h
  split at h
  · rename_i r read
    split at h
    · cases h
    · rename_i complete
      cases h
      have complete : r.waiting = none := by simpa using complete
      obtain ⟨plain, verbose⟩ := Reading.foldlM_distill rfl rfl read complete
      have plain : (distill args).1.foldlM Reading.next {} = some r.plain := plain
      refine ⟨?_, by simpa using verbose⟩
      rw [read?, plain]
      simp [Reading.plain, complete]
  · cases h

/-- Jobs go with their value, and what looks like an option can be the value of another. -/
example :
    let left := distill ["-vj", "4", "p", "-vc", "--jobs", "--jobs=2"]
    left = (["p", "-c", "--jobs"], true) ∧
      Arguments.read? left.1 = some { config := some "--jobs", operands := ["p"] } := by
  decide +kernel

end LogReview.Command
