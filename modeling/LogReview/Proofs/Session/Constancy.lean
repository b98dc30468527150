import LogReview.Session
import Mathlib.Tactic.Common

/-! What a session says of its project depends on the project alone. The rules and the extensions were taken from the
settings once; steps change the disk or the assigned settings, and only the disk shows in later answers. -/
namespace LogReview

/-- Whole numbers, with the truth values among them. -/
def Value.isWhole : Value → Bool
  | .int _ | .bool _ => true
  | _ => false

namespace Session

/-- The session that some steps lead to. -/
def after (s : Session) (steps : List Step) : Session := steps.foldl (fun s step => (s.step step).1) s

namespace Step

/-- Changes to the project itself. -/
def changes : Step → Bool
  | .write .. | .delete .. | .makeDirectory .. => true
  | _ => false

/-- Questions about the project or the rules. -/
def asks : Step → Bool
  | .source .. | .file .. | .scan | .rules | .dropRules => true
  | _ => false

/-- Jobs stay a whole number. -/
def keepsJobs : Step → Bool
  | .assign .scan field v => field != "jobs" || v.isWhole
  | _ => true

end Step

section Steps
variable {s t : Session} {step : Step}

theorem exists_disk_changed (s : Session) (path : Path) (outcome : Except Obstacle Entry) :
    ∃ disk, (s.changed path outcome).1 = { s with disk } := by
  cases outcome with
  | ok disk => exact ⟨disk, rfl⟩
  | error => exact ⟨s.disk, rfl⟩

theorem exists_disk_write (s : Session) (name : String) (content : Source) :
    ∃ disk, (s.write name content).1 = { s with disk } := by
  simp only [write]
  split
  · exact ⟨s.disk, rfl⟩
  · split
    · exact ⟨_, rfl⟩
    · exact exists_disk_changed { s with disk := _ } _ _

theorem exists_assigned (s : Session) (part : Section) (field : String) (v : Value) :
    ∃ assigned, (s.assign part field v).1 = { s with assigned } ∧
      (assigned.jobs = s.assigned.jobs ∨ part = .scan ∧ field = "jobs" ∧ assigned.jobs = v) := by
  simp only [assign]
  split
  · exact ⟨_, rfl, .inl rfl⟩
  · exact ⟨_, rfl, .inl rfl⟩
  · exact ⟨_, rfl, .inl rfl⟩
  · exact ⟨_, rfl, .inr ⟨rfl, rfl, rfl⟩⟩
  · exact ⟨s.assigned, rfl, .inl rfl⟩

/-- All that a step can do: change the disk, assign a setting, or nothing. -/
theorem step_cases (s : Session) (step : Step) :
    (step.changes ∧ ∃ disk, (s.step step).1 = { s with disk }) ∨
    (∃ part field v assigned, step = .assign part field v ∧ (s.step step).1 = { s with assigned } ∧
      (assigned.jobs = s.assigned.jobs ∨ part = .scan ∧ field = "jobs" ∧ assigned.jobs = v)) ∨
    (step.asks ∧ (s.step step).1 = s) := by
  cases step with
  | write name content => exact .inl ⟨rfl, exists_disk_write s name content⟩
  | delete name => exact .inl ⟨rfl, exists_disk_changed s _ _⟩
  | makeDirectory name => exact .inl ⟨rfl, exists_disk_changed s _ _⟩
  | assign part field v =>
    obtain ⟨assigned, eq, jobs⟩ := exists_assigned s part field v
    exact .inr (.inl ⟨part, field, v, assigned, rfl, eq, jobs⟩)
  | source content path => exact .inr (.inr ⟨rfl, rfl⟩)
  | file name => exact .inr (.inr ⟨rfl, rfl⟩)
  | scan => exact .inr (.inr ⟨rfl, rfl⟩)
  | rules => exact .inr (.inr ⟨rfl, rfl⟩)
  | dropRules => exact .inr (.inr ⟨rfl, rfl⟩)

theorem reviewer_step (s : Session) (step : Step) : (s.step step).1.reviewer = s.reviewer := by
  obtain ⟨_, disk, eq⟩ | ⟨_, _, _, assigned, _, eq, _⟩ | ⟨_, eq⟩ := s.step_cases step
  all_goals rw [eq]

theorem disk_step (h : step.changes = false) : (s.step step).1.disk = s.disk := by
  obtain ⟨changes, _⟩ | ⟨_, _, _, assigned, _, eq, _⟩ | ⟨_, eq⟩ := s.step_cases step
  · rw [h] at changes
    cases changes
  · rw [eq]
  · rw [eq]

theorem severalJobs_of_isWhole {a : Assigned} (h : a.jobs.isWhole) : ∃ several, a.severalJobs = .ok several := by
  unfold Assigned.severalJobs
  split
  · exact ⟨_, rfl⟩
  · exact ⟨_, rfl⟩
  · exact ⟨_, rfl⟩
  · next v _ _ _ => cases v <;> simp_all [Value.isWhole]

theorem isWhole_step (keeps : step.keepsJobs) (h : s.assigned.jobs.isWhole) :
    (s.step step).1.assigned.jobs.isWhole := by
  obtain ⟨_, disk, eq⟩ | ⟨_, _, v, assigned, rfl, eq, same | ⟨rfl, rfl, new⟩⟩ | ⟨_, eq⟩ := s.step_cases step
  · rwa [eq]
  · rw [eq]
    exact same ▸ h
  · rw [eq]
    simpa [new, Step.keepsJobs] using keeps
  · rwa [eq]

/-- The assigned settings do not show in the disk that a step leads to. -/
theorem disk_step_congr (disk : s.disk = t.disk) (reviewer : s.reviewer = t.reviewer) (step : Step) :
    (s.step step).1.disk = (t.step step).1.disk := by
  have changed (s t : Session) (disk : s.disk = t.disk) (path : Path) (outcome : Except Obstacle Entry) :
      (s.changed path outcome).1.disk = (t.changed path outcome).1.disk := by
    cases outcome with
    | ok => rfl
    | error => exact disk
  have path (name : String) : s.path name = t.path name := by rw [Session.path, Session.path, reviewer]
  cases step with
  | write name content =>
    simp only [Session.step, write, path, disk]
    split
    · exact disk
    · split
      · rfl
      · refine changed _ _ ?_ _ _
        rfl
  | delete name =>
    simp only [Session.step, path, disk]
    exact changed _ _ disk _ _
  | makeDirectory name =>
    simp only [Session.step, path, disk]
    exact changed _ _ disk _ _
  | _ => rw [disk_step rfl, disk_step rfl, disk]

theorem scan_eq_scanned {several : Bool} {result : ScanResult} (jobs : s.assigned.severalJobs = .ok several)
    (h : s.reviewer.scan? s.disk several = some result) : s.scan = .ok (.scanned result) := by
  simp only [scan, jobs, h]

/-- A scan asks whether there are several jobs, but gives the same for one. -/
theorem scan_congr (disk : s.disk = t.disk) (reviewer : s.reviewer = t.reviewer) (hs : s.assigned.jobs.isWhole)
    (ht : t.assigned.jobs.isWhole) : s.scan = t.scan := by
  obtain ⟨several, hs⟩ := severalJobs_of_isWhole hs
  obtain ⟨several', ht⟩ := severalJobs_of_isWhole ht
  simp only [scan, hs, ht, disk, reviewer, Reviewer.scan?, Reviewer.reports_eq_map]

theorem answer_congr (asks : step.asks) (disk : s.disk = t.disk) (reviewer : s.reviewer = t.reviewer)
    (hs : s.assigned.jobs.isWhole) (ht : t.assigned.jobs.isWhole) : (s.step step).2 = (t.step step).2 := by
  cases step with
  | source content path => simp only [Session.step, reviewer]
  | file name => simp only [Session.step, Session.path, disk, reviewer]
  | scan => exact scan_congr disk reviewer hs ht
  | rules => simp only [Session.step, reviewer]
  | dropRules => simp only [Session.step, reviewer]
  | _ => cases asks

end Steps

section Runs
variable {s t : Session} {steps : List Step}

theorem after_cons (s : Session) (step : Step) (steps : List Step) :
    s.after (step :: steps) = (s.step step).1.after steps := rfl

theorem reviewer_after (s : Session) (steps : List Step) : (s.after steps).reviewer = s.reviewer := by
  induction steps generalizing s with
  | nil => rfl
  | cons step steps ih => rw [after_cons, ih, reviewer_step]

theorem isWhole_after (keeps : ∀ step ∈ steps, step.keepsJobs) (h : s.assigned.jobs.isWhole) :
    (s.after steps).assigned.jobs.isWhole := by
  induction steps generalizing s with
  | nil => exact h
  | cons step steps ih =>
    rw [List.forall_mem_cons] at keeps
    exact ih keeps.2 (isWhole_step keeps.1 h)

/-- The disk is what the changes to it have made of it. -/
theorem disk_after (disk : s.disk = t.disk) (reviewer : s.reviewer = t.reviewer) (steps : List Step) :
    (s.after steps).disk = (t.after (steps.filter Step.changes)).disk := by
  induction steps generalizing s t with
  | nil => exact disk
  | cons step steps ih =>
    rw [after_cons, List.filter_cons]
    cases h : step.changes with
    | true =>
      rw [if_pos rfl, after_cons]
      refine ih (disk_step_congr disk reviewer step) ?_
      rw [reviewer_step, reviewer_step, reviewer]
    | false =>
      refine ih ((disk_step h).trans disk) ?_
      rw [reviewer_step, reviewer]

theorem getElem?_run (s : Session) (steps : List Step) (i : Nat) :
    (s.run steps)[i]? = steps[i]?.map fun step => ((s.after (steps.take i)).step step).2 := by
  induction steps generalizing s i with
  | nil => simp [run]
  | cons step steps ih =>
    cases i with
    | zero => simp [run, after]
    | succ i => simpa [run, after_cons] using ih (s.step step).1 i

end Runs

/-- Whatever steps a session has taken, it answers as one that is set up with the first settings on the disk as it
is now; and this disk comes from the changes to it alone. Jobs may be assigned as long as they stay a number. -/
theorem run_eq_afresh (disk : Entry) (top : List String) (settings : Settings) (extra : List Rule → List Rule)
    (steps : List Step) (keeps : ∀ step ∈ steps, step.keepsJobs) (i : Nat) (step : Step) (taken : steps[i]? = some step)
    (asks : step.asks) :
    let s := start disk top settings extra
    let now := (s.after (steps.take i)).disk
    (s.run steps)[i]? = some ((start now top settings extra).step step).2 ∧
      now = (s.after ((steps.take i).filter Step.changes)).disk ∧
      (step = .rules →
        (s.run steps)[i]? = some (.ok (.ruleIds ((extra (Rule.battery settings.limits)).map (·.id))))) := by
  intro s now
  have keeps : ∀ step ∈ steps.take i, step.keepsJobs := fun step h => keeps step (List.mem_of_mem_take h)
  have reviewer : (s.after (steps.take i)).reviewer = (start now top settings extra).reviewer := reviewer_after s _
  have same : (s.after (steps.take i)).disk = (start now top settings extra).disk := rfl
  have whole : (s.after (steps.take i)).assigned.jobs.isWhole := isWhole_after keeps rfl
  have answer : (s.run steps)[i]? = some ((start now top settings extra).step step).2 := by
    rw [getElem?_run, taken, Option.map_some, answer_congr asks same reviewer whole rfl]
  refine ⟨answer, disk_after rfl rfl _, ?_⟩
  rintro rfl
  exact answer

/-- Settings are assigned, a file is removed, another cannot be, and the rules that were handed out are dropped. -/
def busySteps : List Step :=
  [.assign .rules "max_message_length" (.int 100), .assign .scan "jobs" (.int 4), .delete "A.java",
   .file "A.java", .delete "C.java", .dropRules, .scan]

/-- A project whose files all log the same message. -/
def logging (names : List String) : Entry :=
  let content := "class A \x7b void f() \x7b log.info(\"too long\"); \x7d \x7d".toUTF8
  .directory "" [.directory "p" (names.map fun name => .file name (.ok content))]

/-- The message is longer than the first settings allow, and shorter than those assigned later: it is reported still.
What is found in a file on which a rule fails is not. -/
theorem run_eq_afresh_busySteps :
    let extra (rules : List Rule) := rules ++ [Rule.refusing "wary" "B" "refused"]
    let settings : Settings := { limits := { messageLength := 5 } }
    let s := start (logging ["A.java", "B.java", "D.java"]) ["p"] settings extra
    let now := (s.after (busySteps.take 6)).disk
    (∀ step ∈ busySteps, step.keepsJobs) ∧ busySteps[6]? = some .scan ∧ Step.scan.asks ∧
      (s.run busySteps)[6]? = some ((start now ["p"] settings extra).step .scan).2 ∧
      now = logging ["B.java", "D.java"] ∧ ∃ result, (s.run busySteps)[6]? = some (.ok (.scanned result)) ∧
        result.issues.map (fun i => (i.file, i.description)) =
          [("/p/D.java", "Hardcoded log message without placeholders"),
            ("/p/D.java", "Overly verbose log message (8 chars)")] ∧
        result.failures.map (·.fault) = [.ruleFailed "refused"] := by
  intro extra settings s now
  have keeps : ∀ step ∈ busySteps, step.keepsJobs := by simp [busySteps, Step.keepsJobs, Value.isWhole]
  have afresh : (s.run busySteps)[6]? = some ((start now ["p"] settings extra).step .scan).2 :=
    (run_eq_afresh _ ["p"] settings extra busySteps keeps 6 .scan rfl rfl).1
  have told : ((start now ["p"] settings extra).reviewer.scan? now false).map
      (fun r => (r.issues.map fun i => (i.file, i.description), r.failures.map (·.fault))) =
      some ([("/p/D.java", "Hardcoded log message without placeholders"),
        ("/p/D.java", "Overly verbose log message (8 chars)")], [.ruleFailed "refused"]) := by
    decide +kernel
  obtain ⟨result, scanned, eq⟩ := Option.map_eq_some_iff.mp told
  rw [Prod.mk.injEq] at eq
  have answer : (start now ["p"] settings extra).scan = .ok (.scanned result) := scan_eq_scanned rfl scanned
  exact ⟨keeps, rfl, rfl, afresh, rfl, result, afresh.trans (congrArg some answer), eq.1, eq.2⟩

end Session

end LogReview
