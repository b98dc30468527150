import Mathlib.Logic.Relation
import LogReview.Session

/-! A scan by several workers. Files are submitted in order, started and finished in any order, and
their reports are taken in the order of submission. Every finished run gives what the loop over the
files gives, and every run can be finished. -/
namespace LogReview

/-- What a scan has gathered from the reports it has taken. -/
structure Tally where
  collector : Collector := {}
  failures : List Failure := []
  scanned : Nat := 0

namespace Tally

/-- A failed file adds its failure, any other file adds its issues. -/
def take (t : Tally) (report : FileReport) : Tally :=
  match report.failure with
  | some failure => { t with failures := t.failures ++ [failure], scanned := t.scanned + 1 }
  | none => { t with collector := t.collector.extend report.issues, scanned := t.scanned + 1 }

def result (t : Tally) : ScanResult := ⟨t.collector.toList, t.failures, t.scanned⟩

/-- One file after the other. -/
def loop (work : Path → FileReport) (t : Tally) (paths : List Path) : Tally :=
  paths.foldl (fun t p => t.take (work p)) t

theorem loop_cons (work : Path → FileReport) (t : Tally) (p : Path) (paths : List Path) :
    t.loop work (p :: paths) = (t.take (work p)).loop work paths := rfl

theorem foldl_take (reports : List FileReport) (t : Tally) :
    reports.foldl take t =
      ⟨(reports.filter (·.failure.isNone)).foldl (fun c r => c.extend r.issues) t.collector,
        t.failures ++ reports.filterMap (·.failure), t.scanned + reports.length⟩ := by
  induction reports generalizing t with
  | nil => simp
  | cons report reports ih =>
    rw [List.foldl_cons, ih]
    cases h : report.failure with
    | none => simp [take, h, Nat.add_comm, Nat.add_left_comm]
    | some failure => simp [take, h, Nat.add_comm, Nat.add_left_comm]

/-- The loop counts, keeps and collects what the reports of the files hold together. -/
theorem result_loop (work : Path → FileReport) (paths : List Path) :
    (loop work {} paths).result = ScanResult.ofReports (paths.map work) := by
  have h := foldl_take (paths.map work) {}
  rw [List.foldl_map] at h
  rw [loop, h]
  simp [result, ScanResult.ofReports]

end Tally

namespace Pool

inductive Stage where
  | waiting
  | running
  | done (report : FileReport)

/-- A file that was submitted. -/
structure Ticket where
  path : Path
  stage : Stage

namespace Ticket

def isRunning (t : Ticket) : Bool :=
  match t.stage with
  | .running => true
  | _ => false

/-- The steps until its report is taken. -/
def left (t : Ticket) : Nat :=
  match t.stage with
  | .waiting => 3
  | .running => 2
  | .done _ => 1

def lefts : List Ticket → Nat
  | [] => 0
  | t :: ts => t.left + lefts ts

theorem lefts_append (as bs : List Ticket) : lefts (as ++ bs) = lefts as + lefts bs := by
  induction as with
  | nil => simp [lefts]
  | cons t as ih => rw [List.cons_append, lefts, lefts, ih, Nat.add_assoc]

/-- A report that is there is the report of the file. -/
def Honest (work : Path → FileReport) (t : Ticket) : Prop :=
  ∀ report, t.stage = .done report → report = work t.path

end Ticket

end Pool

/-- The files still to submit, those submitted whose reports are not yet taken, both in order, and
what was taken. -/
structure Pool where
  unsent : List Path
  tickets : List Pool.Ticket
  tally : Tally

namespace Pool

def start (paths : List Path) : Pool := ⟨paths, [], {}⟩

def Finished (s : Pool) : Prop := s.unsent = [] ∧ s.tickets = []

/-- Reports are taken only once all files are submitted, and the first ticket comes first. -/
inductive Step (workers : Nat) (work : Path → FileReport) : Pool → Pool → Prop
  | submit (p : Path) (unsent : List Path) (tickets : List Ticket) (tally : Tally) :
      Step workers work ⟨p :: unsent, tickets, tally⟩ ⟨unsent, tickets ++ [⟨p, .waiting⟩], tally⟩
  | start (unsent : List Path) (as : List Ticket) (p : Path) (bs : List Ticket) (tally : Tally)
      (free : (as ++ bs).countP Ticket.isRunning < workers) :
      Step workers work ⟨unsent, as ++ ⟨p, .waiting⟩ :: bs, tally⟩ ⟨unsent, as ++ ⟨p, .running⟩ :: bs, tally⟩
  | finish (unsent : List Path) (as : List Ticket) (p : Path) (bs : List Ticket) (tally : Tally) :
      Step workers work ⟨unsent, as ++ ⟨p, .running⟩ :: bs, tally⟩
        ⟨unsent, as ++ ⟨p, .done (work p)⟩ :: bs, tally⟩
  | yield (p : Path) (report : FileReport) (tickets : List Ticket) (tally : Tally) :
      Step workers work ⟨[], ⟨p, .done report⟩ :: tickets, tally⟩ ⟨[], tickets, tally.take report⟩

section Runs
variable {workers : Nat} {work : Path → FileReport} {s t : Pool}

/-- What the loop makes of the present tally and all files that are left. -/
def outlook (work : Path → FileReport) (s : Pool) : Tally :=
  s.tally.loop work (s.tickets.map (·.path) ++ s.unsent)

def Honest (work : Path → FileReport) (s : Pool) : Prop := ∀ t ∈ s.tickets, t.Honest work

theorem honest_start (paths : List Path) : (start paths).Honest work := by
  simp [Honest, start]

theorem Step.honest (step : Step workers work s t) (h : s.Honest work) : t.Honest work := by
  cases step with
  | submit p unsent tickets tally =>
    simp only [Honest, List.forall_mem_append, List.forall_mem_singleton]
    exact ⟨h, nofun⟩
  | start unsent as p bs tally free =>
    simp only [Honest, List.forall_mem_append, List.forall_mem_cons] at h ⊢
    exact ⟨h.1, nofun, h.2.2⟩
  | finish unsent as p bs tally =>
    simp only [Honest, List.forall_mem_append, List.forall_mem_cons] at h ⊢
    refine ⟨h.1, ?_, h.2.2⟩
    rintro report ⟨⟩
    rfl
  | yield p report tickets tally =>
    simp only [Honest, List.forall_mem_cons] at h
    exact h.2

/-- Only taking a report changes the tally, and it takes the report of the first file left. -/
theorem Step.outlook_eq (step : Step workers work s t) (h : s.Honest work) :
    t.outlook work = s.outlook work := by
  cases step with
  | submit p unsent tickets tally => simp [outlook]
  | start unsent as p bs tally free => simp [outlook]
  | finish unsent as p bs tally => simp [outlook]
  | yield p report tickets tally =>
    -- The first ticket is the first file the loop has before it.
    have honest : report = work p := h ⟨p, .done report⟩ List.mem_cons_self report rfl
    simp only [outlook, List.map_cons, List.cons_append, Tally.loop_cons, honest]

theorem run_outlook {paths : List Path} (run : Relation.ReflTransGen (Step workers work) (start paths) s) :
    s.Honest work ∧ s.outlook work = Tally.loop work {} paths := by
  induction run with
  | refl => exact ⟨honest_start paths, by simp [outlook, start]⟩
  | tail _ step ih => exact ⟨step.honest ih.1, (step.outlook_eq ih.1).trans ih.2⟩

theorem tally_of_finished {paths : List Path}
    (run : Relation.ReflTransGen (Step workers work) (start paths) s) (h : s.Finished) :
    s.tally = Tally.loop work {} paths := by
  rw [← (run_outlook run).2, outlook, h.1, h.2]
  rfl

/-! ### Every run can be finished -/

/-- The steps that are left. -/
def left (s : Pool) : Nat := 4 * s.unsent.length + Ticket.lefts s.tickets

theorem Step.left_lt (step : Step workers work s t) : t.left < s.left := by
  cases step
  all_goals
    simp only [left, Ticket.lefts_append, Ticket.lefts, Ticket.left, List.length_cons, List.length_nil]
    omega

/-- A running file can finish, and where none runs a worker is free. -/
theorem exists_step (work : Path → FileReport) (hw : 0 < workers) (h : ¬ s.Finished) : ∃ t, Step workers work s t := by
  obtain ⟨unsent, tickets, tally⟩ := s
  cases unsent with
  | cons p unsent => exact ⟨_, .submit p unsent tickets tally⟩
  | nil =>
    cases tickets with
    | nil => exact absurd ⟨rfl, rfl⟩ h
    | cons u tickets =>
      obtain ⟨p, stage⟩ := u
      cases stage with
      | done report => exact ⟨_, .yield p report tickets tally⟩
      | running => exact ⟨_, .finish [] [] p tickets tally⟩
      | waiting =>
        by_cases busy : tickets.countP Ticket.isRunning = 0
        · exact ⟨_, .start [] [] p tickets tally (by simpa [busy] using hw)⟩
        · obtain ⟨⟨q, stage⟩, hq, running⟩ := List.countP_pos_iff.mp (Nat.pos_of_ne_zero busy)
          obtain ⟨as, bs, rfl⟩ := List.append_of_mem hq
          cases stage with
          | running => exact ⟨_, .finish [] (⟨p, .waiting⟩ :: as) q bs tally⟩
          | waiting => simp [Ticket.isRunning] at running
          | done report => simp [Ticket.isRunning] at running

theorem exists_finished (work : Path → FileReport) (hw : 0 < workers) (s : Pool) :
    ∃ t, Relation.ReflTransGen (Step workers work) s t ∧ t.Finished := by
  by_cases h : s.Finished
  · exact ⟨s, .refl, h⟩
  · obtain ⟨t, step⟩ := exists_step work hw h
    obtain ⟨u, run, finished⟩ := exists_finished work hw t
    exact ⟨u, .head step run, finished⟩
termination_by s.left
decreasing_by exact step.left_lt

end Runs

end Pool

namespace Reviewer

/-- The results of the finished runs of a scan with so many jobs: up to one job is the loop, more are
the workers of a pool. -/
inductive Finishes (r : Reviewer) (disk : Entry) (jobs : Int) : ScanResult → Prop
  | alone {paths : List Path} (few : jobs ≤ 1) (found : r.files? disk = some paths) :
      Finishes r disk jobs (Tally.loop (r.file disk) {} paths).result
  | pooled {paths : List Path} {s : Pool} (several : 1 < jobs) (found : r.files? disk = some paths)
      (run : Relation.ReflTransGen (Pool.Step jobs.toNat (r.file disk)) (.start paths) s)
      (finished : s.Finished) :
      Finishes r disk jobs s.tally.result

theorem finishes_iff_loop {r : Reviewer} {disk : Entry} {jobs : Int} {result : ScanResult} :
    r.Finishes disk jobs result ↔
      ∃ paths, r.files? disk = some paths ∧ result = (Tally.loop (r.file disk) {} paths).result := by
  constructor
  · rintro (⟨_, found⟩ | ⟨_, found, run, finished⟩)
    · exact ⟨_, found, rfl⟩
    · exact ⟨_, found, by rw [Pool.tally_of_finished run finished]⟩
  · rintro ⟨paths, found, rfl⟩
    by_cases several : 1 < jobs
    · have hw : 0 < jobs.toNat := by omega
      obtain ⟨s, run, finished⟩ := Pool.exists_finished (r.file disk) hw (.start paths)
      rw [← Pool.tally_of_finished run finished]
      exact .pooled several found run finished
    · exact .alone (Int.not_lt.mp several) found

theorem finishes_iff_scan? {r : Reviewer} {disk : Entry} {jobs : Int} {result : ScanResult} (several : Bool) :
    r.Finishes disk jobs result ↔ r.scan? disk several = some result := by
  simp only [finishes_iff_loop, Tally.result_loop, scan?, reports_eq_map, Option.map_eq_some_iff,
    eq_comm (a := result)]

end Reviewer

namespace Session

def withJobs (s : Session) (jobs : Int) : Session :=
  { s with assigned := { s.assigned with jobs := .int jobs } }

theorem scan_withJobs (s : Session) (jobs : Int) (result : ScanResult) :
    (s.withJobs jobs).scan = .ok (.scanned result) ↔
      s.reviewer.scan? s.disk (1 < jobs) = some result := by
  simp only [scan, withJobs, Assigned.severalJobs]
  cases s.reviewer.scan? s.disk (1 < jobs) <;> simp

/-- Whatever number of jobs is assigned, and in whatever order files are started and finished, a
finished scan has the issues, the failures and the count of the scan with one job; and it is what the
session answers. -/
theorem finishes_withJobs (s : Session) (jobs : Int) (result : ScanResult) :
    (s.reviewer.Finishes s.disk jobs result ↔ s.reviewer.Finishes s.disk 1 result) ∧
      (s.reviewer.Finishes s.disk jobs result ↔ (s.withJobs jobs).scan = .ok (.scanned result)) := by
  constructor
  · rw [Reviewer.finishes_iff_loop, Reviewer.finishes_iff_loop]
  · rw [scan_withJobs, Reviewer.finishes_iff_scan? (1 < jobs)]

end Session

end LogReview
