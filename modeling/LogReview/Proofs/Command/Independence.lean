import LogReview.Proofs.Command.Essentials
import LogReview.Proofs.Terminal.Message

/-! What the number of jobs and verbosity have a say in. Command lines that differ in these options only end with the
same exit code and print the same report; verbosity adds messages about what was skipped, and the number of jobs
nothing. -/
namespace LogReview

/-- Several jobs find what one does. -/
theorem Reviewer.scan?_several (r : Reviewer) (disk : Entry) (several : Bool) :
    r.scan? disk several = r.scan? disk false := by
  simp only [scan?, reports_eq_map]

namespace Command

namespace Request

/-- A request without the number of jobs and verbosity. -/
def plain : Request → Request
  | help => help
  | scan o => scan { o with jobs := none, verbose := false }

/-- The number of jobs has no part in a request but its own. -/
theorem ofArguments?_cases {a : Arguments} {request : Request} (h : ofArguments? a = some request) :
    a.help ∧ request = help ∨ a.help = false ∧ ∃ (project : Option String) (jobs : Option Int),
      a.operands = project.toList ∧
        request = scan ⟨project.map Path.ofText, a.config.map Path.ofText, jobs, a.verbose⟩ := by
  cases helps : a.help with
  | true =>
    rw [ofArguments?, if_pos helps] at h
    exact .inl ⟨rfl, (Option.some.inj h).symm⟩
  | false =>
    rw [ofArguments?, if_neg (by simp [helps])] at h
    refine .inr ⟨rfl, ?_⟩
    dsimp only at h
    split at h
    · rename_i jobs _ operands
      exact ⟨none, jobs, operands, (Option.some.inj h).symm⟩
    · rename_i jobs p _ operands
      exact ⟨some p, jobs, operands, (Option.some.inj h).symm⟩
    · cases h

theorem ofArguments?_plain {a : Arguments} {request : Request} (h : ofArguments? a = some request) :
    ofArguments? { a with jobs := none, verbose := false } = some request.plain := by
  rcases ofArguments?_cases h with ⟨helps, rfl⟩ | ⟨helps, project, jobs, operands, rfl⟩
  · simp [ofArguments?, helps, plain]
  · cases project <;> simp_all [ofArguments?, plain]

theorem verbose_of_ofArguments? {a : Arguments} {o : Options} (h : ofArguments? a = some (.scan o)) :
    o.verbose = a.verbose := by
  rcases ofArguments?_cases h with ⟨_, asked⟩ | ⟨_, project, jobs, _, asked⟩
  · cases asked
  · cases asked
    rfl

theorem read?_distill {args : List String} {request : Request} (h : read? args = some request) :
    read? (distill args).1 = some request.plain ∧ ∀ o, request = .scan o → o.verbose = (distill args).2 := by
  obtain ⟨a, arguments, asked⟩ := Option.bind_eq_some_iff.mp h
  obtain ⟨plain, verbose⟩ := Arguments.read?_distill arguments
  refine ⟨?_, ?_⟩
  · rw [read?, plain]
    exact ofArguments?_plain asked
  · rintro o rfl
    rw [verbose_of_ofArguments? asked, verbose]

end Request

namespace Outcome

/-- The outcome if the command had not been told to be verbose. -/
def quiet : Outcome → Outcome
  | scanned result _ => scanned result false
  | outcome => outcome

@[simp] theorem exitCode_quiet (outcome : Outcome) : outcome.quiet.exitCode = outcome.exitCode := by
  cases outcome <;> rfl

@[simp] theorem report_quiet (cwd : List String) (outcome : Outcome) :
    outcome.quiet.report cwd = outcome.report cwd := by
  cases outcome <;> rfl

theorem skipped_begins (f : Failure) : "⚠ Skipped ".toList <+: (skipped f).toList := by
  have ordinary : "Skipped ".toList.all Terminal.isOrdinary := by decide
  have signed : "⚠ Skipped ".toList = '⚠' :: ' ' :: "Skipped ".toList := by decide
  rw [signed]
  refine Terminal.message_begins (by decide) (List.all_eq_true.mp ordinary) ?_
  simp only [String.toList_append, List.append_assoc]
  exact List.prefix_append _ _

/-- The count at the end has no sign that is shown otherwise. -/
theorem message_count (files failed : Nat) :
    Terminal.message 'ℹ' s!"{files} file(s) scanned, {failed} skipped" =
      s!"ℹ {files} file(s) scanned, {failed} skipped" := by
  have digits (n : Nat) : ∀ c ∈ (toString n).toList, Terminal.isOrdinary c := by
    intro c hc
    have digit : c ∈ Nat.toDigits 10 n := by rwa [← Nat.toList_repr]
    exact Terminal.isOrdinary_of_isDigit (Nat.isDigit_of_mem_toDigits (by decide) (by decide) digit)
  have scanned : " file(s) scanned, ".toList.all Terminal.isOrdinary := by decide
  have skipped : " skipped".toList.all Terminal.isOrdinary := by decide
  have signed : "ℹ ".toList = ['ℹ', ' '] := by decide
  rw [Terminal.message_of_ordinary (by decide)]
  · rw [← String.toList_inj, String.toList_ofList]
    simp only [String.toList_append, List.append_assoc]
    exact congrArg (· ++ _) signed.symm
  · simp only [String.toList_append, List.forall_mem_append]
    exact ⟨⟨⟨digits files, List.all_eq_true.mp scanned⟩, digits failed⟩, List.all_eq_true.mp skipped⟩

theorem messages_scanned (result : ScanResult) (verbose : Bool) :
    (scanned result verbose).messages =
      if verbose then
        result.failures.map skipped ++
          [s!"ℹ {result.filesScanned} file(s) scanned, {result.failures.length} skipped"]
      else [] := by
  simp only [messages, message_count]

end Outcome

section Scan
variable (disk : Entry) (cwd : List String)

theorem quiet_scan (o : Options) :
    (scan disk cwd o).quiet = scan disk cwd { o with jobs := none, verbose := false } := by
  unfold scan
  cases o.project with
  | none => rfl
  | some project =>
    dsimp only
    split
    · cases Configuration.load disk.file? (o.config.map (·.place cwd)) (project.place cwd) with
      | error fault => cases told : foreseen fault <;> simp [told, Outcome.quiet]
      | ok settings =>
        simp only [Reviewer.scan?_several]
        cases (Reviewer.ofSettings (project.place cwd) settings).scan? disk false <;> rfl
    · rfl

theorem verbose_of_scan {o : Options} {result : ScanResult} {verbose : Bool}
    (h : scan disk cwd o = .scanned result verbose) : verbose = o.verbose := by
  unfold scan at h
  split at h
  · cases h
  · dsimp only at h
    split at h
    · split at h
      · split at h <;> cases h
      · split at h <;> cases h
        rfl
    · cases h

theorem verbose_of_run {args : List String} {result : ScanResult} {verbose : Bool}
    (h : run disk cwd args = .scanned result verbose) : verbose = (distill args).2 := by
  rw [run] at h
  split at h
  · cases h
  · cases h
  · rename_i o read
    rw [verbose_of_scan disk cwd h, (Request.read?_distill read).2 o rfl]

/-- The run of a command line is that of what is left of it, but for the messages. -/
theorem quiet_run {args : List String} (wellFormed : (Request.read? args).isSome) :
    (run disk cwd args).quiet = run disk cwd (distill args).1 := by
  obtain ⟨request, read⟩ := Option.isSome_iff_exists.mp wellFormed
  rw [run, run, read, (Request.read?_distill read).1]
  cases request with
  | help => rfl
  | scan o => exact quiet_scan disk cwd o

/-- Command lines with the same essentials end with the same exit code and print the same report. A scan tells what it
skipped and how many files there were exactly if it is asked to be verbose. -/
theorem report_run_of_distill_eq {args args' : List String} (wellFormed : (Request.read? args).isSome)
    (wellFormed' : (Request.read? args').isSome) (same : (distill args).1 = (distill args').1) :
    (run disk cwd args).exitCode = (run disk cwd args').exitCode ∧
      (run disk cwd args).report cwd = (run disk cwd args').report cwd ∧
      ∀ result verbose, run disk cwd args = .scanned result verbose →
        (run disk cwd args).messages =
          (if (distill args).2 then
            result.failures.map Outcome.skipped ++
              [s!"ℹ {result.filesScanned} file(s) scanned, {result.failures.length} skipped"]
          else []) ∧
        ∀ f ∈ result.failures, "⚠ Skipped ".toList <+: (Outcome.skipped f).toList := by
  have quiet : (run disk cwd args).quiet = (run disk cwd args').quiet := by
    rw [quiet_run disk cwd wellFormed, quiet_run disk cwd wellFormed', same]
  refine ⟨?_, ?_, fun result verbose scanned => ⟨?_, fun f _ => Outcome.skipped_begins f⟩⟩
  · rw [← Outcome.exitCode_quiet, quiet, Outcome.exitCode_quiet]
  · rw [← Outcome.report_quiet, quiet, Outcome.report_quiet]
  · rw [scanned, Outcome.messages_scanned, verbose_of_run disk cwd scanned]

end Scan

/-- A project with a file that is no program. -/
def brokenProject : Entry := .directory "" [.directory "p" [.file "A.java" (.ok "\x7d".toUTF8)]]

theorem report_run_brokenProject :
    (Request.read? ["-vj2", "/p"]).isSome ∧ (Request.read? ["/p", "--jobs", "3"]).isSome ∧
      (distill ["-vj2", "/p"]).1 = (distill ["/p", "--jobs", "3"]).1 ∧
      (run brokenProject [] ["-vj2", "/p"]).exitCode = (run brokenProject [] ["/p", "--jobs", "3"]).exitCode ∧
      (run brokenProject [] ["-vj2", "/p"]).report [] = (run brokenProject [] ["/p", "--jobs", "3"]).report [] ∧
      (∃ result, run brokenProject [] ["-vj2", "/p"] = .scanned result true ∧
        (run brokenProject [] ["-vj2", "/p"]).messages = result.failures.map Outcome.skipped ++
          [s!"ℹ {result.filesScanned} file(s) scanned, {result.failures.length} skipped"]) ∧
      (run brokenProject [] ["-vj2", "/p"]).messages =
        ["⚠ Skipped /p/A.java: syntax error near line 1", "ℹ 1 file(s) scanned, 1 skipped"] := by
  have asked : (Request.read? ["-vj2", "/p"]).isSome := by decide +kernel
  have asked' : (Request.read? ["/p", "--jobs", "3"]).isSome := by decide +kernel
  have same : (distill ["-vj2", "/p"]).1 = (distill ["/p", "--jobs", "3"]).1 := by decide +kernel
  have verbose : (distill ["-vj2", "/p"]).2 = true := by decide +kernel
  obtain ⟨exits, prints, tells⟩ := report_run_of_distill_eq brokenProject [] asked asked' same
  refine ⟨asked, asked', same, exits, prints, ?_, by decide +kernel⟩
  have printed : (run brokenProject [] ["-vj2", "/p"]).report [] ≠ [] := by decide +kernel
  cases ended : run brokenProject [] ["-vj2", "/p"] with
  | scanned result told =>
    have told_eq := verbose_of_run brokenProject [] ended
    rw [verbose] at told_eq
    subst told_eq
    have told := (tells result true ended).1
    rw [verbose, if_pos rfl, ended] at told
    exact ⟨result, rfl, told⟩
  | _ =>
    rw [ended] at printed
    exact absurd rfl printed

end Command
end LogReview
