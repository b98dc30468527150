import LogReview.Command
import LogReview.Proofs.Project.Pattern
import LogReview.Proofs.Terminal.Message

/-! How the command ends. A configuration that may not be read, that is no text, whose scalars or keys or whole value are of
the wrong sort, or that asks for an extension without a pattern ends it without a word; with any other it prints its
report, or says that the configuration is invalid. -/
namespace LogReview

namespace Configuration

/-- What reading the configuration in effect gives. -/
def inEffect? (files : Files) (place : Option (List String)) (dir : List String) : Option (Except Obstacle Source) :=
  match place with
  | some p => files p
  | none => (find? files dir).bind files

/-- What the text of a configuration holds. -/
def value? (content : Source) : Option (Except Yaml.Fault Value) :=
  (String.fromUTF8? content).map fun text => Yaml.load (lineFeeds text.toList)

/-- Ways for a configuration to be wrong of which the command knows nothing. -/
inductive Unforeseen : Except Obstacle Source → Prop where
  | unreadable {o : Obstacle} (other : o ≠ .missing) : Unforeseen (.error o)
  | notText {content : Source} (h : String.fromUTF8? content = none) : Unforeseen (.ok content)
  | noValue {content : Source} {fault : Yaml.Fault} (h : value? content = some (.error fault))
      (other : fault ≠ .malformed) : Unforeseen (.ok content)
  | notMapping {content : Source} {v : Value} (h : value? content = some (.ok v)) (full : v.isVoid = false)
      (other : v.shape ≠ .map) : Unforeseen (.ok content)
  | otherKey {content : Source} {entries : List (Value × Value)} (h : value? content = some (.ok (.map entries)))
      {key v : Value} (entry : (key, v) ∈ entries) (other : key.shape ≠ .text) : Unforeseen (.ok content)
  | unsearchable {content : Source} {settings : Settings} (h : ofSource content = .ok settings) {extension : String}
      (asked : extension ∈ settings.extensions) (refused : Discovery.Unsearchable extension) : Unforeseen (.ok content)

/-- The place of the configuration in effect, with what is read there. -/
theorem exists_load_eq_ofFile {files : Files} {place : Option (List String)} {dir : List String}
    {content : Except Obstacle Source} (h : inEffect? files place dir = some content) :
    ∃ p, files p = some content ∧ load files place dir = ofFile files p := by
  cases place with
  | some p => exact ⟨p, h, rfl⟩
  | none =>
    obtain ⟨p, found, there⟩ := Option.bind_eq_some_iff.mp h
    exact ⟨p, there, by rw [load, near, found]⟩

theorem load_of_inEffect? {files : Files} {place : Option (List String)} {dir : List String} {content : Source}
    (h : inEffect? files place dir = some (.ok content)) : load files place dir = ofSource content := by
  obtain ⟨p, there, eq⟩ := exists_load_eq_ofFile h
  rw [eq, ofFile, there]

theorem load_of_inEffect?_error {files : Files} {place : Option (List String)} {dir : List String} {o : Obstacle}
    (h : inEffect? files place dir = some (.error o)) : ∃ p, load files place dir = .error (.unreadable o p) := by
  obtain ⟨p, there, eq⟩ := exists_load_eq_ofFile h
  exact ⟨p, by rw [eq, ofFile, there]⟩

/-- Without a configuration the settings are the usual ones, unless one was asked for. -/
theorem load_of_inEffect?_eq_none {files : Files} {place : Option (List String)} {dir : List String}
    (h : inEffect? files place dir = none) :
    load files place dir = .ok {} ∨ ∃ p, load files place dir = .error (.missing p) := by
  cases place with
  | some p =>
    rw [inEffect?] at h
    exact .inr ⟨p, by rw [load, ofFile, h]⟩
  | none =>
    cases found : find? files dir with
    | none => exact .inl (by rw [load, near, found]; rfl)
    | some p =>
      rw [inEffect?, found, Option.bind_some] at h
      exact .inr ⟨p, by simp only [load, near, found, ofFile, h]⟩

theorem isText_iff {v : Value} : Settings.isText v ↔ v.shape = .text := by
  cases v <;> simp [Settings.isText, Value.shape]

/-- An empty value asks for nothing. -/
theorem settingsOf_of_isVoid {v : Value} (h : v.isVoid) : settingsOf v = .ok {} := by
  rw [settingsOf, if_pos h]
  rfl

theorem settingsOf_map (entries : List (Value × Value)) :
    (∃ e ∈ entries, e.1.shape ≠ .text) ∧ settingsOf (.map entries) = .error (.refused .otherKey) ∨
    (∀ e ∈ entries, e.1.shape = .text) ∧ ((∃ settings, settingsOf (.map entries) = .ok settings) ∨
      ∃ problems, settingsOf (.map entries) = .error (.refused (.invalid problems))) := by
  have plain : (if (Value.map entries).isVoid then Value.map [] else .map entries) = .map entries := by
    cases entries <;> rfl
  rw [settingsOf, plain, Settings.ofValue]
  by_cases texts : ∀ e ∈ entries, e.1.shape = .text
  · have all : entries.all (fun e => Settings.isText e.1) := by simpa [isText_iff] using texts
    rw [all]
    refine .inr ⟨texts, ?_⟩
    cases Settings.read entries with
    | ok settings => exact .inl ⟨settings, rfl⟩
    | error problems => exact .inr ⟨problems, rfl⟩
  · have some : (!entries.all fun e => Settings.isText e.1) = true := by
      simpa [isText_iff] using texts
    rw [some]
    exact .inl ⟨by simpa using texts, rfl⟩

theorem settingsOf_of_shape_ne {v : Value} (full : v.isVoid = false) (other : v.shape ≠ .map) :
    settingsOf v = .error (.refused (.notMapping v.shape)) := by
  rw [settingsOf, full]
  cases v with
  | map => exact absurd rfl other
  | _ => rfl

/-- A value is refused as a whole if it is full and no mapping, or a mapping with a key that is no text. -/
theorem exists_unforeseen_settingsOf_iff {v : Value} :
    (∃ fault, settingsOf v = .error fault ∧ Command.foreseen fault = false) ↔
      v.isVoid = false ∧ v.shape ≠ .map ∨ ∃ entries, v = .map entries ∧ ∃ e ∈ entries, e.1.shape ≠ .text := by
  by_cases mapping : v.shape = .map
  · obtain ⟨entries, rfl⟩ : ∃ entries, v = .map entries := by
      cases v with
      | map entries => exact ⟨entries, rfl⟩
      | _ => cases mapping
    rcases settingsOf_map entries with ⟨other, eq⟩ | ⟨texts, eq⟩
    · exact iff_of_true ⟨_, eq, rfl⟩ (.inr ⟨entries, rfl, other⟩)
    · refine iff_of_false ?_ ?_
      · rintro ⟨fault, eq', unforeseen⟩
        rcases eq with ⟨settings, eq⟩ | ⟨problems, eq⟩
        · cases eq.symm.trans eq'
        · cases eq.symm.trans eq'
          cases unforeseen
      · rintro (⟨_, other⟩ | ⟨_, same, e, he, other⟩)
        · exact other rfl
        · cases same
          exact other (texts e he)
  · cases full : v.isVoid with
    | false => exact iff_of_true ⟨_, settingsOf_of_shape_ne full mapping, rfl⟩ (.inl ⟨rfl, mapping⟩)
    | true =>
      refine iff_of_false (by simp [settingsOf_of_isVoid full]) ?_
      rintro (⟨void, _⟩ | ⟨_, rfl, _⟩)
      · cases void
      · exact mapping rfl

theorem ofSource_of_value?_ok {content : Source} {v : Value} (h : value? content = some (.ok v)) :
    ofSource content = settingsOf v := by
  obtain ⟨text, decoded, loaded⟩ := Option.map_eq_some_iff.mp h
  simp only [ofSource, decoded, loaded]

theorem ofSource_of_value?_error {content : Source} {fault : Yaml.Fault} (h : value? content = some (.error fault)) :
    ofSource content = .error (.document fault) := by
  obtain ⟨text, decoded, loaded⟩ := Option.map_eq_some_iff.mp h
  simp only [ofSource, decoded, loaded]

/-- What the command makes of a configuration that is wrong in one of those ways. -/
theorem unforeseen_iff {content : Source} :
    Unforeseen (.ok content) ↔ (∃ fault, ofSource content = .error fault ∧ Command.foreseen fault = false) ∨
      ∃ settings, ofSource content = .ok settings ∧
        ∃ extension ∈ settings.extensions, Discovery.Unsearchable extension := by
  constructor
  · intro unforeseen
    cases unforeseen with
    | notText h => exact .inl ⟨.notText, by rw [ofSource, h], rfl⟩
    | @noValue _ fault h other =>
      refine .inl ⟨_, ofSource_of_value?_error h, ?_⟩
      cases fault with
      | malformed => exact absurd rfl other
      | _ => rfl
    | notMapping h full other =>
      rw [ofSource_of_value?_ok h]
      exact .inl (exists_unforeseen_settingsOf_iff.mpr (.inl ⟨full, other⟩))
    | otherKey h entry other =>
      rw [ofSource_of_value?_ok h]
      exact .inl (exists_unforeseen_settingsOf_iff.mpr (.inr ⟨_, rfl, _, entry, other⟩))
    | unsearchable h asked refused => exact .inr ⟨_, h, _, asked, refused⟩
  · rintro (⟨fault, h, unforeseen⟩ | ⟨settings, h, extension, asked, refused⟩)
    · match held : value? content with
      | none => exact .notText (Option.map_eq_none_iff.mp held)
      | some (.error problem) =>
        refine .noValue held ?_
        rintro rfl
        rw [ofSource_of_value?_error held] at h
        cases h
        cases unforeseen
      | some (.ok v) =>
        rw [ofSource_of_value?_ok held] at h
        rcases exists_unforeseen_settingsOf_iff.mp ⟨fault, h, unforeseen⟩ with
          ⟨full, other⟩ | ⟨entries, rfl, ⟨key, value⟩, entry, other⟩
        · exact .notMapping held full other
        · exact .otherKey held entry other
    · exact .unsearchable h asked refused

theorem unforeseen_error_iff {o : Obstacle} : Unforeseen (.error o) ↔ o ≠ .missing :=
  ⟨fun | .unreadable other => other, .unreadable⟩

end Configuration

namespace Command

namespace Outcome

def isCrash : Outcome → Bool
  | crashed _ => true
  | _ => false

/-- The report is printed. -/
def Reports (cwd : List String) (outcome : Outcome) : Prop :=
  outcome.exitCode = 0 ∧ ∃ result verbose, outcome = .scanned result verbose ∧
    outcome.report cwd = (Report.lines cwd result.issues).map Terminal.plain

/-- Nothing is printed but that the configuration is invalid. -/
def Declines (cwd : List String) (outcome : Outcome) : Prop :=
  outcome.exitCode = 1 ∧ outcome.report cwd = [] ∧
    ∃ message, outcome.messages = [message] ∧ "✖ Invalid configuration".toList <+: message.toList

theorem configurationText_begins (fault : Configuration.Fault) :
    "Invalid configuration".toList <+: (configurationText fault).toList := by
  unfold configurationText
  split
  · have own : "Invalid configuration".toList <+: "Invalid configuration: Config file not found: ".toList := by decide
    rw [String.toList_append]
    exact own.trans (List.prefix_append _ _)
  · have own : "Invalid configuration".toList <+: "Invalid configuration: ".toList := by decide
    simp only [String.toList_append, List.append_assoc]
    exact own.trans (List.prefix_append _ _)
  · exact List.prefix_rfl

theorem declines_misconfigured (cwd : List String) (fault : Configuration.Fault) :
    (misconfigured fault).Declines cwd := by
  have ordinary : "Invalid configuration".toList.all Terminal.isOrdinary := by decide
  have signed : "✖ Invalid configuration".toList = '✖' :: ' ' :: "Invalid configuration".toList := by decide
  refine ⟨rfl, rfl, _, rfl, ?_⟩
  rw [signed]
  exact Terminal.message_begins (by decide) (List.all_eq_true.mp ordinary) (configurationText_begins fault)

theorem not_isCrash_of_ends {cwd : List String} {outcome : Outcome}
    (h : outcome.Reports cwd ∨ outcome.Declines cwd) : outcome.isCrash = false := by
  rcases h with ⟨_, result, verbose, rfl, _⟩ | ⟨_, _, message, told, _⟩
  · rfl
  · cases outcome with
    | crashed => cases told
    | _ => rfl

end Outcome

section Scan
variable {disk : Entry} {cwd : List String} {o : Options} {project : Path}
  (given : o.project = some project) (isDirectory : disk.hasDirectory (partsFrom cwd project))
include given isDirectory

theorem scan_of_load_error {fault : Configuration.Fault}
    (h : Configuration.load disk.file? (o.config.map (·.place cwd)) (project.place cwd) = .error fault) :
    scan disk cwd o = if foreseen fault then .misconfigured fault else .crashed (.configuration fault) := by
  simp only [scan, given, isDirectory, if_true, h]

theorem scan_of_load_ok {settings : Settings}
    (h : Configuration.load disk.file? (o.config.map (·.place cwd)) (project.place cwd) = .ok settings) :
    (∃ extension ∈ settings.extensions, Discovery.Unsearchable extension) ∧ scan disk cwd o = .crashed .pattern ∨
    (¬∃ extension ∈ settings.extensions, Discovery.Unsearchable extension) ∧
      ∃ result, scan disk cwd o = .scanned result o.verbose := by
  simp only [scan, given, isDirectory, if_true, h]
  rw [← @Reviewer.scan?_eq_none_iff (project.place cwd) settings disk (1 < o.jobs.getD settings.jobs)]
  split
  · next result scanned => exact .inr ⟨by simp [scanned], result, rfl⟩
  · next refused => exact .inl ⟨refused, rfl⟩

theorem scan_cases :
    let content := Configuration.inEffect? disk.file? (o.config.map (·.place cwd)) (project.place cwd)
    (∃ c, content = some c ∧ Configuration.Unforeseen c) ∧ (scan disk cwd o).isCrash ∨
      (¬∃ c, content = some c ∧ Configuration.Unforeseen c) ∧
        ((scan disk cwd o).Reports cwd ∨ (scan disk cwd o).Declines cwd) := by
  intro content
  have reports {result : ScanResult} (eq : scan disk cwd o = .scanned result o.verbose) :
      (scan disk cwd o).Reports cwd := by
    rw [eq]
    exact ⟨rfl, result, o.verbose, rfl, rfl⟩
  have declines {fault : Configuration.Fault} (told : foreseen fault)
      (h : Configuration.load disk.file? (o.config.map (·.place cwd)) (project.place cwd) = .error fault) :
      (scan disk cwd o).Declines cwd := by
    rw [scan_of_load_error given isDirectory h, if_pos told]
    exact Outcome.declines_misconfigured cwd fault
  match found : content with
  | none =>
    -- The usual settings can be searched for, and a file that is missing is told.
    refine .inr ⟨by simp, ?_⟩
    rcases Configuration.load_of_inEffect?_eq_none found with usual | ⟨place, missing⟩
    · rcases scan_of_load_ok given isDirectory usual with ⟨unsearchable, _⟩ | ⟨_, result, eq⟩
      · exact absurd unsearchable (by decide)
      · exact .inl (reports eq)
    · exact .inr (declines rfl missing)
  | some (.error o) =>
    obtain ⟨place, load⟩ := Configuration.load_of_inEffect?_error found
    simp only [Option.some.injEq, exists_eq_left', Configuration.unforeseen_error_iff, ne_eq, not_not]
    by_cases gone : o = .missing
    · exact .inr ⟨gone, .inr (declines (by rw [gone]; rfl) load)⟩
    · refine .inl ⟨gone, ?_⟩
      simp [scan_of_load_error given isDirectory load, foreseen, gone, Outcome.isCrash]
  | some (.ok c) =>
    have load := Configuration.load_of_inEffect? found
    simp only [Option.some.injEq, exists_eq_left', Configuration.unforeseen_iff]
    cases read : Configuration.ofSource c with
    | error fault =>
      rw [read] at load
      cases told : foreseen fault with
      | true => exact .inr ⟨by simp [told], .inr (declines told load)⟩
      | false =>
        refine .inl ⟨by simp [told], ?_⟩
        simp [scan_of_load_error given isDirectory load, told, Outcome.isCrash]
    | ok settings =>
      rw [read] at load
      rcases scan_of_load_ok given isDirectory load with ⟨unsearchable, eq⟩ | ⟨searchable, result, eq⟩
      · exact .inl ⟨by simpa using unsearchable, by rw [eq]; rfl⟩
      · exact .inr ⟨by simpa using searchable, .inl (reports eq)⟩

end Scan

/-- On a directory that exists the command prints its report, or says that the configuration is invalid, exactly if the
configuration in effect is not wrong in an unforeseen way; otherwise it crashes. -/
theorem run_isCrash_iff {disk : Entry} {cwd args : List String} {o : Options} {project : Path}
    (asked : Request.read? args = some (.scan o)) (given : o.project = some project)
    (isDirectory : disk.hasDirectory (partsFrom cwd project)) :
    let content := Configuration.inEffect? disk.file? (o.config.map (·.place cwd)) (project.place cwd)
    ((run disk cwd args).isCrash ↔ ∃ c, content = some c ∧ Configuration.Unforeseen c) ∧
      ((run disk cwd args).Reports cwd ∨ (run disk cwd args).Declines cwd ↔
        ∀ c, content = some c → ¬Configuration.Unforeseen c) := by
  intro content
  have scans : run disk cwd args = scan disk cwd o := by rw [run, asked]
  have untold : (∀ c, content = some c → ¬Configuration.Unforeseen c) ↔
      ¬∃ c, content = some c ∧ Configuration.Unforeseen c := by simp
  rw [scans, untold]
  rcases scan_cases given isDirectory with ⟨unforeseen, crash⟩ | ⟨foreseen, ends⟩
  · refine ⟨iff_of_true crash unforeseen, iff_of_false ?_ (not_not.mpr unforeseen)⟩
    intro ends
    rw [Outcome.not_isCrash_of_ends ends] at crash
    cases crash
  · refine ⟨iff_of_false ?_ foreseen, iff_of_true ends foreseen⟩
    rw [Outcome.not_isCrash_of_ends ends]
    exact Bool.false_ne_true

/-- A project with a configuration. -/
def configured (content : Source) : Entry := .directory "" [.directory "p" [.file "logaudit.yaml" (.ok content)]]

/-- The byte that begins no character. -/
def noText : Source := ⟨#[0xff]⟩

theorem run_isCrash_noText :
    Request.read? ["/p"] = some (.scan { project := some ⟨.slash, ["p"]⟩ }) ∧
      (configured noText).hasDirectory (partsFrom [] ⟨.slash, ["p"]⟩) ∧ (run (configured noText) [] ["/p"]).isCrash ∧
      ((run (.directory "" [.directory "p" []]) [] ["/p"]).Reports [] ∨
        (run (.directory "" [.directory "p" []]) [] ["/p"]).Declines []) := by
  have asked : Request.read? ["/p"] = some (.scan { project := some ⟨.slash, ["p"]⟩ }) := by decide +kernel
  refine ⟨asked, by decide, ?_, ?_⟩
  · refine (run_isCrash_iff asked rfl (by decide)).1.mpr ⟨.ok noText, ?_, .notText ?_⟩
    · decide +kernel
    · decide +kernel
  · have unconfigured : Configuration.inEffect? (Entry.directory "" [.directory "p" []]).file? none ["p"] = none := by
      decide +kernel
    refine (run_isCrash_iff asked rfl (by decide)).2.mpr fun c found => ?_
    cases unconfigured.symm.trans found

/-- The command crashes on the project and leaves no word. -/
def crashesOn (disk : Entry) : Bool :=
  disk.hasDirectory ["p"] && (run disk [] ["/p"]).isCrash && (run disk [] ["/p"]).report [] == [] &&
    (run disk [] ["/p"]).messages == []

/-- A list, a number for a key, a date that there is not, a byte that is no text, and an extension that makes no
pattern. -/
theorem crashesOn_configured :
    crashesOn (configured "- a".toUTF8) ∧ crashesOn (configured "1: 2".toUTF8) ∧
      crashesOn (configured "a: 2024-13-45".toUTF8) ∧ crashesOn (configured noText) ∧
      crashesOn (configured "scan: \x7bextensions: ['*x']\x7d".toUTF8) := by
  decide +kernel

end Command

end LogReview
