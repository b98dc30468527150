import LogReview.Settings.Basic
import Mathlib.Tactic.Common

/-! Settings field by field. A configuration is accepted if each field that is given would be accepted alone; otherwise
the problems of the fields are told in the order of the fields. What is accepted keeps to the bounds, and reads as the
same settings when it is written back. -/
namespace LogReview

namespace Value

/-- Entries with names for keys. -/
def named (fields : List (String × Value)) : List (Value × Value) := fields.map fun e => (.text e.1, e.2)

def record (fields : List (String × Value)) : Value := .map (named fields)

theorem lookup?_cons (e : Value × Value) (entries : List (Value × Value)) (key : String) :
    lookup? (e :: entries) key = (lookup? entries key).or (lookup? [e] key) := by
  simp only [lookup?, List.reverse_cons, List.find?_append, Option.map_or]
  rfl

theorem lookup?_singleton (name : String) (v : Value) (key : String) :
    lookup? [(.text name, v)] key = if name = key then some v else none := by
  by_cases same : name = key <;> simp [lookup?, same]

theorem lookup?_filter {entries : List (Value × Value)} {key : String} {p : Value × Value → Bool}
    (h : ∀ v, p (.text key, v)) : lookup? (entries.filter p) key = lookup? entries key := by
  rw [lookup?, lookup?, ← List.filter_reverse, List.find?_filter]
  congr 2
  funext e
  obtain ⟨k, v⟩ := e
  cases k with
  | text name =>
    by_cases same : name = key <;> simp [same, h]
  | _ => simp

end Value

namespace Settings
variable {α β γ : Type}

/-! ### What can be set -/

inductive Field where
  | logCalls | messageLength | extensions | jobs
deriving Repr, DecidableEq

/-- The sections of a configuration. -/
inductive Topic where
  | rules | scan
deriving Repr, DecidableEq

namespace Topic

/-- In the order in which they are read. -/
def all : List Topic := [.rules, .scan]

def name : Topic → String
  | rules => "rules"
  | scan => "scan"

/-- What a section is said to be where it is no mapping. -/
def model : Topic → String
  | rules => "RulesConfig"
  | scan => "ScanConfig"

def fields : Topic → List Field
  | rules => [.logCalls, .messageLength]
  | scan => [.extensions, .jobs]

end Topic

namespace Field

def topic : Field → Topic
  | logCalls | messageLength => .rules
  | extensions | jobs => .scan

def name : Field → String
  | logCalls => "excessive_log_threshold"
  | messageLength => "max_message_length"
  | extensions => "extensions"
  | jobs => "jobs"

def place (f : Field) : List Key := [.name f.topic.name, .name f.name]

/-- What is set, as a configuration has it. -/
def get (s : Settings) : Field → Value
  | logCalls => .int s.limits.logCalls
  | messageLength => .int s.limits.messageLength
  | extensions => .list (s.extensions.map .text)
  | jobs => .int s.jobs

/-- A configuration that gives this field only. -/
def alone (f : Field) (v : Value) : List (String × Value) := [(f.topic.name, .record [(f.name, v)])]

/-- What a configuration gives for the field. -/
def given? (raw : List (String × Value)) (f : Field) : Option Value :=
  match Value.lookup? (Value.named raw) f.topic.name with
  | some (.map entries) => Value.lookup? entries f.name
  | _ => none

end Field

def problemsOf : Except Refusal Settings → List Problem
  | .error (.invalid ps) => ps
  | _ => []

/-- The problems that the value of a field has by itself. -/
def Field.problems (f : Field) (v : Value) : List Problem := problemsOf (ofValue (.record (f.alone v)))

/-- The problems of a section, where those of a field are known. A section that is no mapping is a problem of its own, and
none of its fields is looked at. -/
def Topic.problems (told : Field → Value → List Problem) (raw : List (String × Value)) (t : Topic) : List Problem :=
  match Value.lookup? (Value.named raw) t.name with
  | none => []
  | some (.map entries) => t.fields.flatMap fun f => ((Value.lookup? entries f.name).map (told f)).getD []
  | some _ => [⟨[.name t.name], .notMapping t.model⟩]

/-- The problems of all sections in their order. -/
def gathered (told : Field → Value → List Problem) (raw : List (String × Value)) : List Problem :=
  Topic.all.flatMap (Topic.problems told raw)

def WithinBounds (s : Settings) : Prop := 0 ≤ s.limits.logCalls ∧ 0 ≤ s.limits.messageLength ∧ 1 ≤ s.jobs

/-- The settings as a configuration. -/
def written (s : Settings) : List (String × Value) :=
  Topic.all.map fun t => (t.name, .record (t.fields.map fun f => (f.name, f.get s)))

/-! ### Readings -/

/-- The part has the property, or there are problems, at the place or further in. -/
def Sound (place : List Key) (P : α → Prop) : Checked α → Prop
  | .ok x => P x
  | .error ps => ps ≠ [] ∧ ∀ p ∈ ps, place <+: p.place

theorem Sound.outer {place inner : List Key} {P : α → Prop} {a : Checked α} (h : Sound inner P a)
    (inside : place <+: inner) : Sound place P a := by
  cases a with
  | ok x => exact h
  | error ps => exact ⟨h.1, fun p hp => inside.trans (h.2 p hp)⟩

theorem Sound.both {place : List Key} {P : α → Prop} {Q : β → Prop} {R : γ → Prop} {f : α → β → γ} {a : Checked α}
    {b : Checked β} (ha : Sound place P a) (hb : Sound place Q b) (h : ∀ x y, P x → Q y → R (f x y)) :
    Sound place R (both f a b) := by
  cases a with
  | ok x =>
    cases b with
    | ok y => exact h x y ha hb
    | error qs => exact hb
  | error ps =>
    cases b with
    | ok y => exact ha
    | error qs => exact ⟨List.append_ne_nil_of_left_ne_nil ha.1 qs, List.forall_mem_append.mpr ⟨ha.2, hb.2⟩⟩

theorem sound_problem (place : List Key) (P : α → Prop) (cause : Cause) :
    Sound place P (.error (problem place cause)) := by
  refine ⟨List.cons_ne_nil _ _, fun p hp => ?_⟩
  obtain rfl := List.mem_singleton.mp hp
  exact List.prefix_rfl

theorem sound_integerAt (place : List Key) (bound : Int) (v : Value) :
    Sound place (bound ≤ ·) (integerAt place bound v) := by
  unfold integerAt
  split
  · split
    · exact sound_problem place _ _
    · next above => exact Int.not_lt.mp above
  · exact sound_problem place _ _

theorem sound_textAt (place : List Key) (v : Value) : Sound place (fun _ => True) (textAt place v) := by
  unfold textAt
  split
  · trivial
  · split
    · trivial
    · exact sound_problem place _ _
  · exact sound_problem place _ _

theorem sound_textsAt (place : List Key) (i : Nat) (vs : List Value) :
    Sound place (fun _ => True) (textsAt place i vs) := by
  induction vs generalizing i with
  | nil => trivial
  | cons v vs ih =>
    exact ((sound_textAt _ v).outer (List.prefix_append place _)).both (ih (i + 1)) fun _ _ _ _ => trivial

theorem sound_textListAt (place : List Key) (v : Value) : Sound place (fun _ => True) (textListAt place v) := by
  unfold textListAt
  split
  · exact sound_textsAt place 0 _
  · exact sound_textsAt place 0 _
  · exact sound_problem place _ _

theorem sound_fieldAt {P : α → Prop} {default : α} (hd : P default) {read : List Key → Value → Checked α}
    (hr : ∀ place v, Sound place P (read place v)) (place : List Key) (entries : List (Value × Value)) (name : String) :
    Sound place P (fieldAt place entries name default read) := by
  rw [fieldAt]
  cases Value.lookup? entries name with
  | none => exact hd
  | some v => exact (hr _ v).outer (List.prefix_append place _)

theorem sound_sectionAt {P : α → Prop} {read : List Key → List (Value × Value) → Checked α}
    (hr : ∀ place entries, Sound place P (read place entries)) (model : String) (place : List Key) (v : Value) :
    Sound place P (sectionAt model read place v) := by
  unfold sectionAt
  split
  · exact hr place _
  · exact sound_problem place _ _

theorem sound_readLimits (place : List Key) (entries : List (Value × Value)) :
    Sound place (fun l : Limits => 0 ≤ l.logCalls ∧ 0 ≤ l.messageLength) (readLimits place entries) :=
  (sound_fieldAt (by decide) (fun p => sound_integerAt p 0) place entries _).both
    (sound_fieldAt (by decide) (fun p => sound_integerAt p 0) place entries _) fun _ _ => And.intro

theorem sound_readScan (place : List Key) (entries : List (Value × Value)) :
    Sound place (fun p : List String × Int => 1 ≤ p.2) (readScan place entries) :=
  (sound_fieldAt trivial sound_textListAt place entries _).both
    (sound_fieldAt (by decide) (fun p => sound_integerAt p 1) place entries _) fun _ _ _ bound => bound

theorem sound_read (entries : List (Value × Value)) : Sound [] WithinBounds (read entries) :=
  (sound_fieldAt (by decide) (sound_sectionAt sound_readLimits _) [] entries _).both
    (sound_fieldAt (by decide) (sound_sectionAt sound_readScan _) [] entries _)
    fun _ _ limits jobs => ⟨limits.1, limits.2, jobs⟩

/-! ### Problems -/

def problemsIn : Checked α → List Problem
  | .ok _ => []
  | .error ps => ps

theorem problemsIn_both (f : α → β → γ) (a : Checked α) (b : Checked β) :
    problemsIn (both f a b) = problemsIn a ++ problemsIn b := by
  cases a <;> cases b <;> simp [both, problemsIn]

theorem problemsIn_fieldAt (place : List Key) (entries : List (Value × Value)) (name : String) (default : α)
    (read : List Key → Value → Checked α) :
    problemsIn (fieldAt place entries name default read) =
      ((Value.lookup? entries name).map fun v => problemsIn (read (place ++ [.name name]) v)).getD [] := by
  rw [fieldAt]
  cases Value.lookup? entries name <;> rfl

theorem ofValue_record (raw : List (String × Value)) :
    ofValue (.record raw) = (read (Value.named raw)).mapError .invalid := by
  have texts : (Value.named raw).all (fun e => isText e.1) := by simp [Value.named, isText]
  simp only [Value.record, ofValue, texts]
  cases read (Value.named raw) <;> rfl

theorem problemsOf_ofValue_record (raw : List (String × Value)) :
    problemsOf (ofValue (.record raw)) = problemsIn (read (Value.named raw)) := by
  rw [ofValue_record]
  cases read (Value.named raw) <;> rfl

/-- How the value of a field is read. -/
def Field.read : Field → Value → Checked Value
  | .logCalls, v => (integerAt logCalls.place 0 v).map .int
  | .messageLength, v => (integerAt messageLength.place 0 v).map .int
  | .extensions, v => (textListAt extensions.place v).map fun texts => .list (texts.map .text)
  | .jobs, v => (integerAt jobs.place 1 v).map .int

theorem problemsIn_map (f : α → β) (a : Checked α) : problemsIn (a.map f) = problemsIn a := by
  cases a <;> rfl

theorem problemsIn_section (raw : List (String × Value)) (t : Topic) (default : α)
    {read : List Key → List (Value × Value) → Checked α}
    (fields : ∀ entries, problemsIn (read [.name t.name] entries) =
      t.fields.flatMap fun f => ((Value.lookup? entries f.name).map fun v => problemsIn (f.read v)).getD []) :
    problemsIn (fieldAt [] (Value.named raw) t.name default (sectionAt t.model read)) =
      t.problems (fun f v => problemsIn (f.read v)) raw := by
  rw [problemsIn_fieldAt, Topic.problems]
  cases Value.lookup? (Value.named raw) t.name with
  | none => rfl
  | some v =>
    cases v with
    | map entries => exact fields entries
    | _ => rfl

theorem problemsIn_readLimits (entries : List (Value × Value)) :
    problemsIn (readLimits [.name Topic.rules.name] entries) =
      Topic.rules.fields.flatMap fun f => ((Value.lookup? entries f.name).map fun v => problemsIn (f.read v)).getD [] := by
  simp only [readLimits, problemsIn_both, problemsIn_fieldAt, Topic.fields, List.flatMap_cons, List.flatMap_nil,
    List.append_nil, Field.read, problemsIn_map]
  rfl

theorem problemsIn_readScan (entries : List (Value × Value)) :
    problemsIn (readScan [.name Topic.scan.name] entries) =
      Topic.scan.fields.flatMap fun f => ((Value.lookup? entries f.name).map fun v => problemsIn (f.read v)).getD [] := by
  simp only [readScan, problemsIn_both, problemsIn_fieldAt, Topic.fields, List.flatMap_cons, List.flatMap_nil,
    List.append_nil, Field.read, problemsIn_map]
  rfl

theorem problemsIn_read (raw : List (String × Value)) :
    problemsIn (read (Value.named raw)) = gathered (fun f v => problemsIn (f.read v)) raw := by
  rw [read, problemsIn_both, gathered, Topic.all, List.flatMap_cons, List.flatMap_singleton]
  exact congrArg₂ _ (problemsIn_section raw .rules _ problemsIn_readLimits)
    (problemsIn_section raw .scan _ problemsIn_readScan)

theorem gathered_alone (told : Field → Value → List Problem) (f : Field) (v : Value) :
    gathered told (f.alone v) = told f v := by
  cases f <;> simp [gathered, Topic.all, Topic.problems, Topic.name, Topic.fields, Field.alone, Field.topic, Field.name,
    Value.record, Value.named, Value.lookup?_singleton]

theorem Field.problems_eq (f : Field) (v : Value) : f.problems v = problemsIn (f.read v) := by
  rw [Field.problems, problemsOf_ofValue_record, problemsIn_read, gathered_alone]

theorem gathered_problems (raw : List (String × Value)) :
    gathered Field.problems raw = problemsIn (read (Value.named raw)) := by
  rw [problemsIn_read]
  exact congrArg (gathered · raw) (funext₂ Field.problems_eq)

theorem Sound.map {place : List Key} {P : α → Prop} {a : Checked α} (h : Sound place P a) (f : α → β) :
    Sound place (fun _ => True) (a.map f) := by
  cases a with
  | ok x => trivial
  | error ps => exact h

theorem Field.sound_read (f : Field) (v : Value) : Sound f.place (fun _ => True) (f.read v) := by
  cases f with
  | extensions => exact (sound_textListAt _ v).map _
  | _ => exact (sound_integerAt _ _ v).map _

/-- Every problem of a field names the field. -/
theorem Field.place_of_mem_problems {f : Field} {v : Value} {p : Problem} (h : p ∈ f.problems v) : f.place <+: p.place := by
  have sound := f.sound_read v
  rw [Field.problems_eq] at h
  cases read : f.read v with
  | ok x =>
    rw [read] at h
    cases h
  | error ps =>
    rw [read] at h sound
    exact sound.2 p h

/-! ### What is accepted -/

theorem exists_of_both_eq_ok {f : α → β → γ} {a : Checked α} {b : Checked β} {z : γ} (h : both f a b = .ok z) :
    ∃ x y, a = .ok x ∧ b = .ok y ∧ f x y = z := by
  cases a <;> cases b <;> simp_all [both]

/-- A section that is accepted is a mapping, or not there. -/
theorem exists_of_section {raw : List (String × Value)} {t : Topic} {default x : α}
    {read : List Key → List (Value × Value) → Checked α}
    (h : fieldAt [] (Value.named raw) t.name default (sectionAt t.model read) = .ok x) :
    (∃ entries, Value.lookup? (Value.named raw) t.name = some (.map entries) ∧ read [.name t.name] entries = .ok x) ∨
      Value.lookup? (Value.named raw) t.name = none ∧ x = default := by
  rw [fieldAt] at h
  cases found : Value.lookup? (Value.named raw) t.name with
  | none =>
    rw [found] at h
    exact .inr ⟨rfl, (Except.ok.inj h).symm⟩
  | some v =>
    rw [found] at h
    cases v with
    | map entries => exact .inl ⟨entries, rfl, h⟩
    | _ => cases h

/-- The field is as its value is read, or as it is by default. -/
def Field.Taken (f : Field) (s : Settings) : Option Value → Prop
  | some v => f.read v = .ok (f.get s)
  | none => f.get s = f.get {}

theorem taken_of_fieldAt {f : Field} {s : Settings} {entries : List (Value × Value)} {default x : α}
    {read : List Key → Value → Checked α} (h : fieldAt [.name f.topic.name] entries f.name default read = .ok x)
    {write : α → Value} (hr : ∀ v, f.read v = (read f.place v).map write) (hx : f.get s = write x)
    (hd : f.get {} = write default) : f.Taken s (Value.lookup? entries f.name) := by
  rw [fieldAt] at h
  cases found : Value.lookup? entries f.name with
  | some v =>
    simp only [found] at h
    have read_eq : read f.place v = .ok x := h
    rw [Field.Taken, hr, read_eq, hx]
    rfl
  | none =>
    simp only [found, Except.ok.injEq] at h
    rw [Field.Taken, hx, hd, h]

theorem taken_of_read {raw : List (String × Value)} {s : Settings} (accepted : read (Value.named raw) = .ok s)
    (f : Field) : f.Taken s (f.given? raw) := by
  obtain ⟨limits, ⟨extensions, jobs⟩, inRules, inScan, rfl⟩ := exists_of_both_eq_ok accepted
  cases h : f.topic with
  | rules =>
    rcases @exists_of_section _ raw .rules _ _ _ inRules with ⟨entries, found, inRules⟩ | ⟨absent, rfl⟩
    · obtain ⟨x, y, hx, hy, rfl⟩ := exists_of_both_eq_ok inRules
      rw [Field.given?, h, found]
      cases f with
      | logCalls => exact taken_of_fieldAt hx (fun _ => rfl) rfl rfl
      | messageLength => exact taken_of_fieldAt hy (fun _ => rfl) rfl rfl
      | extensions | jobs => cases h
    · rw [Field.given?, h, absent]
      cases f with
      | logCalls | messageLength => rfl
      | extensions | jobs => cases h
  | scan =>
    rcases @exists_of_section _ raw .scan _ _ _ inScan with ⟨entries, found, inScan⟩ | ⟨absent, same⟩
    · obtain ⟨x, y, hx, hy, same⟩ := exists_of_both_eq_ok inScan
      cases same
      rw [Field.given?, h, found]
      cases f with
      | extensions => exact taken_of_fieldAt hx (fun _ => rfl) rfl rfl
      | jobs => exact taken_of_fieldAt hy (fun _ => rfl) rfl rfl
      | logCalls | messageLength => cases h
    · cases same
      rw [Field.given?, h, absent]
      cases f with
      | extensions | jobs => rfl
      | logCalls | messageLength => cases h

theorem given?_alone (f : Field) (v : Value) : f.given? (f.alone v) = some v := by
  cases f <;> rfl

/-- A value that can be read is accepted alone. -/
theorem exists_alone_of_read {f : Field} {v x : Value} (h : f.read v = .ok x) :
    ∃ t, ofValue (.record (f.alone v)) = .ok t ∧ f.get t = x := by
  have none : problemsIn (read (Value.named (f.alone v))) = [] := by
    rw [problemsIn_read, gathered_alone, h]
    rfl
  cases accepted : read (Value.named (f.alone v)) with
  | ok t =>
    have taken := taken_of_read accepted f
    rw [given?_alone, Field.Taken, h] at taken
    exact ⟨t, by rw [ofValue_record, accepted]; rfl, (Except.ok.inj taken).symm⟩
  | error ps =>
    have sound := sound_read (Value.named (f.alone v))
    rw [accepted] at none sound
    exact absurd none sound.1

/-! ### Writing back -/

theorem textsAt_map_text (place : List Key) (i : Nat) (texts : List String) :
    textsAt place i (texts.map .text) = .ok texts := by
  induction texts generalizing i with
  | nil => rfl
  | cons t texts ih => rw [List.map_cons, textsAt, textAt, ih, both]

theorem integerAt_int (place : List Key) {bound n : Int} (h : bound ≤ n) : integerAt place bound (.int n) = .ok n := by
  simp [integerAt, integerOf, Int.not_lt.mpr h]

theorem ofValue_written {s : Settings} (h : s.WithinBounds) : ofValue (.record s.written) = .ok s := by
  obtain ⟨calls, length, jobs⟩ := h
  have limits : readLimits [.name "rules"] (Value.named (Topic.rules.fields.map fun f => (f.name, f.get s))) =
      .ok s.limits := by
    change both Limits.mk (integerAt _ 0 (.int s.limits.logCalls)) (integerAt _ 0 (.int s.limits.messageLength)) = _
    rw [integerAt_int _ calls, integerAt_int _ length, both]
  have scan : readScan [.name "scan"] (Value.named (Topic.scan.fields.map fun f => (f.name, f.get s))) =
      .ok (s.extensions, s.jobs) := by
    change both Prod.mk (textsAt _ 0 (s.extensions.map .text)) (integerAt _ 1 (.int s.jobs)) = _
    rw [textsAt_map_text, integerAt_int _ jobs, both]
  have read_eq : read (Value.named s.written) = .ok s := by
    change both _ (readLimits [.name "rules"] _) (readScan [.name "scan"] _) = _
    rw [limits, scan, both]
  rw [ofValue_record, read_eq]
  rfl

/-! ### Unknown keys -/

/-- The section without the keys that are not among its fields. -/
def Topic.known (t : Topic) : Value → Value
  | .map entries => .map (entries.filter fun e => match e.1 with
    | .text key => t.fields.any (·.name == key)
    | _ => false)
  | v => v

/-- A configuration without its unknown keys. -/
def known (raw : List (String × Value)) : List (String × Value) :=
  raw.filterMap fun e => (Topic.all.find? (·.name == e.1)).map fun t => (e.1, t.known e.2)

theorem find?_name (t : Topic) : Topic.all.find? (·.name == t.name) = some t := by
  cases t <;> rfl

theorem lookup?_known (raw : List (String × Value)) (t : Topic) :
    Value.lookup? (Value.named (known raw)) t.name = (Value.lookup? (Value.named raw) t.name).map t.known := by
  induction raw with
  | nil => rfl
  | cons e raw ih =>
    obtain ⟨name, v⟩ := e
    have plain : Value.named ((name, v) :: raw) = (.text name, v) :: Value.named raw := rfl
    rw [plain, Value.lookup?_cons, Value.lookup?_singleton, Option.map_or, ← ih, known, List.filterMap_cons]
    by_cases same : name = t.name
    · subst same
      simp only [find?_name, Option.map_some, if_pos]
      exact (Value.lookup?_cons _ _ _).trans (by rw [Value.lookup?_singleton, if_pos rfl]; rfl)
    · rw [if_neg same, Option.map_none, Option.or_none]
      cases Topic.all.find? (·.name == name) with
      | none => rfl
      | some other =>
        refine (Value.lookup?_cons _ _ _).trans ?_
        rw [Value.lookup?_singleton, if_neg same, Option.or_none]
        rfl

theorem sectionAt_known {t : Topic} {read : List Key → List (Value × Value) → Checked α}
    (h : ∀ place entries others, (∀ f ∈ t.fields, Value.lookup? others f.name = Value.lookup? entries f.name) →
      read place others = read place entries) (place : List Key) (v : Value) :
    sectionAt t.model read place (t.known v) = sectionAt t.model read place v := by
  cases v with
  | map entries =>
    refine h place entries _ fun f hf => Value.lookup?_filter fun _ => ?_
    exact List.any_eq_true.mpr ⟨f, hf, beq_self_eq_true f.name⟩
  | _ => rfl

theorem fieldAt_known (raw : List (String × Value)) {t : Topic} (default : α)
    {read : List Key → List (Value × Value) → Checked α}
    (h : ∀ place entries others, (∀ f ∈ t.fields, Value.lookup? others f.name = Value.lookup? entries f.name) →
      read place others = read place entries) :
    fieldAt [] (Value.named (known raw)) t.name default (sectionAt t.model read) =
      fieldAt [] (Value.named raw) t.name default (sectionAt t.model read) := by
  rw [fieldAt, fieldAt, lookup?_known]
  cases Value.lookup? (Value.named raw) t.name with
  | none => rfl
  | some v => exact sectionAt_known h _ v

theorem readLimits_congr (place : List Key) (entries others : List (Value × Value))
    (h : ∀ f ∈ Topic.rules.fields, Value.lookup? others f.name = Value.lookup? entries f.name) :
    readLimits place others = readLimits place entries := by
  have calls := h .logCalls (by decide)
  have length := h .messageLength (by decide)
  simp only [Field.name] at calls length
  simp only [readLimits, fieldAt, calls, length]

theorem readScan_congr (place : List Key) (entries others : List (Value × Value))
    (h : ∀ f ∈ Topic.scan.fields, Value.lookup? others f.name = Value.lookup? entries f.name) :
    readScan place others = readScan place entries := by
  have extensions := h .extensions (by decide)
  have jobs := h .jobs (by decide)
  simp only [Field.name] at extensions jobs
  simp only [readScan, fieldAt, extensions, jobs]

theorem ofValue_known (raw : List (String × Value)) : ofValue (.record (known raw)) = ofValue (.record raw) := by
  have same : read (Value.named (known raw)) = read (Value.named raw) :=
    congrArg₂ (both _) (@fieldAt_known _ raw .rules _ _ readLimits_congr) (@fieldAt_known _ raw .scan _ _ readScan_congr)
  rw [ofValue_record, ofValue_record, same]

/-! ### Configurations -/

theorem withinBounds_of_ofValue {raw : List (String × Value)} {s : Settings} (accepted : ofValue (.record raw) = .ok s) :
    s.WithinBounds := by
  have sound := sound_read (Value.named raw)
  rw [ofValue_record] at accepted
  cases h : read (Value.named raw) with
  | error ps =>
    rw [h] at accepted
    cases accepted
  | ok t =>
    rw [h] at accepted sound
    cases accepted
    exact sound

/-- A configuration is refused with the problems that its fields have alone, in the order of the fields, or accepted if
there are none. Each problem names its field. Accepted settings keep to the bounds, and each field is what it would be
alone, or what it is by default. Unknown keys do not matter, and exactly the settings within the bounds are read back as
they are written. -/
theorem ofValue_fieldwise (raw : List (String × Value)) :
    (gathered Field.problems raw ≠ [] ∧ ofValue (.record raw) = .error (.invalid (gathered Field.problems raw)) ∨
      gathered Field.problems raw = [] ∧ ∃ s, ofValue (.record raw) = .ok s ∧ s.WithinBounds ∧
        ∀ f : Field, match f.given? raw with
          | some v => ∃ t, ofValue (.record (f.alone v)) = .ok t ∧ f.get t = f.get s
          | none => f.get s = f.get {}) ∧
      (∀ (f : Field) (v : Value), ∀ p ∈ f.problems v, f.place <+: p.place) ∧
      ofValue (.record (known raw)) = ofValue (.record raw) ∧
      ∀ s : Settings, ofValue (.record s.written) = .ok s ↔ s.WithinBounds := by
  refine ⟨?_, fun f v p hp => f.place_of_mem_problems hp, ofValue_known raw,
    fun s => ⟨withinBounds_of_ofValue, ofValue_written⟩⟩
  rw [gathered_problems]
  cases accepted : read (Value.named raw) with
  | error ps =>
    have sound := sound_read (Value.named raw)
    rw [accepted] at sound
    exact .inl ⟨sound.1, by rw [ofValue_record, accepted]; rfl⟩
  | ok s =>
    have ok : ofValue (.record raw) = .ok s := by rw [ofValue_record, accepted]; rfl
    refine .inr ⟨rfl, s, ok, withinBounds_of_ofValue ok, fun f => ?_⟩
    have taken := taken_of_read accepted f
    cases given : f.given? raw with
    | some v =>
      rw [given] at taken
      exact exists_alone_of_read taken
    | none =>
      rw [given] at taken
      exact taken

example : ofValue (.record [("scan", .list []), ("rules", .record [("max_message_length", .int (-1)), ("depth", .null),
    ("excessive_log_threshold", .text "few")])]) = .error (.invalid
      [⟨Field.logCalls.place, .noInteger .unreadable⟩, ⟨Field.messageLength.place, .below 0⟩,
        ⟨[.name "scan"], .notMapping "ScanConfig"⟩]) := by
  decide

end Settings

end LogReview
