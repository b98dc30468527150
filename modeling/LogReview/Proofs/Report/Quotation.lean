import LogReview.Proofs.Rule.Battery
import Mathlib.Data.List.Basic

/-! Where the line ends in descriptions come from. Most rules have fixed words for what they find. Three of them quote
the source: the name of a method, a receiver as it is written, or a statement without its layout. -/
namespace LogReview

namespace Text

/-- The number of line ends in a text. -/
def lineEnds (s : String) : Nat := s.toList.count '\n'

/-- The line ends of several texts together. -/
def lineEndsIn : List String → Nat
  | [] => 0
  | t :: ts => lineEnds t + lineEndsIn ts

theorem lineEnds_eq_zero_iff {s : String} : lineEnds s = 0 ↔ '\n' ∉ s.toList := List.count_eq_zero

@[simp] theorem lineEnds_append (s t : String) : lineEnds (s ++ t) = lineEnds s + lineEnds t := by
  simp [lineEnds]

@[simp] theorem lineEnds_toString (s : String) : lineEnds (toString s) = lineEnds s := rfl

@[simp] theorem lineEnds_repr (n : Nat) : lineEnds n.repr = 0 := by
  rw [lineEnds_eq_zero_iff, Nat.toList_repr]
  intro h
  have digit : ('\n').isDigit := Nat.isDigit_of_mem_toDigits (by decide) (by decide) h
  exact absurd digit (by decide)

@[simp] theorem lineEndsIn_nil : lineEndsIn [] = 0 := rfl

@[simp] theorem lineEndsIn_cons (t : String) (ts : List String) :
    lineEndsIn (t :: ts) = lineEnds t + lineEndsIn ts := rfl

@[simp] theorem lineEndsIn_append (ts us : List String) : lineEndsIn (ts ++ us) = lineEndsIn ts + lineEndsIn us := by
  induction ts with
  | nil => simp
  | cons t ts ih => simp [ih, Nat.add_assoc]

theorem lineEndsIn_eq_zero_iff {ts : List String} : lineEndsIn ts = 0 ↔ ∀ t ∈ ts, '\n' ∉ t.toList := by
  induction ts with
  | nil => simp
  | cons t ts ih => simp [ih, lineEnds_eq_zero_iff]

theorem lineEndsIn_flatMap_congr {α : Type} {f g : α → List String} {xs : List α}
    (h : ∀ x ∈ xs, lineEndsIn (f x) = lineEndsIn (g x)) : lineEndsIn (xs.flatMap f) = lineEndsIn (xs.flatMap g) := by
  induction xs with
  | nil => rfl
  | cons x xs ih =>
    rw [List.forall_mem_cons] at h
    simp [h.1, ih h.2]

theorem lineEndsIn_map_congr {α : Type} {f g : α → String} {xs : List α}
    (h : ∀ x ∈ xs, lineEnds (f x) = lineEnds (g x)) : lineEndsIn (xs.map f) = lineEndsIn (xs.map g) := by
  rw [List.map_eq_flatMap, List.map_eq_flatMap]
  refine lineEndsIn_flatMap_congr fun x hx => ?_
  rw [lineEndsIn_cons, lineEndsIn_cons, h x hx]

end Text

open Text

namespace Canonical

theorem count_append (out token : List Char) : (append out token).count '\n' = out.count '\n' + token.count '\n' := by
  rw [append]
  split
  · next empty => simp [List.isEmpty_iff.mp empty]
  · split
    · next comma => simp [beq_iff_eq.mp comma]
    · split <;> simp [Nat.add_comm]

theorem count_render (tokens : List String) :
    (render (tokens.map String.toList)).count '\n' = lineEndsIn tokens := by
  suffices ∀ out, ((tokens.map String.toList).foldl append out).count '\n' = out.count '\n' + lineEndsIn tokens by
    simpa [render] using this []
  intro out
  induction tokens generalizing out with
  | nil => simp
  | cons token tokens ih => simp [ih, count_append, lineEnds, Nat.add_assoc]

end Canonical

theorem Text.strip_sublist (cs : List Char) : (strip cs).Sublist cs := by
  have left (cs : List Char) : (stripLeft cs).Sublist cs := List.dropWhile_sublist _
  have ends := ((left (stripLeft cs).reverse).trans (left cs).reverse).reverse
  simpa [strip] using ends

/-- Between the tokens of a statement no line ends: those that are left stand inside tokens. -/
theorem Place.lineEnds_canonicalText_le (p : Place) (src : Source) :
    lineEnds (p.canonicalText src) ≤ lineEndsIn (Canonical.tokens src p.node) := by
  have stripped := (strip_sublist (Canonical.render ((Canonical.tokens src p.node).map String.toList))).count_le '\n'
  rw [Canonical.count_render] at stripped
  rwa [lineEnds, canonicalText, String.toList_ofList]

namespace Rule

/-- What a rule says about a file, in order. -/
def descriptions (rule : Rule) (d : Document) : List String := (rule.issuesOf d).map (·.description)

theorem descriptions_ofFindings (id : String) (find : Document → List Finding) (d : Document) :
    (ofFindings id find).descriptions d = (find d).map (·.text) := by
  simp only [descriptions, issuesOf, ofFindings, Except.toOption, Option.getD_some, List.map_map]
  rfl

/-! ### Rules with words of their own -/

/-- The rule never says anything of several lines. -/
def Terse (rule : Rule) : Prop := ∀ d, lineEndsIn (rule.descriptions d) = 0

theorem terse_ofFindings {id : String} {find : Document → List Finding}
    (h : ∀ d, ∀ f ∈ find d, lineEnds f.text = 0) : (ofFindings id find).Terse := by
  intro d
  rw [descriptions_ofFindings, lineEndsIn_eq_zero_iff, List.forall_mem_map]
  exact fun f hf => lineEnds_eq_zero_iff.mp (h d f hf)

/-- The rule has some fixed texts to say. -/
theorem terse_of_mem {id : String} {find : Document → List Finding} (texts : List String)
    (h : ∀ d, ∀ f ∈ find d, f.text ∈ texts) (fixed : ∀ t ∈ texts, lineEnds t = 0) : (ofFindings id find).Terse :=
  terse_ofFindings fun d f hf => fixed f.text (h d f hf)

theorem terse_map {id text : String} {find : Document → List Place} (fixed : lineEnds text = 0) :
    (ofFindings id fun d => (find d).map (⟨·, text⟩)).Terse := by
  refine terse_ofFindings fun d f hf => ?_
  obtain ⟨p, _, rfl⟩ := List.mem_map.mp hf
  exact fixed

theorem terse_completeObject : completeObject.Terse := by
  refine terse_of_mem
    ["Logging complete object as message", "Logging potentially large object as argument"] ?_ (by decide)
  intro d f hf
  obtain ⟨call, _, hf⟩ := List.mem_flatMap.mp hf
  obtain ⟨⟨arg, i⟩, _, said⟩ := List.mem_filterMap.mp hf
  dsimp only at said
  repeat' split at said
  all_goals cases said <;> simp

theorem terse_missingContext : missingContext.Terse := by
  refine terse_of_mem
    ["Logging exception without message", "Logging without meaningful context (empty message)"] ?_ (by decide)
  intro d f hf
  obtain ⟨call, _, said⟩ := List.mem_filterMap.mp hf
  unfold missingContextOf at said
  repeat' split at said
  all_goals cases said <;> simp

theorem terse_inconsistentLevel : inconsistentLevel.Terse := by
  refine terse_of_mem
    ["Inconsistent log level: info used for exception", "Inconsistent log level: warn used for minor issue"] ?_
    (by decide)
  intro d f hf
  obtain ⟨call, _, said⟩ := List.mem_filterMap.mp hf
  unfold inconsistentLevelOf at said
  repeat' split at said
  all_goals cases said <;> simp

theorem terse_verboseMessage (limit : Int) : (verboseMessage limit).Terse := by
  refine terse_ofFindings fun d f hf => ?_
  obtain ⟨call, _, said⟩ := List.mem_filterMap.mp hf
  unfold verboseOf at said
  split at said
  · cases said
  · simp only [Option.ite_none_right_eq_some, Option.some.injEq] at said
    obtain ⟨_, rfl⟩ := said
    simp only [lineEnds_append, lineEnds_toString, Nat.toString_eq_repr, lineEnds_repr]
    decide

/-! ### Rules that quote -/

/-- The name of a method that logs more than it may. -/
def excessiveQuotes (limit : Int) (src : Source) (method : Place) : List String :=
  if limit < (method.logCalls src).length then [method.name src] else []

theorem lineEndsIn_excessiveLogging (limit : Int) (d : Document) :
    lineEndsIn ((excessiveLogging limit).descriptions d) = lineEndsIn (d.methods.flatMap (excessiveQuotes limit d.source)) := by
  rw [excessiveLogging, descriptions_ofFindings, List.filterMap_eq_flatMap_toList, List.map_flatMap]
  refine lineEndsIn_flatMap_congr fun method _ => ?_
  simp only [excessiveOf, excessiveQuotes]
  split
  · simp only [Option.toList_some, List.map_singleton, lineEndsIn_cons, lineEnds_append, lineEnds_toString,
      Nat.toString_eq_repr, lineEnds_repr]
    simp [lineEnds]
  · rfl

/-- The receiver of a call, as it is written. -/
def receiver (src : Source) (call : Place) : String :=
  match call.scope? with
  | some scope => scope.text src
  | none => ""

/-- The receiver that is printed to, if it is a console. -/
def consoleQuotes (src : Source) (call : Place) : List String :=
  if call.name src == "println" && consoleStreams.any (fun s => occurs s.toList (receiver src call).toList) then
    [receiver src call]
  else []

theorem consoleOf_eq (src : Source) (call : Place) :
    consoleOf src call =
      if call.name src == "println" && consoleStreams.any (fun s => occurs s.toList (receiver src call).toList) then
        some ⟨call, s!"Uses {receiver src call}.println instead of structured logging"⟩
      else none := rfl

theorem lineEndsIn_consoleOutput (d : Document) :
    lineEndsIn (consoleOutput.descriptions d) = lineEndsIn (d.calls.flatMap (consoleQuotes d.source)) := by
  rw [consoleOutput, descriptions_ofFindings, List.filterMap_eq_flatMap_toList, List.map_flatMap]
  refine lineEndsIn_flatMap_congr fun call _ => ?_
  rw [consoleOf_eq, consoleQuotes]
  split
  · simp only [Option.toList_some, List.map_singleton, lineEndsIn_cons, lineEnds_append, lineEnds_toString]
    simp [lineEnds]
  · rfl

/-- The name of a method and a statement, for each statement that is repeated in it. -/
def repeatedQuotes (src : Source) (method : Place) : List String :=
  (tally ((method.logCalls src).map (·.canonicalText src))).flatMap fun (text, count) =>
    if 1 < count then [method.name src, text] else []

theorem lineEndsIn_repeatedLog (d : Document) :
    lineEndsIn (repeatedLog.descriptions d) = lineEndsIn (d.methods.flatMap (repeatedQuotes d.source)) := by
  rw [repeatedLog, descriptions_ofFindings, List.map_flatMap]
  refine lineEndsIn_flatMap_congr fun method _ => ?_
  rw [repeatedOf, List.filterMap_eq_flatMap_toList, List.map_flatMap]
  refine lineEndsIn_flatMap_congr fun (text, count) _ => ?_
  dsimp only
  split
  · simp only [Option.toList_some, List.map_singleton, lineEndsIn_cons, lineEnds_append, lineEnds_toString,
      Nat.toString_eq_repr, lineEnds_repr]
    simp [lineEnds]
  · rfl

/-- All that the battery quotes from a file. -/
def quotations (limits : Limits) (d : Document) : List String :=
  d.methods.flatMap (excessiveQuotes limits.logCalls d.source) ++ d.calls.flatMap (consoleQuotes d.source) ++
    d.methods.flatMap (repeatedQuotes d.source)

theorem lineEndsIn_battery (limits : Limits) (d : Document) :
    lineEndsIn ((battery limits).flatMap (·.descriptions d)) = lineEndsIn (quotations limits d) := by
  have printStackTrace : printStackTrace.Terse := terse_map (by decide)
  have logAndRethrow : logAndRethrow.Terse := terse_map (by decide)
  have hardcodedMessage : hardcodedMessage.Terse := terse_map (by decide)
  have logInLoop : logInLoop.Terse := terse_map (by decide)
  have caughtWithoutAction : caughtWithoutAction.Terse := terse_map (by decide)
  have stringConcatenation : stringConcatenation.Terse := terse_map (by decide)
  have stackTraceOveruse : stackTraceOveruse.Terse := terse_map (by decide)
  simp only [battery, List.flatMap_cons, List.flatMap_nil, lineEndsIn_append, lineEndsIn_nil,
    quotations, printStackTrace d, logAndRethrow d, terse_completeObject d, lineEndsIn_excessiveLogging,
    lineEndsIn_consoleOutput, terse_missingContext d, hardcodedMessage d, lineEndsIn_repeatedLog, logInLoop d,
    terse_verboseMessage _ d, terse_inconsistentLevel d, caughtWithoutAction d, stringConcatenation d,
    stackTraceOveruse d]
  omega

/-- The line ends in what is found are those in what is quoted. -/
theorem lineEndsIn_issues (limits : Limits) (d : Document) :
    lineEndsIn (((battery limits).flatMap (·.issuesOf d)).map (·.description)) = lineEndsIn (quotations limits d) := by
  rw [← lineEndsIn_battery, List.map_flatMap]
  rfl

end Rule

end LogReview
