import LogReview.Proofs.Rule.Battery
import LogReview.Proofs.Tree.Walk
import Mathlib.Data.List.Basic

/-! What the rules of the battery can see. Each of them goes through the places of one kind and says something
about each on its own; so where two places agree on what is seen, they are said the same of. -/
namespace LogReview
namespace Rule

/-- The rule goes through the places of kind `k` in order, and says `remarks` of each. -/
def Surveys (rule : Rule) (k : Kind) (remarks : Source → Place → List Finding) : Prop :=
  ∀ d, rule.check d = .ok (((d.top.findAll k).flatMap (remarks d.source)).map (issue rule.id d))

theorem Surveys.issuesOf_eq {rule : Rule} {k : Kind} {remarks : Source → Place → List Finding}
    (h : rule.Surveys k remarks) (d : Document) :
    rule.issuesOf d = ((d.top.findAll k).flatMap (remarks d.source)).map (issue rule.id d) := by
  rw [issuesOf, h d]
  rfl

/-- Places that are related by `R` agree on all that most rules look at: types, children, fields, names, the
texts of literals and identifiers, and what is above them. -/
structure Agreement (s t : Source) (R : Place → Place → Prop) : Prop where
  type : ∀ p q, R p q → p.node.type = q.node.type
  children : ∀ p q, R p q → List.Forall₂ R p.children q.children
  field : ∀ p q, R p q → ∀ f, Option.Rel R (p.childByField? f) (q.childByField? f)
  name : ∀ p q, R p q → p.name s = q.name t
  text : ∀ p q, R p q → p.kind = .literal ∨ p.kind = .identifier → p.text s = q.text t
  canonical : ∀ p q, R p q → p.canonicalText s = q.canonicalText t
  rethrown : ∀ p q, R p q → isRethrown p = isRethrown q
  looped : ∀ p q, R p q → p.hasAncestor .loop = q.hasAncestor .loop

/-- The same is said, at related places. -/
def Echoes (R : Place → Place → Prop) (f g : Finding) : Prop := R f.place g.place ∧ f.text = g.text

/-- A rule that says the same of related places. -/
def Respects (s t : Source) (R : Place → Place → Prop) (rule : Rule) : Prop :=
  ∃ k remarks, k ≠ .other ∧ rule.Surveys k remarks ∧
    ∀ p q, R p q → List.Forall₂ (Echoes R) (remarks s p) (remarks t q)

section Seen
variable {s t : Source} {R : Place → Place → Prop} {p q : Place}

theorem any_eq_of_forall₂ {f g : Place → Bool} {xs ys : List Place} (hxy : List.Forall₂ R xs ys)
    (hfg : ∀ a b, R a b → f a = g b) : xs.any f = ys.any g := by
  induction hxy with
  | nil => rfl
  | cons hab _ ih => rw [List.any_cons, List.any_cons, hfg _ _ hab, ih]

/-- Related blocks around two places settle what is thrown there. -/
theorem isRethrown_eq (hkind : ∀ a b, R a b → a.kind = b.kind)
    (hchildren : ∀ a b, R a b → List.Forall₂ R a.children b.children)
    (hblock : Option.Rel R p.enclosingBlock? q.enclosingBlock?) : isRethrown p = isRethrown q := by
  rw [isRethrown, isRethrown]
  generalize p.enclosingBlock? = a, q.enclosingBlock? = b at hblock
  cases hblock with
  | none => rfl
  | @some a b hab =>
    simp only [Place.statements, hkind a b hab]
    split
    · refine any_eq_of_forall₂ (hchildren a b hab) ?_
      intro c d hcd
      rw [hkind c d hcd]
    · rfl

namespace Agreement

theorem kind (h : Agreement s t R) (hpq : R p q) : p.kind = q.kind := by
  rw [Place.kind, Place.kind, Node.kind, Node.kind, h.type p q hpq]

theorem isStringLiteral (h : Agreement s t R) (hpq : R p q) : p.isStringLiteral = q.isStringLiteral := by
  rw [Place.isStringLiteral, Place.isStringLiteral, Place.literalSort?, Place.literalSort?,
    Node.literalSort?, Node.literalSort?, h.type p q hpq]

/-- Literals are of the kind of literals. -/
theorem kind_of_isStringLiteral (hp : p.isStringLiteral) : p.kind = .literal := by
  have hsort : LiteralSort.ofType? p.node.type = some .string := by
    simpa [Place.isStringLiteral, Place.literalSort?, Node.literalSort?] using hp
  exact if_pos (by rw [hsort]; rfl)

theorem stringValue (h : Agreement s t R) (hpq : R p q) (hp : p.isStringLiteral) :
    p.stringValue s = q.stringValue t := by
  rw [Place.stringValue, Place.stringValue, h.text p q hpq (.inl (kind_of_isStringLiteral hp))]

theorem arguments (h : Agreement s t R) (hpq : R p q) : List.Forall₂ R p.arguments q.arguments := by
  have hfield := h.field p q hpq "arguments"
  rw [Place.arguments, Place.arguments]
  generalize p.childByField? "arguments" = a, q.childByField? "arguments" = b at hfield
  cases hfield with
  | none => exact .nil
  | some hab => exact h.children _ _ hab

theorem operator (h : Agreement s t R) (hpq : R p q) : p.operator = q.operator := by
  have hfield := h.field p q hpq "operator"
  rw [Place.operator, Place.operator]
  generalize p.childByField? "operator" = a, q.childByField? "operator" = b at hfield
  cases hfield with
  | none => rfl
  | some hab => exact h.type _ _ hab

theorem statements (h : Agreement s t R) (hpq : R p q) : List.Forall₂ R p.statements q.statements := by
  rw [Place.statements, Place.statements, ← h.kind hpq]
  split
  · exact h.children p q hpq
  · exact .nil

theorem catchClauses (h : Agreement s t R) (hpq : R p q) : List.Forall₂ R p.catchClauses q.catchClauses := by
  refine List.rel_filter ?_ (h.children p q hpq)
  intro a b hab
  simp only [h.kind hab]

theorem isLogCall (h : Agreement s t R) (hpq : R p q) : p.isLogCall s = q.isLogCall t := by
  rw [Place.isLogCall, Place.isLogCall, h.kind hpq, h.name p q hpq]

theorem logCalls (h : Agreement s t R) (hpq : R p q) : List.Forall₂ R (p.logCalls s) (q.logCalls t) := by
  refine List.rel_filter ?_ (Place.findAll_related h.children (fun _ _ => h.kind) hpq .methodCall)
  intro a b hab
  change a.isLogCall s = true ↔ b.isLogCall t = true
  rw [h.isLogCall hab]

theorem isExceptionName (h : Agreement s t R) (hpq : R p q) :
    Rule.isExceptionName s p = Rule.isExceptionName t q := by
  rw [Rule.isExceptionName, Rule.isExceptionName, ← h.kind hpq]
  by_cases hk : p.kind = .identifier
  · rw [h.text p q hpq (.inr hk)]
  · rw [beq_eq_false_iff_ne.mpr hk, Bool.false_and, Bool.false_and]

end Agreement

/-! How the rules are put together: places of one kind are selected, something is said of each, and all is put
in a row. -/

/-- The places of one kind that are selected, in the same way on both sides. -/
def Selects (s t : Source) (R : Place → Place → Prop) (select : Document → List Place) : Prop :=
  ∃ (k : Kind) (keep : Source → Place → Bool), k ≠ .other ∧
    (∀ d, select d = (d.top.findAll k).filter (keep d.source)) ∧ ∀ p q, R p q → keep s p = keep t q

theorem selects_findAll {k : Kind} (hk : k ≠ .other) : Selects s t R fun d => d.top.findAll k :=
  ⟨k, fun _ _ => true, hk, fun _ => (List.filter_true _).symm, fun _ _ _ => rfl⟩

theorem selects_calls : Selects s t R Document.calls := selects_findAll (by decide)

theorem selects_methods : Selects s t R Document.methods := selects_findAll (by decide)

theorem selects_logCalls (h : Agreement s t R) : Selects s t R Document.logCalls :=
  ⟨.methodCall, Place.isLogCall, by decide, fun _ => rfl, fun _ _ => h.isLogCall⟩

theorem flatMap_filter {α β : Type} (f : α → Bool) (g : α → List β) (xs : List α) :
    (xs.filter f).flatMap g = xs.flatMap fun x => if f x then g x else [] := by
  induction xs with
  | nil => rfl
  | cons x xs ih =>
    rw [List.filter_cons, List.flatMap_cons, ← ih]
    cases f x <;> simp

theorem respects_flatMap {id : String} {select : Document → List Place} (hselect : Selects s t R select)
    (say : Source → Place → List Finding)
    (hsay : ∀ p q, R p q → List.Forall₂ (Echoes R) (say s p) (say t q)) :
    Respects s t R (ofFindings id fun d => (select d).flatMap (say d.source)) := by
  obtain ⟨k, keep, hk, hselect, hkeep⟩ := hselect
  refine ⟨k, fun src p => if keep src p then say src p else [], hk, ?_, ?_⟩
  · intro d
    rw [← flatMap_filter, ← hselect]
    rfl
  · intro p q hpq
    simp only [hkeep p q hpq]
    split
    · exact hsay p q hpq
    · exact .nil

theorem respects_filterMap {id : String} {select : Document → List Place} (hselect : Selects s t R select)
    (say : Source → Place → Option Finding)
    (hsay : ∀ p q, R p q → Option.Rel (Echoes R) (say s p) (say t q)) :
    Respects s t R (ofFindings id fun d => (select d).filterMap (say d.source)) := by
  simp only [List.filterMap_eq_flatMap_toList]
  refine respects_flatMap hselect (fun src p => (say src p).toList) ?_
  intro p q hpq
  have h := hsay p q hpq
  generalize say s p = a, say t q = b at h
  cases h with
  | none => exact .nil
  | some hab => exact .cons hab .nil

theorem respects_filter {id text : String} {select : Document → List Place} (hselect : Selects s t R select)
    (keep : Source → Place → Bool) (hkeep : ∀ p q, R p q → keep s p = keep t q) :
    Respects s t R (ofFindings id fun d => ((select d).filter (keep d.source)).map (⟨·, text⟩)) := by
  simp only [List.map_eq_flatMap, flatMap_filter]
  refine respects_flatMap hselect (fun src p => if keep src p then [⟨p, text⟩] else []) ?_
  intro p q hpq
  rw [hkeep p q hpq]
  split
  · exact .cons ⟨hpq, rfl⟩ .nil
  · exact .nil

theorem option_echoes {c : Prop} [Decidable c] {text : String} (hpq : R p q) :
    Option.Rel (Echoes R) (if c then some ⟨p, text⟩ else none) (if c then some ⟨q, text⟩ else none) := by
  split
  · exact .some ⟨hpq, rfl⟩
  · exact .none

/-! Rules on exceptions. -/

theorem printStackTrace_respects (h : Agreement s t R) : Respects s t R printStackTrace := by
  refine respects_filter selects_calls (fun src p => p.name src == "printStackTrace") ?_
  intro p q hpq
  rw [h.name p q hpq]

theorem logAndRethrow_respects (h : Agreement s t R) : Respects s t R logAndRethrow :=
  respects_filter (selects_logCalls h) (fun _ => isRethrown) h.rethrown

theorem inconsistentLevelOf_related (h : Agreement s t R) (hpq : R p q) :
    Option.Rel (Echoes R) (inconsistentLevelOf s p) (inconsistentLevelOf t q) := by
  have hargs := h.arguments hpq
  rw [inconsistentLevelOf, inconsistentLevelOf, h.name p q hpq]
  generalize q.name t = n, p.arguments = as, q.arguments = bs at hargs
  cases hargs with
  | nil => split <;> first | exact .none | contradiction
  | @cons a b as bs hab hrest =>
    cases hrest with
    | nil =>
      by_cases hn : n = "warn"
      · subst hn
        simp only
        by_cases hlit : a.isStringLiteral
        · rw [h.stringValue hab hlit, h.isStringLiteral hab]
          exact option_echoes hpq
        · rw [← h.isStringLiteral hab, Bool.eq_false_iff.mpr hlit]
          exact .none
      · split <;> split <;> simp_all
    | @cons a b as bs hab hrest =>
      by_cases hn : n = "info"
      · subst hn
        simp only
        rw [h.isExceptionName hab]
        exact option_echoes hpq
      · split <;> split <;> simp_all

theorem inconsistentLevel_respects (h : Agreement s t R) : Respects s t R inconsistentLevel :=
  respects_filterMap selects_calls inconsistentLevelOf fun _ _ => inconsistentLevelOf_related h

theorem idleCallsOf_related (h : Agreement s t R) (hpq : R p q) :
    List.Forall₂ R (idleCallsOf s p) (idleCallsOf t q) := by
  have hbody := h.field p q hpq "body"
  rw [idleCallsOf, idleCallsOf, Place.body?, Place.body?]
  generalize p.childByField? "body" = a, q.childByField? "body" = b at hbody
  cases hbody with
  | none => exact .nil
  | @some a b hab =>
    have hact : a.statements.any isAction = b.statements.any isAction := by
      refine any_eq_of_forall₂ (h.statements hab) ?_
      intro a b hab
      rw [isAction, isAction, h.kind hab]
    simp only [hact]
    split
    · exact .nil
    · exact h.logCalls hab

theorem caughtWithoutAction_respects (h : Agreement s t R) : Respects s t R caughtWithoutAction := by
  simp only [caughtWithoutAction, List.map_flatMap]
  refine respects_flatMap (selects_findAll (k := .tryStatement) (by decide))
    (fun src p => p.catchClauses.flatMap fun c => (idleCallsOf src c).map (⟨·, _⟩)) ?_
  intro p q hpq
  refine List.rel_flatMap (h.catchClauses hpq) fun a b hab => List.rel_map ?_ (idleCallsOf_related h hab)
  intro a b hab
  exact ⟨hab, rfl⟩

theorem getLastD_related {a b : Place} {as bs : List Place} (hs : List.Forall₂ R as bs) (hab : R a b) :
    R (as.getLastD a) (bs.getLastD b) := by
  induction hs generalizing a b with
  | nil => exact hab
  | cons hcd _ ih =>
    rw [List.getLastD_cons, List.getLastD_cons]
    exact ih hcd

theorem appendsException_eq (h : Agreement s t R) (hpq : R p q) : appendsException s p = appendsException t q := by
  have hargs := h.arguments hpq
  rw [appendsException, appendsException, h.name p q hpq]
  generalize p.arguments = as, q.arguments = bs at hargs
  congr 1
  cases hargs with
  | nil => rfl
  | cons _ hrest =>
    cases hrest with
    | nil => rfl
    | cons hcd hrest => exact h.isExceptionName (getLastD_related (.cons hcd hrest) hcd)

theorem stackTraceOveruse_respects (h : Agreement s t R) : Respects s t R stackTraceOveruse :=
  respects_filter selects_calls appendsException fun _ _ => appendsException_eq h

/-! Rules on messages. -/

theorem missingContextOf_related (h : Agreement s t R) (hpq : R p q) :
    Option.Rel (Echoes R) (missingContextOf s p) (missingContextOf t q) := by
  have hargs := h.arguments hpq
  rw [missingContextOf, missingContextOf]
  generalize p.arguments = as, q.arguments = bs at hargs
  cases hargs with
  | nil => exact .none
  | @cons a b as bs hab _ =>
    cases hlit : a.isStringLiteral with
    | false =>
      have hlit' : b.isStringLiteral = false := h.isStringLiteral hab ▸ hlit
      simp only [hlit, hlit', Bool.not_false, if_true]
      exact .some ⟨hpq, rfl⟩
    | true =>
      have hlit' : b.isStringLiteral = true := h.isStringLiteral hab ▸ hlit
      simp only [hlit, hlit', h.stringValue hab hlit, Bool.not_true, Bool.false_eq_true, if_false]
      exact option_echoes hpq

theorem missingContext_respects (h : Agreement s t R) : Respects s t R missingContext :=
  respects_filterMap (selects_logCalls h) missingContextOf fun _ _ => missingContextOf_related h

theorem isHardcoded_eq (h : Agreement s t R) (hpq : R p q) : isHardcoded s p = isHardcoded t q := by
  have hargs := h.arguments hpq
  rw [isHardcoded, isHardcoded]
  generalize p.arguments = as, q.arguments = bs at hargs
  cases hargs with
  | nil => rfl
  | @cons a b as bs hab hrest =>
    cases hrest with
    | nil =>
      by_cases hlit : a.isStringLiteral
      · simp only [h.stringValue hab hlit, h.isStringLiteral hab]
      · simp only [← h.isStringLiteral hab, Bool.eq_false_iff.mpr hlit, Bool.false_and]
    | cons => rfl

theorem hardcodedMessage_respects (h : Agreement s t R) : Respects s t R hardcodedMessage :=
  respects_filter (selects_logCalls h) isHardcoded fun _ _ => isHardcoded_eq h

theorem verboseOf_related (limit : Int) (h : Agreement s t R) (hpq : R p q) :
    Option.Rel (Echoes R) (verboseOf limit s p) (verboseOf limit t q) := by
  have hargs := h.arguments hpq
  rw [verboseOf, verboseOf]
  generalize p.arguments = as, q.arguments = bs at hargs
  cases hargs with
  | nil => exact .none
  | @cons a b as bs hab _ =>
    by_cases hlit : a.isStringLiteral
    · simp only [h.stringValue hab hlit, h.isStringLiteral hab]
      exact option_echoes hpq
    · simp only [← h.isStringLiteral hab, Bool.eq_false_iff.mpr hlit, Bool.false_and]
      exact .none

theorem verboseMessage_respects (limit : Int) (h : Agreement s t R) : Respects s t R (verboseMessage limit) :=
  respects_filterMap (selects_logCalls h) (verboseOf limit) fun _ _ => verboseOf_related limit h

theorem isConcatenation_eq (h : Agreement s t R) (hpq : R p q) : isConcatenation p = isConcatenation q := by
  have hargs := h.arguments hpq
  rw [isConcatenation, isConcatenation]
  generalize p.arguments = as, q.arguments = bs at hargs
  cases hargs with
  | nil => rfl
  | cons hab hrest =>
    cases hrest with
    | nil => simp only [h.kind hab, h.operator hab]
    | cons => rfl

theorem stringConcatenation_respects (h : Agreement s t R) : Respects s t R stringConcatenation :=
  respects_filter (selects_logCalls h) (fun _ => isConcatenation) fun _ _ => isConcatenation_eq h

/-! Rules on how much is logged. -/

theorem excessiveOf_related (limit : Int) (h : Agreement s t R) (hpq : R p q) :
    Option.Rel (Echoes R) (excessiveOf limit s p) (excessiveOf limit t q) := by
  rw [excessiveOf, excessiveOf, (h.logCalls hpq).length_eq, h.name p q hpq]
  exact option_echoes hpq

theorem excessiveLogging_respects (limit : Int) (h : Agreement s t R) :
    Respects s t R (excessiveLogging limit) :=
  respects_filterMap selects_methods (excessiveOf limit) fun _ _ => excessiveOf_related limit h

theorem repeatedOf_related (h : Agreement s t R) (hpq : R p q) :
    List.Forall₂ (Echoes R) (repeatedOf s p) (repeatedOf t q) := by
  have htexts : (p.logCalls s).map (·.canonicalText s) = (q.logCalls t).map (·.canonicalText t) := by
    rw [← List.forall₂_eq_eq_eq]
    exact List.rel_map (fun a b hab => h.canonical a b hab) (h.logCalls hpq)
  rw [repeatedOf, repeatedOf, htexts, h.name p q hpq]
  refine List.rel_filterMap (R := Eq) ?_ (List.forall₂_refl _)
  rintro ⟨text, count⟩ _ rfl
  exact option_echoes hpq

theorem repeatedLog_respects (h : Agreement s t R) : Respects s t R repeatedLog :=
  respects_flatMap selects_methods repeatedOf fun _ _ => repeatedOf_related h

theorem logInLoop_respects (h : Agreement s t R) : Respects s t R logInLoop :=
  respects_filter (selects_logCalls h) (fun _ p => p.hasAncestor .loop) h.looped

/-! Two rules also look at the text of whole expressions. -/

theorem zipIdx_related {as bs : List Place} (hs : List.Forall₂ R as bs) (i : Nat) :
    List.Forall₂ (fun x y => R x.1 y.1 ∧ x.2 = y.2) (as.zipIdx i) (bs.zipIdx i) := by
  induction hs generalizing i with
  | nil => exact .nil
  | cons hab _ ih => exact .cons ⟨hab, rfl⟩ (ih (i + 1))

theorem completeObject_respects (h : Agreement s t R) (htext : ∀ p q, R p q → p.text s = q.text t) :
    Respects s t R completeObject := by
  refine respects_flatMap (selects_logCalls h) completeObjectsOf ?_
  intro p q hpq
  refine List.rel_filterMap ?_ (zipIdx_related (h.arguments hpq) 0)
  rintro ⟨a, i⟩ ⟨b, _⟩ ⟨hab, rfl⟩
  simp only [h.kind hab, htext a b hab]
  split
  · exact .none
  · split
    · exact .none
    · split
      · exact .some ⟨hpq, rfl⟩
      · exact .some ⟨hpq, rfl⟩

theorem consoleOutput_respects (h : Agreement s t R) (htext : ∀ p q, R p q → p.text s = q.text t) :
    Respects s t R consoleOutput := by
  refine respects_filterMap selects_calls consoleOf ?_
  intro p q hpq
  have hscope := h.field p q hpq "object"
  rw [consoleOf, consoleOf, h.name p q hpq, Place.scope?, Place.scope?]
  generalize p.childByField? "object" = a, q.childByField? "object" = b at hscope
  cases hscope with
  | none => exact option_echoes hpq
  | some hab =>
    simp only [htext _ _ hab]
    exact option_echoes hpq

/-- All other rules of the battery only see what related places agree on. -/
theorem battery_respects (h : Agreement s t R) (limits : Limits) {rule : Rule} (hrule : rule ∈ battery limits) :
    rule = completeObject ∨ rule = consoleOutput ∨ Respects s t R rule := by
  simp only [battery, List.mem_cons, List.not_mem_nil, or_false] at hrule
  rcases hrule with rfl | rfl | rfl | rfl | rfl | rfl | rfl | rfl | rfl | rfl | rfl | rfl | rfl | rfl
  · exact .inr (.inr (printStackTrace_respects h))
  · exact .inr (.inr (logAndRethrow_respects h))
  · exact .inl rfl
  · exact .inr (.inr (excessiveLogging_respects _ h))
  · exact .inr (.inl rfl)
  · exact .inr (.inr (missingContext_respects h))
  · exact .inr (.inr (hardcodedMessage_respects h))
  · exact .inr (.inr (repeatedLog_respects h))
  · exact .inr (.inr (logInLoop_respects h))
  · exact .inr (.inr (verboseMessage_respects _ h))
  · exact .inr (.inr (inconsistentLevel_respects h))
  · exact .inr (.inr (caughtWithoutAction_respects h))
  · exact .inr (.inr (stringConcatenation_respects h))
  · exact .inr (.inr (stackTraceOveruse_respects h))

end Seen

end Rule
end LogReview
