import LogReview.Proofs.Rule.Agreement
import LogReview.Proofs.Tree.Chain
import LogReview.Java.Program
import Mathlib.Algebra.Ring.Nat

/-! How often a log call is reported for catch clauses in which nothing else is done. The rule goes down, through each
`try` and its clauses into what is below their bodies; a call seen from below is reported once for each silent body
on its way up. -/
namespace LogReview

/-- The first element that passes is the one with no other in front of it. -/
theorem filter_zipIdx_first {α : Type} (test : α → Bool) (xs : List α) (k : Nat) :
    ((xs.zipIdx k).filter fun x => test x.1 && (xs.take (x.2 - k)).all (!test ·)) =
      ((xs.zipIdx k).find? fun x => test x.1).toList := by
  induction xs generalizing k with
  | nil => rfl
  | cons x xs ih =>
    have later : ∀ y ∈ xs.zipIdx (k + 1), (test y.1 && ((x :: xs).take (y.2 - k)).all (!test ·)) =
        (!test x && (test y.1 && (xs.take (y.2 - (k + 1))).all (!test ·))) := by
      intro y hy
      have index : y.2 - k = y.2 - (k + 1) + 1 := by
        have := List.le_snd_of_mem_zipIdx hy
        omega
      rw [index, List.take_succ_cons, List.all_cons]
      cases test x <;> simp
    rw [List.zipIdx_cons, List.filter_cons, List.find?_cons, List.filter_congr later]
    cases test x with
    | true => simp
    | false => simpa using ih (k + 1)

namespace Place

/-- A catch clause of a `try`. -/
def isTryClause (p : Place) : Bool :=
  p.kind == .catchClause && p.parent?.any (·.kind == .tryStatement)

/-- The body of such a clause: the first of its children with that field. -/
def isCatchBody (p : Place) : Bool :=
  match p.above with
  | [] => false
  | (clause, i) :: above =>
    isTryClause ⟨clause, above⟩ &&
      (p.node.label.field == some "body" && (clause.children.take i).all (·.label.field != some "body"))

/-- A block with a statement in it that does something about an exception. -/
def acts (p : Place) : Bool := p.kind == .block && p.children.any Rule.isAction

/-- The body of a catch clause where nothing is done about the exception. -/
def isSilent (p : Place) : Bool := p.isCatchBody && !p.acts

/-- The silent bodies around a place, itself included. -/
def silentCatches (p : Place) : Nat := (p :: p.ancestors).countP isSilent

theorem any_statements (p : Place) : p.statements.any Rule.isAction = p.acts := by
  rw [statements, acts]
  cases p.kind == .block <;> simp

/-- Among the children of a clause the body is found by its field. -/
theorem filter_isCatchBody (clause : Place) :
    clause.allChildren.filter isCatchBody = if clause.isTryClause then clause.body?.toList else [] := by
  have found := filter_zipIdx_first (fun c : Node => c.label.field == some "body") clause.node.children 0
  have body : clause.body? =
      (clause.node.children.zipIdx.find? fun x => x.1.label.field == some "body").map fun x => clause.down x.1 x.2 := by
    rw [body?, childByField?, allChildren, List.find?_map]
    rfl
  have below : (isCatchBody ∘ fun x : Node × Nat => clause.down x.1 x.2) = fun x => clause.isTryClause &&
      (x.1.label.field == some "body" &&
        (clause.node.children.take (x.2 - 0)).all (!·.label.field == some "body")) := rfl
  rw [allChildren, List.filter_map, below, body]
  cases clause.isTryClause with
  | false => simp
  | true =>
    simp only [Bool.true_and, if_true]
    rw [found, Option.toList_map]

theorem kind_of_isTryClause {p : Place} (h : p.isTryClause) : p.kind = .catchClause := by
  rw [isTryClause, Bool.and_eq_true] at h
  exact beq_iff_eq.mp h.1

theorem filter_shown_isCatchBody {clause : Place}
    (shown : clause.kind = .catchClause → ∀ body ∈ clause.body?, body.node.shown) :
    clause.children.filter isCatchBody = if clause.isTryClause then clause.body?.toList else [] := by
  have order : clause.children.filter isCatchBody = (clause.allChildren.filter isCatchBody).filter (·.node.shown) := by
    rw [children, List.filter_filter, List.filter_filter]
    simp only [Bool.and_comm]
  rw [order, filter_isCatchBody]
  split
  case isFalse => rfl
  case isTrue h =>
    refine List.filter_eq_self.mpr fun body hbody => ?_
    exact shown (kind_of_isTryClause h) body (Option.mem_toList.mp hbody)

/-- What is said of the silent bodies among its children is said of the clause. -/
theorem flatMap_silent_children (src : Source) {clause : Place}
    (shown : clause.kind = .catchClause → ∀ body ∈ clause.body?, body.node.shown) :
    (clause.children.flatMap fun b => if b.isSilent then b.logCalls src else []) =
      if clause.isTryClause then Rule.idleCallsOf src clause else [] := by
  have idle : Rule.idleCallsOf src clause =
      clause.body?.toList.flatMap fun b => if b.acts then [] else b.logCalls src := by
    rw [Rule.idleCallsOf]
    cases clause.body? with
    | none => rfl
    | some b => simp [any_statements]
  have silent (b : Place) : (if b.isSilent then b.logCalls src else []) =
      if b.isCatchBody then (if b.acts then [] else b.logCalls src) else [] := by
    rw [isSilent]
    cases b.isCatchBody <;> cases b.acts <;> rfl
  simp only [silent]
  rw [← Rule.flatMap_filter, filter_shown_isCatchBody shown, idle]
  split <;> rfl

/-- The clauses among its children are those of a `try`. -/
theorem flatMap_clause_children (src : Source) (p : Place) :
    (p.children.flatMap fun c => if c.isTryClause then Rule.idleCallsOf src c else []) =
      if p.kind == .tryStatement then p.catchClauses.flatMap (Rule.idleCallsOf src) else [] := by
  have clause : ∀ c ∈ p.children, c.isTryClause = (c.kind == .catchClause && p.kind == .tryStatement) := by
    intro c hc
    rw [isTryClause, parent?, ancestors_of_mem_children hc]
    rfl
  rw [← Rule.flatMap_filter, List.filter_congr clause, catchClauses]
  cases p.kind == .tryStatement <;> simp

end Place

namespace Rule

/-- In the trees that parsers make, the body of a catch clause is named and no comment. -/
def ShownBodies (d : Document) : Prop :=
  ∀ clause ∈ d.top.findAll .catchClause, ∀ body ∈ clause.body?, body.node.shown

instance (d : Document) : Decidable (ShownBodies d) :=
  inferInstanceAs (Decidable (∀ clause ∈ d.top.findAll .catchClause, ∀ body ∈ clause.body?, body.node.shown))

/-- The calls that the rule reports, in its order. -/
def idleCalls (d : Document) : List Place :=
  (d.top.findAll .tryStatement).flatMap fun t => t.catchClauses.flatMap (idleCallsOf d.source)

/-- From the top down: the calls below the silent bodies. -/
theorem idleCalls_perm_bodies {d : Document} (shown : ShownBodies d) :
    (d.top.walk.flatMap fun b => if b.isSilent then b.logCalls d.source else []).Perm (idleCalls d) := by
  let clauseCalls (c : Place) := if c.isTryClause then idleCallsOf d.source c else []
  have bodies : ∀ a ∈ d.top.walk,
      (a.children.flatMap fun b => if b.isSilent then b.logCalls d.source else []) = clauseCalls a := by
    intro a ha
    refine Place.flatMap_silent_children d.source fun kind => ?_
    exact shown a (List.mem_filter.mpr ⟨ha, beq_iff_eq.mpr kind⟩)
  have tries : (d.top.walk.flatMap fun a => a.children.flatMap clauseCalls) = idleCalls d := by
    simp only [clauseCalls, Place.flatMap_clause_children]
    rw [← flatMap_filter]
    rfl
  -- Bodies are the children of clauses, and clauses the children of tries; the root is neither.
  calc (d.top.walk.flatMap fun b => if b.isSilent then b.logCalls d.source else [])
    List.Perm _ (d.top.walk.flatMap fun a =>
        a.children.flatMap fun b => if b.isSilent then b.logCalls d.source else []) :=
      d.top.flatMap_walk_perm rfl
    _ = d.top.walk.flatMap clauseCalls := List.flatMap_congr bodies
    List.Perm _ (d.top.walk.flatMap fun a => a.children.flatMap clauseCalls) :=
      d.top.flatMap_walk_perm (by simp [clauseCalls, Place.isTryClause, Document.top, Place.root, Place.parent?,
        Place.ancestors, Place.climb])
    _ = idleCalls d := tries

theorem flatMap_ite_eq_replicate {α β : Type} (test : α → Bool) (y : β) (xs : List α) :
    (xs.flatMap fun x => if test x then [y] else []) = List.replicate (xs.countP test) y := by
  rw [← flatMap_filter, ← List.map_eq_flatMap, List.map_const', List.countP_eq_length_filter]

/-- From below: each call as often as there are silent bodies above it. -/
theorem bodies_perm_replicate (d : Document) :
    (d.top.walk.flatMap fun b => if b.isSilent then b.logCalls d.source else []).Perm
      (d.logCalls.flatMap fun c => List.replicate c.silentCatches c) := by
  let met (b c : Place) := if b.isSilent && c.isLogCall d.source then [c] else []
  have down (b : Place) : (if b.isSilent then b.logCalls d.source else []) = b.walk.flatMap (met b) := by
    simp only [met, Place.logCalls_eq]
    cases b.isSilent with
    | false => simp
    | true => simp [← flatMap_filter]
  have up (c : Place) : (c :: c.ancestors).flatMap (met · c) =
      if c.isLogCall d.source then List.replicate c.silentCatches c else [] := by
    simp only [met, Place.silentCatches]
    cases c.isLogCall d.source with
    | false => simp
    | true => simpa using flatMap_ite_eq_replicate Place.isSilent c (c :: c.ancestors)
  have exchange := (Place.flatMap_ancestors_root_perm met d.root).symm
  simp only [up, ← flatMap_filter] at exchange
  simp only [down]
  rw [Document.logCalls, Place.logCalls_eq]
  exact exchange

/-- What the rule says of a call. -/
def idleIssue (d : Document) (call : Place) : Issue :=
  ⟨d.file.text, call.line d.source, "Logging caught exception without action", "caught-without-action"⟩

theorem countP_flatMap_replicate {α : Type} {calls : List Place} (times : Place → Nat) (report : Place → α)
    (test : α → Bool) :
    (calls.flatMap fun c => List.replicate (times c) (report c)).countP test =
      ((calls.filter fun c => test (report c)).map times).sum := by
  induction calls with
  | nil => rfl
  | cons c calls ih =>
    rw [List.flatMap_cons, List.countP_append, ih, List.countP_replicate, List.filter_cons]
    cases test (report c) <;> simp

/-- A log call is reported once for each silent catch body around it, and for no other reason: on every line there are
as many reports as the calls that begin there have silent bodies on their ways up. -/
theorem caughtWithoutAction_multiplicity (d : Document) (shown : ShownBodies d) :
    ∃ issues, caughtWithoutAction.check d = .ok issues ∧
      issues.Perm (d.logCalls.flatMap fun c => List.replicate c.silentCatches (idleIssue d c)) ∧
      ∀ line : Int, issues.countP (·.line == line) =
        ((d.logCalls.filter fun c => (c.line d.source : Int) == line).map Place.silentCatches).sum := by
  have reports : ((idleCalls d).map (idleIssue d)).Perm
      (d.logCalls.flatMap fun c => List.replicate c.silentCatches (idleIssue d c)) := by
    have calls := ((idleCalls_perm_bodies shown).symm.trans (bodies_perm_replicate d)).map (idleIssue d)
    simpa only [List.map_flatMap, List.map_replicate] using calls
  refine ⟨_, ?_, reports, fun line => ?_⟩
  · simp only [caughtWithoutAction, ofFindings, List.map_map]
    rfl
  · rw [reports.countP_eq, countP_flatMap_replicate]
    rfl

/-- A call in a catch clause inside another one, and on the next line a call whose own clause returns. -/
def nestedCatches : Document :=
  let text := "try\x7b\x7dcatch(E e)\x7btry\x7b\x7dcatch(F f)\x7ba.info(b);\x7d\n" ++
    "try\x7b\x7dcatch(G g)\x7ba.warn(c);return;\x7d\x7d"
  ⟨⟨.relative, ["A.java"]⟩, text.toUTF8, Java.parse text.toUTF8⟩

theorem caughtWithoutAction_nestedCatches :
    ShownBodies nestedCatches ∧ ∃ issues, caughtWithoutAction.check nestedCatches = .ok issues ∧
      issues.countP (·.line == 1) = 2 ∧ issues.countP (·.line == 2) = 1 := by
  have shown : ShownBodies nestedCatches := by decide +kernel
  obtain ⟨issues, checked, _, lines⟩ := caughtWithoutAction_multiplicity nestedCatches shown
  refine ⟨shown, issues, checked, ?_⟩
  rw [lines, lines]
  decide +kernel

end Rule
end LogReview
