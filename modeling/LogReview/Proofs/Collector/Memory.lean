import LogReview.Collector
import Mathlib.Logic.Function.Basic
import Mathlib.Tactic.Common

/-! The collector among lists that can be shared. Here two names can stand for one list, and a cursor sees what is added
to the list it goes through. Every loop of the collector ends all the same, and what comes of its steps is what the session
makes of them: the contents only grow, and the copy that a client keeps is no part of them. -/
namespace LogReview.Collector

/-! ### Lists and cursors -/

/-- Lists by their addresses. From `free` on the addresses are not in use. -/
structure Memory where
  lists : Nat → List Issue
  free : Nat

structure Cursor where
  address : Nat
  position : Nat := 0

def Cursor.advance (c : Cursor) : Cursor := { c with position := c.position + 1 }

namespace Memory
variable {m m' : Memory} {a target : Nat} {i : Issue} {xs ys : List Issue} {c : Cursor}

/-- A new list, at the first free address. -/
def create (m : Memory) (xs : List Issue) : Memory := ⟨Function.update m.lists m.free xs, m.free + 1⟩

def write (m : Memory) (a : Nat) (xs : List Issue) : Memory := ⟨Function.update m.lists a xs, m.free⟩

def append (m : Memory) (a : Nat) (xs : List Issue) : Memory := m.write a (m.lists a ++ xs)

/-- What the cursor comes to, in the list as it is now. -/
def next? (m : Memory) (c : Cursor) : Option Issue := (m.lists c.address)[c.position]?

@[simp] theorem lists_create_free : (m.create xs).lists m.free = xs := Function.update_self ..

theorem lists_create_of_lt (h : a < m.free) : (m.create xs).lists a = m.lists a := Function.update_of_ne (Nat.ne_of_lt h) ..

@[simp] theorem lists_write : (m.write a xs).lists a = xs := Function.update_self ..

theorem lists_write_of_ne {b : Nat} (h : b ≠ a) : (m.write a xs).lists b = m.lists b := Function.update_of_ne h ..

@[simp] theorem lists_append : (m.append a xs).lists a = m.lists a ++ xs := lists_write

theorem lists_append_of_ne {b : Nat} (h : b ≠ a) : (m.append a xs).lists b = m.lists b := lists_write_of_ne h

theorem append_nil : m.append a [] = m := by
  rw [append, List.append_nil, write, Function.update_eq_self]

theorem append_append : (m.append a xs).append a ys = m.append a (xs ++ ys) := by
  simp [append, write]

/-- A list that is filled right after its creation might as well have been created so. -/
theorem append_create : (m.create []).append m.free xs = m.create xs := by
  simp [append, write, create]

/-- A loop that adds to the list at `target` what the cursor comes to, issue by issue, until there is none. -/
inductive Fills (target : Nat) : Memory → Cursor → Memory → Prop
  | done {m : Memory} {c : Cursor} (ended : m.next? c = none) : Fills target m c m
  | one {m m' : Memory} {c : Cursor} {i : Issue} (found : m.next? c = some i)
      (rest : Fills target (m.append target [i]) c.advance m') : Fills target m c m'

theorem next?_eq_some (h : (m.lists c.address).drop c.position = i :: xs) : m.next? c = some i := by
  rw [next?, ← List.head?_drop, h, List.head?_cons]

theorem drop_of_next? (h : m.next? c = some i) :
    (m.lists c.address).drop c.position = i :: (m.lists c.address).drop c.advance.position := by
  obtain ⟨lt, rfl⟩ := List.getElem?_eq_some_iff.mp h
  exact List.drop_eq_getElem_cons lt

theorem Fills.eq_append (h : Fills target m c m') (apart : c.address ≠ target) :
    m' = m.append target ((m.lists c.address).drop c.position) := by
  induction h with
  | @done m c ended => rw [List.drop_eq_nil_of_le (List.getElem?_eq_none_iff.mp ended), append_nil]
  | @one m m' c i found _ ih =>
    rw [ih apart, drop_of_next? found, Cursor.advance, lists_append_of_ne apart, append_append, List.singleton_append]

theorem fills_append (apart : c.address ≠ target) :
    Fills target m c (m.append target ((m.lists c.address).drop c.position)) := by
  generalize left : (m.lists c.address).drop c.position = xs
  induction xs generalizing m c with
  | nil =>
    rw [append_nil]
    exact .done (List.getElem?_eq_none_iff.mpr (List.drop_eq_nil_iff.mp left))
  | cons i xs ih =>
    have found := next?_eq_some left
    have rest : ((m.append target [i]).lists c.advance.address).drop c.advance.position = xs := by
      rw [drop_of_next? found] at left
      rw [Cursor.advance, lists_append_of_ne apart]
      exact (List.cons.inj left).2
    have filled := ih (m := m.append target [i]) (c := c.advance) apart rest
    rw [append_append, List.singleton_append] at filled
    exact .one found filled

/-- The loop ends, with one result, where the cursor goes through another list. -/
theorem fills_iff (apart : c.address ≠ target) :
    Fills target m c m' ↔ m' = m.append target ((m.lists c.address).drop c.position) := by
  refine ⟨fun h => h.eq_append apart, ?_⟩
  rintro rfl
  exact fills_append apart

/-- Extends the list at `own` by what is in the list at `source`: that is first put into a list of its own, issue by issue,
and then appended. -/
def Extends (own source : Nat) (m m' : Memory) : Prop :=
  ∃ read, Fills m.free (m.create []) ⟨source, 0⟩ read ∧ m' = read.append own (read.lists m.free)

theorem extends_iff {own source : Nat} (used : source < m.free) :
    Extends own source m m' ↔ m' = (m.create (m.lists source)).append own (m.lists source) := by
  have apart : (Cursor.mk source 0).address ≠ m.free := Nat.ne_of_lt used
  simp only [Extends, fills_iff apart, exists_eq_left, List.drop_zero, lists_create_of_lt used, append_create,
    lists_create_free]

end Memory

/-! ### Sessions -/

theorem toList_foldl_add (xs : List Issue) (c : Collector) : (xs.foldl add c).toList = c.toList ++ xs := by
  induction xs generalizing c with
  | nil => exact (List.append_nil _).symm
  | cons i xs ih => rw [List.foldl_cons, ih, toList_add, List.append_assoc, List.singleton_append]

theorem toList_growEach (c : Collector) : c.growEach.toList = c.toList ++ c.toList := toList_foldl_add c.toList c

/-- What a step adds to the collector. -/
def Step.batch (s : Session) : Step → List Issue
  | .add i => [i]
  | .extend batch => batch
  | .extendSelf | .growEach => s.collector.toList
  | .extendKept => s.kept
  | .keep | .clearKept => []

namespace Session

def run (s : Session) (steps : List Step) : Session := steps.foldl step s

/-- What each of the steps adds. -/
def batches (s : Session) : List Step → List (List Issue)
  | [] => []
  | st :: steps => st.batch s :: (s.step st).batches steps

theorem toList_step (s : Session) (st : Step) : (s.step st).collector.toList = s.collector.toList ++ st.batch s := by
  cases st with
  | growEach => exact toList_growEach s.collector
  | keep | clearKept => exact (List.append_nil _).symm
  | _ => rfl

theorem toList_run (s : Session) (steps : List Step) :
    (s.run steps).collector.toList = s.collector.toList ++ (s.batches steps).flatten := by
  induction steps generalizing s with
  | nil => exact (List.append_nil _).symm
  | cons st steps ih =>
    have rest := ih (s.step st)
    rw [toList_step, List.append_assoc] at rest
    exact rest

/-- Nothing but the client itself changes what it keeps. -/
theorem kept_run {steps : List Step} (keep : .keep ∉ steps) (clear : .clearKept ∉ steps) (s : Session) :
    (s.run steps).kept = s.kept := by
  induction steps generalizing s with
  | nil => rfl
  | cons st steps ih =>
    simp only [List.mem_cons, not_or] at keep clear
    have same : (s.step st).kept = s.kept := by
      cases st with
      | keep => exact absurd rfl keep.1
      | clearKept => exact absurd rfl clear.1
      | _ => rfl
    exact (ih keep.2 clear.2 (s.step st)).trans same

end Session

/-! ### Steps -/

/-- The list of the collector and the list that is kept are known by their addresses. -/
structure World where
  memory : Memory
  own : Nat
  kept : Nat

namespace World
variable {w w' : World} {steps : List Step}

/-- An empty collector, and nothing kept. -/
def start : World := ⟨⟨fun _ => [], 2⟩, 0, 1⟩

def contents (w : World) : List Issue := w.memory.lists w.own

def copy (w : World) : List Issue := w.memory.lists w.kept

def view (w : World) : Session := ⟨⟨w.contents⟩, w.copy⟩

/-- A step, with the lists that it creates on the way. To go through the collector is to go through a new list with its
contents. -/
inductive Does (w : World) : Step → World → Prop
  | add (i : Issue) : Does w (.add i) { w with memory := w.memory.append w.own [i] }
  | extend (batch : List Issue) {m : Memory}
      (grown : Memory.Extends w.own w.memory.free (w.memory.create batch) m) :
      Does w (.extend batch) { w with memory := m }
  | extendSelf {m : Memory} (grown : Memory.Extends w.own w.memory.free (w.memory.create w.contents) m) :
      Does w .extendSelf { w with memory := m }
  | keep : Does w .keep { w with memory := w.memory.create w.contents, kept := w.memory.free }
  | clearKept : Does w .clearKept { w with memory := w.memory.write w.kept [] }
  | extendKept {m : Memory} (grown : Memory.Extends w.own w.kept w.memory m) : Does w .extendKept { w with memory := m }
  | growEach {m : Memory} (fills : Memory.Fills w.own (w.memory.create w.contents) ⟨w.memory.free, 0⟩ m) :
      Does w .growEach { w with memory := m }

inductive Runs : World → List Step → World → Prop
  | nil (w : World) : Runs w [] w
  | cons {w w' w'' : World} {st : Step} {steps : List Step} (first : Does w st w') (rest : Runs w' steps w'') :
      Runs w (st :: steps) w''

/-- The lists of the collector and of the copy are in use, and two. -/
structure Apart (w : World) : Prop where
  own : w.own < w.memory.free
  kept : w.kept < w.memory.free
  ne : w.kept ≠ w.own

theorem apart_start : start.Apart := ⟨by decide, by decide, by decide⟩

/-- Where a step leads to. -/
def after (w : World) : Step → World
  | .add i => { w with memory := w.memory.append w.own [i] }
  | .extend batch => { w with memory := ((w.memory.create batch).create batch).append w.own batch }
  | .extendSelf => { w with memory := ((w.memory.create w.contents).create w.contents).append w.own w.contents }
  | .keep => { w with memory := w.memory.create w.contents, kept := w.memory.free }
  | .clearKept => { w with memory := w.memory.write w.kept [] }
  | .extendKept => { w with memory := (w.memory.create w.copy).append w.own w.copy }
  | .growEach => { w with memory := (w.memory.create w.contents).append w.own w.contents }

theorem extends_create_iff {m m' : Memory} {own : Nat} {xs : List Issue} :
    Memory.Extends own m.free (m.create xs) m' ↔ m' = ((m.create xs).create xs).append own xs := by
  rw [Memory.extends_iff (Nat.lt_succ_self m.free), Memory.lists_create_free]

theorem fills_create_iff {m m' : Memory} {own : Nat} (used : own < m.free) {xs : List Issue} :
    Memory.Fills own (m.create xs) ⟨m.free, 0⟩ m' ↔ m' = (m.create xs).append own xs := by
  have apart : (Cursor.mk m.free 0).address ≠ own := Nat.ne_of_gt used
  rw [Memory.fills_iff apart, List.drop_zero, Memory.lists_create_free]

/-- Every step ends, in one way. -/
theorem does_iff (apart : w.Apart) {st : Step} : Does w st w' ↔ w' = w.after st := by
  constructor
  · intro does
    cases does with
    | add | keep | clearKept => rfl
    | extend batch grown => rw [extends_create_iff.mp grown, after]
    | extendSelf grown => rw [extends_create_iff.mp grown, after]
    | extendKept grown => rw [(Memory.extends_iff apart.kept).mp grown, after, copy]
    | growEach fills => rw [(fills_create_iff apart.own).mp fills, after]
  · rintro rfl
    cases st with
    | add i => exact .add i
    | keep => exact .keep
    | clearKept => exact .clearKept
    | extend batch => exact .extend batch (extends_create_iff.mpr rfl)
    | extendSelf => exact .extendSelf (extends_create_iff.mpr rfl)
    | extendKept => exact .extendKept ((Memory.extends_iff apart.kept).mpr rfl)
    | growEach => exact .growEach ((fills_create_iff apart.own).mpr rfl)

theorem apart_after (apart : w.Apart) (st : Step) : (w.after st).Apart := by
  obtain ⟨own, kept, ne⟩ := apart
  cases st with
  | keep => exact ⟨Nat.lt_succ_of_lt own, Nat.lt_succ_self _, Nat.ne_of_gt own⟩
  | add | clearKept => exact ⟨own, kept, ne⟩
  | extendKept | growEach => exact ⟨Nat.lt_succ_of_lt own, Nat.lt_succ_of_lt kept, ne⟩
  | extend | extendSelf =>
    exact ⟨Nat.lt_succ_of_lt (Nat.lt_succ_of_lt own), Nat.lt_succ_of_lt (Nat.lt_succ_of_lt kept), ne⟩

theorem contents_after (apart : w.Apart) (st : Step) : (w.after st).contents = w.contents ++ st.batch w.view := by
  have own := apart.own
  have later := Nat.lt_succ_of_lt own
  cases st with
  | keep => exact (Memory.lists_create_of_lt own).trans (List.append_nil _).symm
  | clearKept => exact (Memory.lists_write_of_ne apart.ne.symm).trans (List.append_nil _).symm
  | add => exact Memory.lists_append
  | extend | extendSelf =>
    refine Memory.lists_append.trans ?_
    rw [Memory.lists_create_of_lt later, Memory.lists_create_of_lt own]
    rfl
  | extendKept | growEach =>
    refine Memory.lists_append.trans ?_
    rw [Memory.lists_create_of_lt own]
    rfl

theorem copy_after (apart : w.Apart) (st : Step) : (w.after st).copy = (w.view.step st).kept := by
  have kept := apart.kept
  have later := Nat.lt_succ_of_lt kept
  cases st with
  | keep => exact Memory.lists_create_free
  | clearKept => exact Memory.lists_write
  | add => exact Memory.lists_append_of_ne apart.ne
  | extend | extendSelf =>
    refine (Memory.lists_append_of_ne apart.ne).trans ?_
    rw [Memory.lists_create_of_lt later, Memory.lists_create_of_lt kept]
    rfl
  | extendKept | growEach =>
    refine (Memory.lists_append_of_ne apart.ne).trans ?_
    rw [Memory.lists_create_of_lt kept]
    rfl

theorem view_after (apart : w.Apart) (st : Step) : (w.after st).view = w.view.step st := by
  have contents : (w.after st).contents = (w.view.step st).collector.toList := by
    rw [contents_after apart, Session.toList_step]
    rfl
  rw [view, contents, copy_after apart]
  rfl

theorem Runs.view_eq (run : Runs w steps w') (apart : w.Apart) : w'.Apart ∧ w'.view = w.view.run steps := by
  induction run with
  | nil => exact ⟨apart, rfl⟩
  | @cons w w' w'' st steps first _ ih =>
    rw [(does_iff apart).mp first] at ih
    obtain ⟨still, same⟩ := ih (apart_after apart st)
    rw [view_after apart] at same
    exact ⟨still, same⟩

theorem exists_runs (apart : w.Apart) (steps : List Step) : ∃ w', Runs w steps w' := by
  induction steps generalizing w with
  | nil => exact ⟨w, .nil w⟩
  | cons st steps ih =>
    obtain ⟨w', rest⟩ := ih (apart_after apart st)
    exact ⟨w', .cons ((does_iff apart).mpr rfl) rest⟩

/-- All steps come to an end, and to what the session makes of them. The contents are what the steps added, one after the
other, and each step adds behind them. Extending the collector by itself and adding each of its issues while going through
it both double the contents. What a client keeps is what the contents were when it was kept, whatever is done afterwards,
and to clear it changes nothing else. -/
theorem runs_appendOnly (steps : List Step) :
    (∃ w, Runs start steps w) ∧ ∀ w, Runs start steps w →
      w.view = Session.run {} steps ∧ w.contents = (Session.batches {} steps).flatten ∧
      (∀ st, ∃ w', Does w st w') ∧
      (∀ st w', Does w st w' → w.contents <+: w'.contents) ∧
      (∀ w', Does w .extendSelf w' ∨ Does w .growEach w' → w'.contents = w.contents ++ w.contents) ∧
      (∀ w', Does w .clearKept w' → w'.contents = w.contents ∧ w'.copy = []) ∧
      ∀ rest w', .keep ∉ rest → .clearKept ∉ rest → Runs w (.keep :: rest) w' → w'.copy = w.contents := by
  refine ⟨exists_runs apart_start steps, fun w run => ?_⟩
  obtain ⟨apart, same⟩ := run.view_eq apart_start
  have contents : w.contents = (Session.batches {} steps).flatten :=
    (congrArg (·.collector.toList) same).trans (Session.toList_run {} steps)
  refine ⟨same, contents, fun st => ⟨_, (does_iff apart).mpr rfl⟩, ?_, ?_, ?_, ?_⟩
  · intro st w' does
    rw [(does_iff apart).mp does, contents_after apart]
    exact List.prefix_append _ _
  · rintro w' (does | does)
    all_goals
      rw [(does_iff apart).mp does, contents_after apart]
      rfl
  · intro w' does
    rw [(does_iff apart).mp does, contents_after apart, copy_after apart]
    exact ⟨List.append_nil _, rfl⟩
  · intro rest w' keep clear more
    have view := (more.view_eq apart).2
    exact (congrArg (·.kept) view).trans (Session.kept_run keep clear _)

end World

end LogReview.Collector
