import LogReview.Collector
import Mathlib.Algebra.Order.BigOperators.Group.Finset
import Mathlib.Data.Fintype.Basic
import Mathlib.Data.List.Forall2
import Mathlib.Data.List.Induction
import Mathlib.Logic.Function.Basic
import Mathlib.Tactic.Common

/-! Clients that share a collector. Each of their calls is one step under the lock, or two where a batch is read first and
appended later, and the steps of the clients come in any order. The contents are the batches of all clients, whole and each
client's in order, and every answer is what the contents were at one moment. -/
namespace LogReview.Collector

inductive Call where
  | add (i : Issue)
  | extend (batch : List Issue)
  | extendSelf
  | toList
  | size
deriving Repr, DecidableEq

def Call.adds : Call → Bool
  | .add _ | .extend _ | .extendSelf => true
  | .toList | .size => false

/-- The calls that a client has yet to make, and what it has read to append it by the first of them. -/
structure Client where
  calls : List Call
  batch : Option (List Issue) := none
deriving Repr, DecidableEq

/-- What a step of a client is seen to do. -/
inductive Event (ι : Type) where
  | appended (who : ι) (batch : List Issue)
  | read (who : ι) (batch : List Issue)
  | listed (who : ι) (contents : List Issue)
  | counted (who : ι) (n : Nat)
deriving Repr, DecidableEq

namespace Event
variable {ι : Type}

def who : Event ι → ι
  | appended who _ | read who _ | listed who _ | counted who _ => who

/-- The batches that were appended, and by whom. -/
def appends (events : List (Event ι)) : List (ι × List Issue) :=
  events.filterMap fun
    | appended who batch => some (who, batch)
    | _ => none

/-- The contents after the events. -/
def contents (events : List (Event ι)) : List Issue := ((appends events).map (·.2)).flatten

/-- An answer is right for the contents of the moment. -/
def Tells (contents : List Issue) : Event ι → Prop
  | listed _ xs => xs = contents
  | counted _ n => n = contents.length
  | _ => True

/-- How long an answer says that the contents are. -/
def length? : Event ι → Option Nat
  | listed _ xs => some xs.length
  | counted _ n => some n
  | _ => none

end Event

/-- A collector and all its clients. -/
structure Shared (ι : Type) where
  collector : Collector := {}
  clients : ι → Client

namespace Shared
variable {ι : Type} [DecidableEq ι]

def start (programs : ι → List Call) : Shared ι := ⟨{}, fun who => ⟨programs who, none⟩⟩

def Finished (s : Shared ι) : Prop := ∀ who, (s.clients who).calls = []

/-- The client goes on as `client`, and leaves the collector as `c`. -/
def next (s : Shared ι) (who : ι) (client : Client) (c : Collector) : Shared ι :=
  ⟨c, Function.update s.clients who client⟩

/-- The next step of a client, if it has any. -/
def act (s : Shared ι) (who : ι) : Option (Event ι × Shared ι) :=
  let c := s.collector
  match s.clients who with
  | ⟨[], _⟩ => none
  | ⟨_ :: calls, some batch⟩ => some (.appended who batch, s.next who ⟨calls, none⟩ (c.extend batch))
  | ⟨.add i :: calls, none⟩ => some (.appended who [i], s.next who ⟨calls, none⟩ (c.add i))
  | ⟨.extend batch :: calls, none⟩ => some (.read who batch, s.next who ⟨.extend batch :: calls, some batch⟩ c)
  | ⟨.extendSelf :: calls, none⟩ => some (.listed who c.toList, s.next who ⟨.extendSelf :: calls, some c.toList⟩ c)
  | ⟨.toList :: calls, none⟩ => some (.listed who c.toList, s.next who ⟨calls, none⟩ c)
  | ⟨.size :: calls, none⟩ => some (.counted who c.size, s.next who ⟨calls, none⟩ c)

/-- The clients act as their turns come; one that has nothing to do passes. -/
def run (s : Shared ι) : List ι → List (Event ι) × Shared ι
  | [] => ([], s)
  | who :: turns =>
    match s.act who with
    | none => s.run turns
    | some (e, t) => (e :: (t.run turns).1, (t.run turns).2)

end Shared

/-! ### Steps -/

section Steps
variable {ι : Type} {who : ι} {client client' : Client} {e : Event ι}

/-- What a client does by itself, whatever the answers are. -/
inductive Client.Moves (who : ι) : Client → Event ι → Client → Prop
  | add (i : Issue) (calls : List Call) : Moves who ⟨.add i :: calls, none⟩ (.appended who [i]) ⟨calls, none⟩
  | read (batch : List Issue) (calls : List Call) :
      Moves who ⟨.extend batch :: calls, none⟩ (.read who batch) ⟨.extend batch :: calls, some batch⟩
  | readSelf (xs : List Issue) (calls : List Call) :
      Moves who ⟨.extendSelf :: calls, none⟩ (.listed who xs) ⟨.extendSelf :: calls, some xs⟩
  | append (call : Call) (batch : List Issue) (calls : List Call) :
      Moves who ⟨call :: calls, some batch⟩ (.appended who batch) ⟨calls, none⟩
  | toList (xs : List Issue) (calls : List Call) : Moves who ⟨.toList :: calls, none⟩ (.listed who xs) ⟨calls, none⟩
  | size (n : Nat) (calls : List Call) : Moves who ⟨.size :: calls, none⟩ (.counted who n) ⟨calls, none⟩

theorem Client.Moves.who_eq (moves : Client.Moves who client e client') : e.who = who := by
  cases moves <;> rfl

namespace Event

theorem appends_append (xs ys : List (Event ι)) : appends (xs ++ ys) = appends xs ++ appends ys :=
  List.filterMap_append

theorem contents_append (xs ys : List (Event ι)) : contents (xs ++ ys) = contents xs ++ contents ys := by
  rw [contents, appends_append, List.map_append, List.flatten_append]
  rfl

theorem contents_prefix_append (xs ys : List (Event ι)) : contents xs <+: contents (xs ++ ys) := by
  rw [contents_append]
  exact List.prefix_append _ _

theorem contents_appended (who : ι) (batch : List Issue) : contents [appended who batch] = batch :=
  List.append_nil batch

theorem length_of_tells {e : Event ι} {xs : List Issue} (h : e.Tells xs) {n : Nat} (hn : e.length? = some n) : n = xs.length := by
  cases e with
  | listed who ys => rw [← Option.some.inj hn, show ys = xs from h]
  | counted who k => rw [← Option.some.inj hn, show k = xs.length from h]
  | appended | read => cases hn

/-- The longer a run lasts, the longer are the answers. -/
theorem pairwise_lengths {events : List (Event ι)}
    (answers : ∀ past e rest, events = past ++ e :: rest → e.Tells (contents past)) :
    (events.filterMap length?).Pairwise (· ≤ ·) := by
  rw [List.pairwise_filterMap]
  induction events using List.reverseRecOn with
  | nil => exact .nil
  | append_singleton events last ih =>
    rw [List.pairwise_append]
    refine ⟨ih fun past e rest split => answers past e (rest ++ [last]) (by simp [split]), List.pairwise_singleton _ _, ?_⟩
    intro e he f hf m hm n hn
    rw [List.mem_singleton.mp hf] at hn
    obtain ⟨past, rest, rfl⟩ := List.append_of_mem he
    have first : m = (contents past).length := length_of_tells (answers past e (rest ++ [last]) (by simp)) hm
    have second : n = (contents (past ++ e :: rest)).length := length_of_tells (answers _ last [] rfl) hn
    rw [first, second]
    exact (contents_prefix_append past (e :: rest)).length_le

end Event

/-- All that a step can do: the client moves on, what it is told is right, and what it appends comes behind the
contents. -/
theorem Shared.act_eq_some [DecidableEq ι] {s t : Shared ι} (h : s.act who = some (e, t)) :
    e.Tells s.collector.toList ∧ t.collector.toList = s.collector.toList ++ Event.contents [e] ∧
      ∃ client, Client.Moves who (s.clients who) e client ∧ t.clients = Function.update s.clients who client := by
  unfold act at h
  split at h
  · cases h
  · next own =>
    cases h
    rw [own, Event.contents_appended]
    exact ⟨trivial, rfl, _, .append _ _ _, rfl⟩
  · next own =>
    cases h
    rw [own, Event.contents_appended]
    exact ⟨trivial, rfl, _, .add _ _, rfl⟩
  · next own =>
    cases h
    rw [own]
    exact ⟨trivial, (List.append_nil _).symm, _, .read _ _, rfl⟩
  · next own =>
    cases h
    rw [own]
    exact ⟨rfl, (List.append_nil _).symm, _, .readSelf _ _, rfl⟩
  · next own =>
    cases h
    rw [own]
    exact ⟨rfl, (List.append_nil _).symm, _, .toList _ _, rfl⟩
  · next own =>
    cases h
    rw [own]
    exact ⟨rfl, (List.append_nil _).symm, _, .size _ _, rfl⟩

/-! ### Calls -/

/-- The events of one call. A batch is read before it is appended. -/
inductive Call.Makes (who : ι) : Call → List (Event ι) → Prop
  | add (i : Issue) : Makes who (.add i) [.appended who [i]]
  | extend (batch : List Issue) : Makes who (.extend batch) [.read who batch, .appended who batch]
  | extendSelf (xs : List Issue) : Makes who .extendSelf [.listed who xs, .appended who xs]
  | toList (xs : List Issue) : Makes who .toList [.listed who xs]
  | size (n : Nat) : Makes who .size [.counted who n]

/-- The events of a call that is not yet done. -/
inductive Client.Begun (who : ι) : Client → List (Event ι) → Prop
  | idle (calls : List Call) : Begun who ⟨calls, none⟩ []
  | read (batch : List Issue) (calls : List Call) : Begun who ⟨.extend batch :: calls, some batch⟩ [.read who batch]
  | readSelf (xs : List Issue) (calls : List Call) : Begun who ⟨.extendSelf :: calls, some xs⟩ [.listed who xs]

/-- A client has made the first calls of its program, and these are its events. -/
def Client.Follows (who : ι) (program : List Call) (own : List (Event ι)) (client : Client) : Prop :=
  ∃ made blocks begun, program = made ++ client.calls ∧ List.Forall₂ (Call.Makes who) made blocks ∧
    Client.Begun who client begun ∧ own = blocks.flatten ++ begun

/-- A call that was the next one is done with its last event. -/
theorem follows_of_makes {made calls : List Call} {blocks : List (List (Event ι))} {begun : List (Event ι)} {call : Call}
    (makes : List.Forall₂ (Call.Makes who) made blocks) (last : call.Makes who (begun ++ [e])) :
    Client.Follows who (made ++ call :: calls) (blocks.flatten ++ begun ++ [e]) ⟨calls, none⟩ := by
  refine ⟨made ++ [call], blocks ++ [begun ++ [e]], [], by simp, ?_, .idle calls, by simp⟩
  exact List.rel_append makes (.cons last .nil)

theorem Client.Follows.moves {program : List Call} {own : List (Event ι)} (follows : Client.Follows who program own client)
    (moves : Client.Moves who client e client') : Client.Follows who program (own ++ [e]) client' := by
  obtain ⟨made, blocks, begun, rfl, makes, begins, rfl⟩ := follows
  cases moves with
  | add i calls =>
    cases begins
    exact follows_of_makes makes (.add i)
  | toList xs calls =>
    cases begins
    exact follows_of_makes makes (.toList xs)
  | size n calls =>
    cases begins
    exact follows_of_makes makes (.size n)
  | append call batch calls =>
    cases begins with
    | read => exact follows_of_makes makes (.extend batch)
    | readSelf => exact follows_of_makes makes (.extendSelf batch)
  | read batch calls =>
    cases begins
    exact ⟨made, blocks, [.read who batch], rfl, makes, .read batch calls, by simp⟩
  | readSelf xs calls =>
    cases begins
    exact ⟨made, blocks, [.listed who xs], rfl, makes, .readSelf xs calls, by simp⟩

theorem Client.Follows.done {program : List Call} {own : List (Event ι)} (follows : Client.Follows who program own client)
    (done : client.calls = []) : ∃ blocks, List.Forall₂ (Call.Makes who) program blocks ∧ own = blocks.flatten := by
  obtain ⟨made, blocks, begun, rfl, makes, begins, rfl⟩ := follows
  cases begins with
  | idle calls =>
    cases done
    exact ⟨blocks, by rwa [List.append_nil], List.append_nil _⟩
  | read | readSelf => cases done

end Steps

/-! ### Runs -/

namespace Shared
variable {ι : Type} [DecidableEq ι] {programs : ι → List Call} {s t : Shared ι} {events : List (Event ι)} {e : Event ι}
  {who : ι}

/-- What the events tell of the clients and of the collector. -/
structure Explained (programs : ι → List Call) (events : List (Event ι)) (s : Shared ι) : Prop where
  contents : s.collector.toList = Event.contents events
  answers : ∀ past e rest, events = past ++ e :: rest → e.Tells (Event.contents past)
  clients : ∀ who, (s.clients who).Follows who (programs who) (events.filter (·.who = who))

theorem explained_start (programs : ι → List Call) : Explained programs [] (start programs) where
  contents := rfl
  answers past e rest h := by simp at h
  clients who := ⟨[], [], [], rfl, .nil, .idle _, rfl⟩

theorem Explained.act (h : Explained programs events s) (acts : s.act who = some (e, t)) :
    Explained programs (events ++ [e]) t := by
  obtain ⟨tells, contents, client, moves, clients⟩ := act_eq_some acts
  constructor
  · rw [contents, h.contents, Event.contents_append]
  · intro past f rest split
    rcases List.eq_nil_or_concat rest with rfl | ⟨rest, last, rfl⟩
    · obtain ⟨rfl, same⟩ := List.append_inj' split rfl
      cases same
      rwa [← h.contents]
    · rw [List.concat_eq_append, ← List.cons_append, ← List.append_assoc] at split
      exact h.answers past f rest (List.append_inj' split rfl).1
  · intro other
    rw [clients, List.filter_append]
    by_cases same : other = who
    · subst same
      rw [Function.update_self, List.filter_singleton, moves.who_eq]
      simpa using (h.clients other).moves moves
    · rw [Function.update_of_ne same, List.filter_singleton, moves.who_eq]
      simpa [Ne.symm same] using h.clients other

theorem Explained.run (h : Explained programs events s) (turns : List ι) :
    Explained programs (events ++ (s.run turns).1) (s.run turns).2 := by
  induction turns generalizing events s with
  | nil => rwa [Shared.run, List.append_nil]
  | cons who turns ih =>
    rw [Shared.run]
    cases acts : s.act who with
    | none => exact ih h
    | some next =>
      obtain ⟨e, t⟩ := next
      have rest := ih (h.act acts)
      rwa [List.append_assoc] at rest

theorem explained_run (programs : ι → List Call) (turns : List ι) :
    Explained programs ((start programs).run turns).1 ((start programs).run turns).2 :=
  (explained_start programs).run turns

end Shared

/-! ### Every run can be finished -/

section Finishing
variable {ι : Type}

/-- A bound for the steps that a client has before it. -/
def Client.left : Client → Nat
  | ⟨calls, none⟩ => 2 * calls.length + 1
  | ⟨calls, some _⟩ => 2 * calls.length

theorem Client.Moves.left_lt {who : ι} {client client' : Client} {e : Event ι} (moves : Client.Moves who client e client') :
    client'.left < client.left := by
  cases moves
  all_goals
    simp only [Client.left, List.length_cons]
    omega

namespace Shared
variable [DecidableEq ι] {s t : Shared ι} {who : ι} {e : Event ι}

/-- No client has to wait for another. -/
theorem isSome_act (busy : (s.clients who).calls ≠ []) : (s.act who).isSome := by
  unfold act
  split
  · next idle => simp [idle] at busy
  all_goals rfl

theorem left_act [Fintype ι] (acts : s.act who = some (e, t)) :
    ∑ other, (t.clients other).left < ∑ other, (s.clients other).left := by
  obtain ⟨_, _, client, moves, clients⟩ := act_eq_some acts
  refine Finset.sum_lt_sum (fun other _ => ?_) ⟨who, Finset.mem_univ who, ?_⟩
  · rw [clients]
    by_cases same : other = who
    · subst same
      rw [Function.update_self]
      exact moves.left_lt.le
    · rw [Function.update_of_ne same]
  · rw [clients, Function.update_self]
    exact moves.left_lt

/-- Finitely many clients can always come to an end, wherever they are. -/
theorem exists_finished [Fintype ι] (s : Shared ι) : ∃ turns, (s.run turns).2.Finished := by
  by_cases finished : s.Finished
  · exact ⟨[], finished⟩
  · obtain ⟨who, busy⟩ := not_forall.mp finished
    obtain ⟨⟨e, t⟩, acts⟩ := Option.isSome_iff_exists.mp (isSome_act busy)
    obtain ⟨turns, done⟩ := exists_finished t
    refine ⟨who :: turns, ?_⟩
    rw [run, acts]
    exact done
termination_by ∑ who, (s.clients who).left
decreasing_by exact left_act acts

theorem run_append (s : Shared ι) (turns more : List ι) : (s.run (turns ++ more)).2 = ((s.run turns).2.run more).2 := by
  induction turns generalizing s with
  | nil => rfl
  | cons who turns ih =>
    rw [List.cons_append, run, run]
    cases s.act who with
    | none => exact ih s
    | some next => exact ih next.2

/-- However far the clients have come, no order of their steps keeps them from finishing. -/
theorem exists_more_finished [Fintype ι] (s : Shared ι) (turns : List ι) : ∃ more, (s.run (turns ++ more)).2.Finished := by
  obtain ⟨more, done⟩ := exists_finished (s.run turns).2
  exact ⟨more, by rwa [run_append]⟩

end Shared

end Finishing

/-! ### Batches -/

section Batches
variable {ι : Type} {who : ι}

/-- What a call adds, where a batch that is read from the collector is an answer that was given. -/
inductive Call.Supplies (answered : List Issue → Prop) : Call → List Issue → Prop
  | add (i : Issue) : Supplies answered (.add i) [i]
  | extend (batch : List Issue) : Supplies answered (.extend batch) batch
  | extendSelf {xs : List Issue} (h : answered xs) : Supplies answered .extendSelf xs

theorem supplies_of_makes {program : List Call} {blocks : List (List (Event ι))}
    (makes : List.Forall₂ (Call.Makes who) program blocks) {answered : List Issue → Prop}
    (h : ∀ xs, .listed who xs ∈ blocks.flatten → answered xs) :
    List.Forall₂ (Call.Supplies answered) (program.filter Call.adds)
      ((Event.appends blocks.flatten).map (·.2)) := by
  induction makes with
  | nil => exact .nil
  | @cons call block program blocks first _ ih =>
    have rest := ih fun xs hxs => h xs (by simp only [List.flatten_cons, List.mem_append, hxs, or_true])
    rw [List.flatten_cons, Event.appends_append, List.map_append]
    cases first with
    | add i => exact .cons (.add i) rest
    | extend batch => exact .cons (.extend batch) rest
    | extendSelf xs => exact .cons (.extendSelf (h xs (by simp))) rest
    | toList | size => exact rest

theorem filter_appends [DecidableEq ι] (who : ι) (events : List (Event ι)) :
    (Event.appends events).filter (·.1 = who) = Event.appends (events.filter (·.who = who)) := by
  rw [Event.appends, Event.appends, List.filter_filterMap, List.filterMap_filter]
  congr 1
  funext e
  cases e with
  | appended other batch => by_cases same : other = who <;> simp [Event.who, same]
  | _ => simp

end Batches

namespace Shared
variable {ι : Type} [DecidableEq ι]

/-- The clients can finish from wherever they are, and whatever the order of their steps was, they leave a collector whose
contents are their batches: each batch is whole, those of one client are in the order of its calls, one for each call that
adds, and there are no others. The events of a client are those of its calls, one after the other. Each answer is what the
contents were at that moment, so that it is a prefix of the final contents, or the length of one, and no answer is longer
than a later one. -/
theorem run_linearizable [Fintype ι] (programs : ι → List Call) (turns : List ι) :
    (∃ more, ((start programs).run (turns ++ more)).2.Finished) ∧
    (((start programs).run turns).2.Finished →
      let events := ((start programs).run turns).1
      let final := ((start programs).run turns).2.collector.toList
      let order := Event.appends events
      (final = (order.map (·.2)).flatten ∧
        ∀ who, List.Forall₂ (Call.Supplies fun xs => .listed who xs ∈ events) ((programs who).filter Call.adds)
          ((order.filter (·.1 = who)).map (·.2))) ∧
        (∀ who, ∃ blocks, List.Forall₂ (Call.Makes who) (programs who) blocks ∧
          events.filter (·.who = who) = blocks.flatten) ∧
        (∀ past e rest, events = past ++ e :: rest → e.Tells (Event.contents past)) ∧
        (∀ who xs, .listed who xs ∈ events → xs <+: final) ∧
        (∀ who n, .counted who n ∈ events → ∃ xs, xs <+: final ∧ n = xs.length) ∧
        (events.filterMap Event.length?).Pairwise (· ≤ ·)) := by
  refine ⟨exists_more_finished _ turns, ?_⟩
  intro finished events final order
  obtain ⟨contents, answers, clients⟩ : Explained programs events _ := explained_run programs turns
  have blocks who := (clients who).done (finished who)
  have answered : ∀ e ∈ events, ∃ xs, xs <+: final ∧ e.Tells xs := by
    intro e he
    obtain ⟨past, rest, split⟩ := List.append_of_mem he
    refine ⟨Event.contents past, ?_, answers past e rest split⟩
    rw [show final = Event.contents events from contents, split]
    exact Event.contents_prefix_append past (e :: rest)
  refine ⟨⟨contents, fun who => ?_⟩, blocks, answers, ?_, ?_, Event.pairwise_lengths answers⟩
  · obtain ⟨blocks, makes, own⟩ := blocks who
    rw [filter_appends, own]
    refine supplies_of_makes makes fun xs hxs => ?_
    rw [← own] at hxs
    exact List.mem_of_mem_filter hxs
  · intro who xs hxs
    obtain ⟨ys, hys, tells⟩ := answered _ hxs
    rwa [show xs = ys from tells]
  · intro who n hn
    obtain ⟨ys, hys, tells⟩ := answered _ hn
    exact ⟨ys, hys, tells⟩

/-- One client adds an issue and then extends the collector by itself, another adds an issue and counts. -/
def twoClients : Bool → List Call
  | false => [.add ⟨"A.java", 1, "", ""⟩, .extendSelf]
  | true => [.add ⟨"B.java", 2, "", ""⟩, .size]

/-- The second issue comes in between reading and appending: it is not in the batch, and the batch is behind it. -/
theorem run_linearizable_twoClients :
    let run := (start twoClients).run [false, false, true, false, true]
    run.2.Finished ∧ run.2.collector.toList.map (·.line) = [1, 2, 1] ∧ run.1.filterMap Event.length? = [1, 3] ∧
      (run.1.filterMap Event.length?).Pairwise (· ≤ ·) := by
  have finished : ((start twoClients).run [false, false, true, false, true]).2.Finished := by
    simp only [Finished, Bool.forall_bool]
    decide
  exact ⟨finished, by decide, by decide, ((run_linearizable twoClients _).2 finished).2.2.2.2.2⟩

end Shared

end LogReview.Collector
