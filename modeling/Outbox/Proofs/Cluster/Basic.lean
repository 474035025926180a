import Mathlib.Logic.Function.Basic
import Outbox.Proofs.Dispatch.Order
import Outbox.Proofs.Site

/-!
# Clusters

Any number of dispatchers, retention jobs, producers and operators share one site. What they do is a
list of moves, and a move is one call of the store or one delivery to the broker, so the moves of
several dispatch runs may come in any order. Whether a dispatcher or a retention job leads is said
anew each time it begins, and between any two moves the store and the broker may start to fail, stop
failing or change how long they take.

A whole dispatch at a site is the special case in which nothing comes between the requests of its
run. `Cluster.RecordStep` lists what a move can do to the records, and later proofs are about these
effects and not about the moves.
-/

namespace Outbox

open Calendar

/-- A dispatcher: as whom and through which handlers it sends, when it tries again, and how long it
waits for the broker. -/
structure Dispatcher where
  sender : Sender
  policy : RetryPolicy
  patience : Duration

/-- How a dispatcher sends under the category names of the moment. -/
def Dispatcher.sending (dispatcher : Dispatcher) (names : CategoryNames) : Sending :=
  ⟨dispatcher.sender, names, dispatcher.patience⟩

namespace Cluster

/-- A dispatch run under way: what is left of it, and whose it is. -/
structure Task where
  dispatcher : Dispatcher
  run : Run

/-- What somebody in a cluster does. Runs and units of work go by numbers. -/
inductive Move
  /-- A dispatcher begins a run. A run that went by the same number is broken off. -/
  | start (number dispatcher : Nat) (isLeader : Bool) (now : Timestamp)
  /-- A run makes its next request, under the category names of the moment. -/
  | advance (number : Nat) (names : CategoryNames)
  /-- A retention job deletes expired records. -/
  | retain (isLeader : Bool) (span : Int) (now : Timestamp)
  /-- A producer stores a record on its own. -/
  | save (record : EventRecord)
  | begin (work : Nat)
  | insert (work : Nat) (record : EventRecord)
  | commit (work : Nat)
  /-- A unit of work is rolled back or dropped. -/
  | abandon (work : Nat)
  /-- An operator asks for another round of attempts. -/
  | requeue (event : Identifier) (now : Timestamp)
  /-- The store and the broker fail from now on as it is said here, and no longer as before. -/
  | disturb (faults : Faults) (available : Bool) (outage : Option BrokerError)
      (failing : List Identifier) (latency : Option Duration)

end Cluster

/-- Dispatchers around a site, with the runs and units of work that are under way. -/
structure Cluster where
  dispatchers : List Dispatcher
  site : Site
  tasks : Nat → Option Cluster.Task
  works : Nat → Option UnitOfWork

namespace Cluster

/-- Dispatchers around a site at which nothing has happened yet. -/
def opened (dispatchers : List Dispatcher) : Cluster where
  dispatchers
  site := .empty
  tasks _ := none
  works _ := none

/-- The records of the store. -/
def records (cluster : Cluster) : Table EventRecord.id := cluster.site.store.records

/-- The envelopes that the broker has accepted. -/
def published (cluster : Cluster) : List Envelope := cluster.site.broker.published

/-- A run goes on with the answer to a request. -/
def resume (cluster : Cluster) (number : Nat) (names : CategoryNames) (dispatcher : Dispatcher)
    (request : Request) (next : request.Answer → Run) : Cluster :=
  let (answer, site) := cluster.site.answer (dispatcher.sending names) request
  { cluster with
    site, tasks := Function.update cluster.tasks number (some ⟨dispatcher, next answer⟩) }

/-- The cluster after a move. To advance a run that is not under way, or to insert into or commit a
unit of work that is not open, changes nothing. -/
def perform (cluster : Cluster) : Move → Cluster
  | .start number dispatcher isLeader now =>
    match cluster.dispatchers[dispatcher]? with
    | none => cluster
    | some dispatcher =>
      let task : Task := ⟨dispatcher, Run.tick dispatcher.policy isLeader now⟩
      { cluster with tasks := Function.update cluster.tasks number (some task) }
  | .advance number names =>
    match cluster.tasks number with
    | none => cluster
    | some ⟨_, .done _⟩ => cluster
    | some ⟨dispatcher, .ask request next⟩ => cluster.resume number names dispatcher request next
  | .retain isLeader span now =>
    { cluster with site := (cluster.site.retainKeeping isLeader span now).2 }
  | .save record => { cluster with site := (cluster.site.call (.save record)).2 }
  | .begin work => { cluster with works := Function.update cluster.works work (some .begin) }
  | .insert work record =>
    let inserted := (cluster.works work).map (·.insert record)
    { cluster with works := Function.update cluster.works work inserted }
  | .commit work =>
    match cluster.works work with
    | none => cluster
    | some unit =>
      let (_, store) := cluster.site.store.changed (unit.commit cluster.site.store)
      { cluster with
        site := { cluster.site with store }
        works := Function.update cluster.works work none }
  | .abandon work => { cluster with works := Function.update cluster.works work none }
  | .requeue event now => { cluster with site := (cluster.site.call (.requeue event now)).2 }
  | .disturb faults available outage failing latency =>
    { cluster with site := {
        store := { cluster.site.store with available }
        broker := { cluster.site.broker with failing, latency }
        faults
        outage } }

/-- The cluster after moves one after the other. -/
def run (cluster : Cluster) (moves : List Move) : Cluster :=
  moves.foldl perform cluster

/-- The records that a move tries to bring into the store. -/
def arriving (cluster : Cluster) : Move → List EventRecord
  | .save record => [record]
  | .commit work => ((cluster.works work).map UnitOfWork.staged).getD []
  | _ => []

/-! ## What a move does to the records -/

/-- The effects that a move can have on the records: none; new records come in together; a record
for which a run is about to report that it was sent becomes sent; or a leading retention job removes
what has expired. -/
inductive RecordStep (before after : Cluster) : Move → Prop
  | kept (move : Move) (records : after.records = before.records) :
      RecordStep before after move
  | entered (move : Move)
      (fresh : ∀ record ∈ before.arriving move, before.records.find? record.id = none)
      (records : after.records = before.records.putAll (before.arriving move)) :
      RecordStep before after move
  | published (number : Nat) (names : CategoryNames) (dispatcher : Dispatcher)
      (event : Identifier) (moment : Timestamp) (next : Except StoreError Unit → Run)
      (record : EventRecord)
      (waiting : before.tasks number = some ⟨dispatcher, .ask (.markSent event moment) next⟩)
      (found : before.records.find? event = some record) (pending : record.status = .pending)
      (records : after.records =
        before.records.put { record with status := .sent, updated := moment }) :
      RecordStep before after (.advance number names)
  | expired (span : Int) (now cutoff : Timestamp)
      (reached : now.add? (-span) = some cutoff)
      (records : after.records =
        before.records.filter fun record => !MemoryStore.expired .sent cutoff record) :
      RecordStep before after (.retain true span now)

/-- A saved record comes in, or the save fails and changes nothing. -/
theorem recordStep_save (cluster : Cluster) (record : EventRecord) :
    RecordStep cluster (cluster.perform (.save record)) (.save record) := by
  rw [perform]
  rcases cluster.site.call_cases (.save record) with ⟨error, faults, failed⟩ | ⟨faults, answered⟩
  · rw [failed]
    exact .kept _ rfl
  · rw [answered, MemoryStore.call]
    rcases cluster.site.store.written_cases (cluster.site.store.save record) with
      ⟨error, _, unchanged⟩ | ⟨next, saved, written⟩
    · rw [unchanged]
      exact .kept _ rfl
    · obtain ⟨fresh, rfl⟩ := MemoryStore.insertAll_ok saved
      rw [written]
      exact .entered _ fresh rfl

/-- The staged records of a unit of work come in together, or the commit fails and changes
nothing. -/
theorem recordStep_commit (cluster : Cluster) (work : Nat) :
    RecordStep cluster (cluster.perform (.commit work)) (.commit work) := by
  rw [perform]
  cases open' : cluster.works work with
  | none => exact .kept _ rfl
  | some unit =>
    have staged : cluster.arriving (.commit work) = unit.staged := by simp [arriving, open']
    dsimp only
    rcases cluster.site.store.changed_cases (unit.commit cluster.site.store) with
      ⟨error, _, unchanged⟩ | ⟨value, next, committed, changed⟩
    · rw [unchanged]
      exact .kept _ rfl
    · rw [changed]
      rw [UnitOfWork.commit] at committed
      cases inserted : cluster.site.store.insertAll unit.staged with
      | error error => simp [inserted, Except.map] at committed
      | ok store =>
        rw [inserted] at committed
        obtain ⟨_, rfl⟩ := Prod.mk.inj (Except.ok.inj committed)
        obtain ⟨fresh, rfl⟩ := MemoryStore.insertAll_ok inserted
        refine .entered _ ?_ ?_
        · rw [staged]
          exact fresh
        · rw [staged]
          rfl

/-- A retention job removes expired sent records when it leads, and otherwise nothing. -/
theorem recordStep_retain (cluster : Cluster) (isLeader : Bool) (span : Int) (now : Timestamp) :
    RecordStep cluster (cluster.perform (.retain isLeader span now))
      (.retain isLeader span now) := by
  rcases cluster.site.retainKeeping_cases isLeader span now with
    idle | ⟨rfl, cutoff, reached, deleting⟩
  · rw [perform, idle]
    exact .kept _ rfl
  · rw [perform, deleting]
    have effect := cluster.site.records_call (.deleteWhere .sent cutoff)
    generalize cluster.site.call (.deleteWhere .sent cutoff) = answered at effect ⊢
    generalize after : answered.2.store.records = remaining at effect
    cases effect with
    | kept _ => exact .kept _ after
    | deleted _ _ => exact .expired span now cutoff reached after

/-- A run's next request changes the records only when it reports a record as sent, and then it
turns that record from pending into sent or fails. -/
theorem recordStep_resume (cluster : Cluster) (number : Nat) (names : CategoryNames)
    (dispatcher : Dispatcher) (request : Request) (next : request.Answer → Run)
    (waiting : cluster.tasks number = some ⟨dispatcher, .ask request next⟩) :
    RecordStep cluster (cluster.resume number names dispatcher request next)
      (.advance number names) := by
  cases request with
  | loadPending => exact .kept _ (cluster.site.records_kept rfl)
  | loadDeliveries => exact .kept _ (cluster.site.records_kept rfl)
  | deliver record =>
    refine .kept _ ?_
    change ((cluster.site.answer (dispatcher.sending names) (.deliver record)).2).store.records = _
    rw [Site.answer_deliver]
    cases cluster.site.verdict (dispatcher.sending names) record <;> rfl
  | markSent event moment =>
    have effect := cluster.site.records_call (.updateStatus event .sent moment)
    generalize after : (cluster.site.call (.updateStatus event .sent moment)).2.store.records =
      remaining at effect
    cases effect with
    | kept _ => exact .kept _ after
    | published _ _ record found pending =>
      exact .published number names dispatcher event moment next record waiting found pending
        after
  | clearDelivery event => exact .kept _ (cluster.site.records_kept rfl)
  | saveDelivery delivery => exact .kept _ (cluster.site.records_kept rfl)

/-- Every move has one of the listed effects on the records. Only a run, a retention job, a save and
a commit come near them. -/
theorem recordStep_perform (cluster : Cluster) (move : Move) :
    RecordStep cluster (cluster.perform move) move := by
  cases move with
  | start number dispatcher isLeader now =>
    rw [perform]
    cases cluster.dispatchers[dispatcher]? <;> exact .kept _ rfl
  | advance number names =>
    rw [perform]
    rcases waiting : cluster.tasks number with _ | ⟨dispatcher, _ | ⟨request, next⟩⟩
    · exact .kept _ rfl
    · exact .kept _ rfl
    · exact recordStep_resume cluster number names dispatcher request next waiting
  | retain isLeader span now => exact recordStep_retain cluster isLeader span now
  | save record => exact recordStep_save cluster record
  | commit work => exact recordStep_commit cluster work
  | requeue event now => exact .kept _ (cluster.site.records_kept rfl)
  | begin work => exact .kept _ rfl
  | insert work record => exact .kept _ rfl
  | abandon work => exact .kept _ rfl
  | disturb faults available outage failing latency => exact .kept _ rfl

/-! ## Moves one after the other -/

/-- Moves that are cut in two lead to where the first ones and then the others lead. -/
theorem run_append (cluster : Cluster) (first second : List Move) :
    cluster.run (first ++ second) = (cluster.run first).run second :=
  List.foldl_append

/-- The first one of some moves is made first. -/
theorem run_cons (cluster : Cluster) (move : Move) (moves : List Move) :
    cluster.run (move :: moves) = (cluster.perform move).run moves := rfl

/-- A run that goes on without any other move in between ends as it does at the site alone.

Induct over the run. Each request that it makes is one move. -/
theorem run_advances (cluster : Cluster) (number : Nat) (names : CategoryNames)
    (dispatcher : Dispatcher) (run : Run)
    (waiting : cluster.tasks number = some ⟨dispatcher, run⟩) :
    ∃ count, ∃ after, cluster.run (List.replicate count (.advance number names)) = after ∧
      (run.execute (Site.answer (dispatcher.sending names)) cluster.site).2 = after.site ∧
      after.tasks number = some ⟨dispatcher,
        .done (run.execute (Site.answer (dispatcher.sending names)) cluster.site).1⟩ := by
  induction run generalizing cluster with
  | done outcome => exact ⟨0, cluster, rfl, rfl, waiting⟩
  | ask request next inductionHypothesis =>
    let answered := cluster.site.answer (dispatcher.sending names) request
    let resumed := cluster.resume number names dispatcher request next
    have moved : cluster.perform (.advance number names) = resumed := by
      rw [perform, waiting]
    have under : resumed.tasks number = some ⟨dispatcher, next answered.1⟩ :=
      Function.update_self ..
    obtain ⟨count, after, reached, site, ended⟩ :=
      inductionHypothesis answered.1 resumed under
    refine ⟨count + 1, after, ?_, site, ended⟩
    rw [List.replicate_succ, run_cons, moved]
    exact reached

/-- A whole dispatch at the site is a sequence of moves: its begin and as many requests as it
makes. -/
theorem dispatch_is_moves (cluster : Cluster) (number index : Nat) (names : CategoryNames)
    (dispatcher : Dispatcher) (member : cluster.dispatchers[index]? = some dispatcher)
    (isLeader : Bool) (now : Timestamp) :
    ∃ count, (cluster.run (.start number index isLeader now ::
        List.replicate count (.advance number names))).site =
      (cluster.site.dispatch (dispatcher.sending names) dispatcher.policy isLeader now).2 := by
  let task : Task := ⟨dispatcher, Run.tick dispatcher.policy isLeader now⟩
  let begun : Cluster :=
    { cluster with tasks := Function.update cluster.tasks number (some task) }
  have started : cluster.perform (.start number index isLeader now) = begun := by
    rw [perform, member]
  obtain ⟨count, after, reached, site, _⟩ :=
    run_advances begun number names dispatcher _ (Function.update_self ..)
  refine ⟨count, ?_⟩
  rw [run_cons, started, reached]
  exact site.symm

end Cluster

end Outbox
