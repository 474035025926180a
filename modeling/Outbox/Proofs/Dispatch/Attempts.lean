import Outbox.Proofs.Dispatch.Ending
import Outbox.Proofs.Dispatch.PerRecord

/-!
# Which records a run tries

A run that completes tries each of its records once, or not at all if the record waits for its next
attempt. At a site the answer to a try does not depend on what the run has done before: whether the
broker accepts a record is the same throughout a run. So what a run at a sound site tries, and with
which success, can be told from the site as it is before the run.
-/

namespace Outbox

open Calendar

/-- The tries that are made of a record in a run. -/
def Treatment.attempts : Treatment → List (Except DispatchError Unit)
  | .deferred => []
  | .sent _ => [.ok ()]
  | .failed error => [.error error]

namespace Run

variable {World : Type} {answer : World → (request : Request) → request.Answer × World}

/-- When a run and the one after it complete together, each of them completes. -/
theorem completed_andThen {run : Run} {next : Report → Run} {world after : World} {final : Report}
    (completed : (run.andThen next).execute answer world = (.completed final, after)) :
    ∃ report later, run.execute answer world = (.completed report, later) ∧
      (next report).execute answer later = (.completed final, after) := by
  by_cases completes : ∃ report, (run.execute answer world).1 = .completed report
  · obtain ⟨report, first⟩ := completes
    have executed : run.execute answer world = (.completed report, (run.execute answer world).2) :=
      Prod.ext first rfl
    exact ⟨report, _, executed, (execute_andThen executed next).symm.trans completed⟩
  · rw [execute_andThen_of_stopped (not_exists.mp completes)] at completed
    exact absurd ⟨final, congrArg Prod.fst completed⟩ completes

/-- A run through records that completes tries each of them once, in the world to which the records
before it have led, or not at all if it waits. -/
theorem attempts_through {policy : RetryPolicy} {now : Timestamp} {records : List EventRecord}
    {deliveries : Table Delivery.event} {report final : Report} {world after : World}
    (distinct : (records.map EventRecord.id).Nodup)
    (completed : (through policy now records deliveries report).execute answer world =
      (.completed final, after)) {record : EventRecord} (member : record ∈ records) :
    ∃ run : Run, attempts record.id
        ((through policy now records deliveries report).exchanges answer world) =
      if (deliveries.find? record.id).any fun delivery => !delivery.isDue now then []
      else [(answer (run.execute answer world).2 (.deliver record)).1] := by
  obtain ⟨earlier, later, rfl⟩ := List.append_of_mem member
  obtain ⟨earlierApart, laterApart, _⟩ := MemoryStore.apart_of_nodup distinct
  rw [through_append] at completed ⊢
  obtain ⟨first, middle, passes, completed⟩ := completed_andThen completed
  rw [through_cons] at completed
  obtain ⟨second, past, treats, completed⟩ := completed_andThen completed
  have none (others : List EventRecord) (apart : ∀ other ∈ others, other.id ≠ record.id)
      (left : Table Delivery.event) (report : Report) (world : World) :
      attempts record.id ((through policy now others left report).exchanges answer world) = [] :=
    attempts_eq_nil ((only_foreign policy now apart left report).request world)
  refine ⟨through policy now earlier deliveries report, ?_⟩
  rw [exchanges_andThen passes, through_cons, exchanges_andThen treats, attempts_append,
    attempts_append, none earlier earlierApart, none later laterApart, attempts_single,
    find?_remaining earlierApart, passes, List.nil_append]
  exact List.append_nil _

end Run

namespace Site

variable {sending : Sending} {policy : RetryPolicy} {now : Timestamp} {site : Site}

/-- A request does not change how the broker answers. What the store is asked leaves the broker
alone, and a delivery adds to what is published at most. -/
theorem broker_answer (site : Site) (sending : Sending) (request : Request) :
    (site.answer sending request).2.outage = site.outage ∧
      ∃ published, (site.answer sending request).2.broker = { site.broker with published } := by
  have ofCall (call : StoreCall) : (site.call call).2.outage = site.outage ∧
      ∃ published, (site.call call).2.broker = { site.broker with published } := by
    rcases site.call_cases call with ⟨error, faults, failed⟩ | ⟨faults, answered⟩
    · rw [failed]
      exact ⟨rfl, site.broker.published, rfl⟩
    · rw [answered]
      exact ⟨rfl, site.broker.published, rfl⟩
  cases request with
  | loadPending => exact ofCall _
  | loadDeliveries => exact ofCall _
  | deliver record =>
    rw [answer_deliver]
    cases site.verdict sending record with
    | ok envelope => exact ⟨rfl, _, rfl⟩
    | error error => exact ⟨rfl, site.broker.published, rfl⟩
  | markSent event moment => exact ofCall _
  | clearDelivery event => exact ofCall _
  | saveDelivery delivery => exact ofCall _

/-- The verdict on a record is the same throughout a run. -/
theorem verdict_execute (run : Run) (site : Site) (record : EventRecord) :
    (run.execute (answer sending) site).2.verdict sending record = site.verdict sending record := by
  induction run generalizing site with
  | done outcome => rfl
  | ask request resume inductionHypothesis =>
    obtain ⟨outage, published, broker⟩ := site.broker_answer sending request
    exact (inductionHypothesis _ _).trans (verdict_congr outage published broker record)

/-- A record that is due is tried once, with the answer of the site. -/
theorem treatment_attempts (record : EventRecord) :
    (site.treatment sending now record).attempts =
      if (site.store.deliveries.find? record.id).any fun delivery => !delivery.isDue now then []
      else [(site.answer sending (.deliver record)).1] := by
  rw [treatment, answer_deliver]
  split
  · rfl
  · cases site.verdict sending record <;> rfl

/-- The site after a run has loaded what is pending and what is remembered. Only the calls of the
store have been counted. -/
def loaded (site : Site) : Site :=
  { site with faults := (site.faults.count .findByStatus).count .deliveryStates }

variable (sending policy now) in
/-- A run that leads at a sound site goes through the pending records as they are stored, each of
them with the delivery that is remembered of it. -/
theorem Sound.tick (sound : site.Sound) :
    (Run.tick policy true now).execute (answer sending) site =
        (Run.through policy now site.pendingRecords site.store.deliveries
          { Report.empty with considered := site.pendingRecords.length }).execute
            (answer sending) site.loaded ∧
      (Run.tick policy true now).exchanges (answer sending) site =
        ⟨.loadPending, .ok site.pendingRecords⟩ :: ⟨.loadDeliveries, .ok site.store.deliveries⟩ ::
          (Run.through policy now site.pendingRecords site.store.deliveries
            { Report.empty with considered := site.pendingRecords.length }).exchanges
              (answer sending) site.loaded := by
  let counted : Site := { site with faults := site.faults.count .findByStatus }
  have countedSound : counted.Sound := ⟨sound.available, sound.faultless⟩
  have loadsPending : site.answer sending .loadPending = (.ok site.pendingRecords, counted) :=
    sound.loadPending
  have ordered : MemoryStore.inOrder site.pendingRecords = site.pendingRecords :=
    MemoryStore.inOrder_inOrder _
  have executed := Run.execute_loaded policy now loadsPending countedSound.loadDeliveries
  rw [ordered] at executed
  exact executed

/-- A run that leads at a sound site makes of each pending record the tries of its treatment, and no
other tries. -/
theorem attempts_tick (sound : site.Sound)
    (withinCalendar : ∀ record ∈ site.pendingRecords,
      WithinCalendar sending policy now site record) :
    (∀ record ∈ site.pendingRecords, attempts record.id
        ((Run.tick policy true now).exchanges (answer sending) site) =
      (site.treatment sending now record).attempts) ∧
    ∀ event, (∀ record ∈ site.pendingRecords, record.id ≠ event) →
      attempts event ((Run.tick policy true now).exchanges (answer sending) site) = [] := by
  obtain ⟨executed, exchanged⟩ := sound.tick sending policy now
  have ofLoads (event : Identifier) : attempts event
      ((Run.tick policy true now).exchanges (answer sending) site) =
        attempts event ((Run.through policy now site.pendingRecords site.store.deliveries
          { Report.empty with considered := site.pendingRecords.length }).exchanges
            (answer sending) site.loaded) := by
    rw [exchanged]
    rfl
  constructor
  · intro record member
    obtain ⟨report, after, completed, _⟩ := dispatch_treats sound withinCalendar
    rw [dispatch, executed] at completed
    obtain ⟨run, tried⟩ := Run.attempts_through site.nodup_pendingRecords completed member
    have outage : site.loaded.outage = site.outage := rfl
    have verdict : (run.execute (answer sending) site.loaded).2.verdict sending record =
        site.verdict sending record :=
      (verdict_execute run site.loaded record).trans
        (verdict_congr outage site.broker.published rfl record)
    rw [ofLoads, tried, treatment_attempts, answer_deliver, answer_deliver, verdict]
    cases site.verdict sending record <;> rfl
  · intro event foreign
    rw [ofLoads]
    exact attempts_eq_nil ((Run.only_foreign policy now foreign _ _).request site.loaded)

end Site

end Outbox
