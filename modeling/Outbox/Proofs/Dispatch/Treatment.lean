import Outbox.Proofs.Order
import Outbox.Proofs.Site

/-!
# What a run makes of each record

While no call of the store fails, a run defers a record, sends it, or fails to send it. Which of
these it does depends on what is remembered of that record's deliveries and on the broker, and it
touches nothing under any other identifier. So the run makes of each record what it would make of
that record alone.

`Site.treatment` says what a run makes of a record, from the site as it is before the run.
`Site.Treated` relates the sites before and after some records have been treated, by what is found
under every identifier. The deliveries that a run has loaded shrink as it goes on; for the records
that are left they agree with the store at all times.
-/

namespace Outbox

open Calendar

/-- What a run makes of a record. -/
inductive Treatment
  | deferred
  | sent (envelope : Envelope)
  | failed (error : DispatchError)

namespace Treatment

/-- The record afterwards. -/
def record (now : Timestamp) (record : EventRecord) : Treatment → EventRecord
  | .sent _ => { record with status := .sent, updated := now }
  | _ => record

/-- What is remembered of the record's deliveries afterwards. -/
def delivery? (policy : RetryPolicy) (now : Timestamp) (event : Identifier)
    (previous : Option Delivery) : Treatment → Option Delivery
  | .deferred => previous
  | .sent _ => none
  | .failed error => policy.recordFailure? previous event error.message now

/-- What is published of the record. -/
def envelopes : Treatment → List Envelope
  | .sent envelope => [envelope]
  | _ => []

end Treatment

/-- What is remembered of a failure counts it on top of the ones before, keeps its message, and says
when and whether the record may be tried again. -/
theorem RetryPolicy.of_recordFailure? {policy : RetryPolicy} {previous : Option Delivery}
    {event : Identifier} {error : String} {now : Timestamp} {delivery : Delivery}
    (remembered : policy.recordFailure? previous event error now = some delivery) :
    delivery.attempts = min ((previous.map Delivery.attempts).getD 0 + 1) mostAttempts ∧
      delivery.lastError = error ∧
      now.add? (policy.waitingSpan delivery.attempts) = some delivery.nextAttemptAt ∧
      delivery.parked = policy.shouldPark delivery.attempts := by
  rw [recordFailure?, Option.map_eq_some_iff] at remembered
  obtain ⟨nextAttemptAt, added, rfl⟩ := remembered
  exact ⟨rfl, rfl, added, rfl⟩

/-- A remembered failure goes by the identifier of the record. -/
theorem RetryPolicy.event_of_recordFailure? {policy : RetryPolicy} {previous : Option Delivery}
    {event : Identifier} {error : String} {now : Timestamp} {delivery : Delivery}
    (remembered : policy.recordFailure? previous event error now = some delivery) :
    delivery.event = event := by
  rw [recordFailure?, Option.map_eq_some_iff] at remembered
  obtain ⟨nextAttemptAt, _, rfl⟩ := remembered
  rfl

namespace Site

/-- No call of the store fails unless the operation itself does. -/
structure Sound (site : Site) : Prop where
  available : site.store.available = true
  faultless : ∀ operation, site.faults.plan operation = none

/-- What a run makes of a record at a site where no call of the store fails. -/
def treatment (site : Site) (sending : Sending) (now : Timestamp) (record : EventRecord) :
    Treatment :=
  if (site.store.deliveries.find? record.id).any fun delivery => !delivery.isDue now then .deferred
  else
    match site.verdict sending record with
    | .ok envelope => .sent envelope
    | .error error => .failed error

/-- How a site differs after records have been treated, by what is found under each identifier. The
report is left out here, since it is counted along the run. -/
structure Treated (sending : Sending) (policy : RetryPolicy) (now : Timestamp) (before : Site)
    (records : List EventRecord) (after : Site) : Prop where
  sound : after.Sound
  broker : after.broker = { before.broker with
    published := before.broker.published ++
      records.flatMap fun record => (before.treatment sending now record).envelopes }
  outage : after.outage = before.outage
  own : ∀ record ∈ records,
    after.store.records.find? record.id =
      some ((before.treatment sending now record).record now record) ∧
    after.store.deliveries.find? record.id =
      (before.treatment sending now record).delivery? policy now record.id
        (before.store.deliveries.find? record.id)
  others : ∀ event, (∀ record ∈ records, record.id ≠ event) →
    after.store.records.find? event = before.store.records.find? event ∧
    after.store.deliveries.find? event = before.store.deliveries.find? event

variable {sending : Sending} {policy : RetryPolicy} {now : Timestamp} {site : Site}

/-! ## Calls that do not fail -/

/-- At a sound site every call reaches the store, and is counted. -/
theorem Sound.call (sound : site.Sound) (call : StoreCall) :
    site.call call = ((site.store.call call).1,
      { site with
        store := (site.store.call call).2
        faults := site.faults.count call.operation }) := by
  have planless : (site.faults.count call.operation).plan call.operation = none :=
    sound.faultless call.operation
  rw [Site.call, Faults.call]
  simp only [planless]

/-- At a sound site a pending record can be marked as sent. -/
theorem Sound.markSent (sound : site.Sound) {record : EventRecord}
    (stored : site.store.records.find? record.id = some record)
    (pending : record.status = .pending) :
    site.answer sending (.markSent record.id now) = (.ok (), { site with
      store := { site.store with
        records := site.store.records.put { record with status := .sent, updated := now } }
      faults := site.faults.count .updateStatus }) := by
  have updated : site.store.updateStatus record.id .sent now = .ok { site.store with
      records := site.store.records.put { record with status := .sent, updated := now } } := by
    simp [MemoryStore.updateStatus, MemoryStore.whenAvailable, sound.available, stored,
      EventRecord.transition, EventStatus.mayBecome, pending]
  change site.call (.updateStatus record.id .sent now) = _
  rw [sound.call, MemoryStore.call, updated]
  rfl

/-- At a sound site a delivery can be forgotten. -/
theorem Sound.clearDelivery (sound : site.Sound) (event : Identifier) :
    site.answer sending (.clearDelivery event) = (.ok (), { site with
      store := { site.store with deliveries := site.store.deliveries.erase event }
      faults := site.faults.count .clearDelivery }) := by
  have cleared : site.store.clearDelivery event =
      .ok { site.store with deliveries := site.store.deliveries.erase event } := by
    simp [MemoryStore.clearDelivery, MemoryStore.whenAvailable, sound.available]
  change site.call (.clearDelivery event) = _
  rw [sound.call, MemoryStore.call, cleared]
  rfl

/-- At a sound site a delivery can be remembered. -/
theorem Sound.saveDelivery (sound : site.Sound) (delivery : Delivery) :
    site.answer sending (.saveDelivery delivery) = (.ok (), { site with
      store := { site.store with deliveries := site.store.deliveries.put delivery }
      faults := site.faults.count .saveDelivery }) := by
  have saved : site.store.saveDelivery delivery =
      .ok { site.store with deliveries := site.store.deliveries.put delivery } := by
    simp [MemoryStore.saveDelivery, MemoryStore.whenAvailable, sound.available]
  change site.call (.saveDelivery delivery) = _
  rw [sound.call, MemoryStore.call, saved]
  rfl

/-! ## One record after the other -/

/-- The verdict on a record depends on the way to the broker and on what the broker answers, but not
on what it has accepted so far. -/
theorem verdict_congr {other : Site} (outage : other.outage = site.outage)
    (published : List Envelope) (broker : other.broker = { site.broker with published })
    (record : EventRecord) : other.verdict sending record = site.verdict sending record := by
  rw [verdict, verdict]
  cases sending.sender.envelope sending.names record with
  | error error => rfl
  | ok envelope =>
    simp only [push, outage, broker, MemoryBroker.push, MemoryBroker.send,
      MemoryBroker.answersWithin]
    cases site.outage with
    | some error => rfl
    | none =>
      by_cases inTime : (site.broker.latency.getD .zero).nanos ≤ sending.patience.nanos
      · by_cases rejected : envelope.eventId ∈ site.broker.failing
        · simp [inTime, rejected, Except.map, Except.mapError]
        · simp [inTime, rejected, Except.map, Except.mapError]
      · simp [inTime, Except.map]

/-- Without records nothing happens to the store and the broker, though calls may be counted. -/
theorem Treated.nil {after : Site} (sound : after.Sound) (store : after.store = site.store)
    (broker : after.broker = site.broker) (outage : after.outage = site.outage) :
    Treated sending policy now site [] after := by
  constructor
  · exact sound
  · simp [broker]
  · exact outage
  · intro record member
    cases member
  · intro event _
    rw [store]
    exact ⟨rfl, rfl⟩

/-- What is made of a record does not depend on the records treated before. -/
theorem Treated.treatment_eq {records : List EventRecord} {after : Site}
    (treated : Treated sending policy now site records after) {record : EventRecord}
    (foreign : ∀ other ∈ records, other.id ≠ record.id) :
    after.treatment sending now record = site.treatment sending now record := by
  rw [treatment, treatment, (treated.others record.id foreign).2,
    verdict_congr treated.outage _ treated.broker]

/-- Treating records and then others under different identifiers is treating all of them. The
treatment of the others is the same at either site, since nothing it depends on has changed. -/
theorem Treated.append {first second : List EventRecord} {middle after : Site}
    (firstTreated : Treated sending policy now site first middle)
    (secondTreated : Treated sending policy now middle second after)
    (distinct : ∀ left ∈ first, ∀ right ∈ second, left.id ≠ right.id) :
    Treated sending policy now site (first ++ second) after := by
  have same : ∀ record ∈ second,
      middle.treatment sending now record = site.treatment sending now record := by
    intro record member
    apply firstTreated.treatment_eq
    intro other inside
    exact distinct other inside record member
  constructor
  · exact secondTreated.sound
  · have envelopes : (second.flatMap fun record =>
        (middle.treatment sending now record).envelopes) =
        second.flatMap fun record => (site.treatment sending now record).envelopes := by
      rw [List.flatMap_def, List.flatMap_def]
      congr 1
      apply List.map_congr_left
      intro record member
      rw [same record member]
    rw [secondTreated.broker, firstTreated.broker, envelopes, List.flatMap_append,
      List.append_assoc]
  · exact secondTreated.outage.trans firstTreated.outage
  · intro record member
    rcases List.mem_append.mp member with inFirst | inSecond
    · obtain ⟨records, deliveries⟩ := firstTreated.own record inFirst
      have foreign : ∀ other ∈ second, other.id ≠ record.id := by
        intro other inside equal
        exact distinct record inFirst other inside equal.symm
      obtain ⟨recordsKept, deliveriesKept⟩ := secondTreated.others record.id foreign
      exact ⟨recordsKept.trans records, deliveriesKept.trans deliveries⟩
    · obtain ⟨records, deliveries⟩ := secondTreated.own record inSecond
      have foreign : ∀ other ∈ first, other.id ≠ record.id := by
        intro other inside
        exact distinct other inside record inSecond
      rw [same record inSecond] at records deliveries
      rw [(firstTreated.others record.id foreign).2] at deliveries
      exact ⟨records, deliveries⟩
  · intro event foreign
    have inFirst : ∀ record ∈ first, record.id ≠ event := by
      intro record member
      exact foreign record (List.mem_append_left second member)
    have inSecond : ∀ record ∈ second, record.id ≠ event := by
      intro record member
      exact foreign record (List.mem_append_right first member)
    obtain ⟨recordsFirst, deliveriesFirst⟩ := firstTreated.others event inFirst
    obtain ⟨recordsSecond, deliveriesSecond⟩ := secondTreated.others event inSecond
    exact ⟨recordsSecond.trans recordsFirst, deliveriesSecond.trans deliveriesFirst⟩

/-- A single record has been treated when the look-ups under its identifier are those of its
treatment and all other look-ups are as before. -/
theorem Treated.single {record : EventRecord} {after : Site} (sound : after.Sound)
    (broker : after.broker = { site.broker with
      published := site.broker.published ++ (site.treatment sending now record).envelopes })
    (outage : after.outage = site.outage)
    (records : ∀ event, after.store.records.find? event =
      if event = record.id then some ((site.treatment sending now record).record now record)
      else site.store.records.find? event)
    (deliveries : ∀ event, after.store.deliveries.find? event =
      if event = record.id then (site.treatment sending now record).delivery? policy now record.id
        (site.store.deliveries.find? record.id)
      else site.store.deliveries.find? event) :
    Treated sending policy now site [record] after := by
  constructor
  · exact sound
  · simpa using broker
  · exact outage
  · intro other member
    rw [List.mem_singleton.mp member]
    exact ⟨(records record.id).trans (if_pos rfl), (deliveries record.id).trans (if_pos rfl)⟩
  · intro event foreign
    have differs : event ≠ record.id := (foreign record List.mem_cons_self).symm
    exact ⟨(records event).trans (if_neg differs), (deliveries event).trans (if_neg differs)⟩

end Site

end Outbox
