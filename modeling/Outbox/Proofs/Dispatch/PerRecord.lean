import Mathlib.Data.List.Permutation
import Outbox.Proofs.Dispatch.Treatment

/-!
# A run treats each record on its own

While no call of the store fails, a dispatch run at a site completes and makes of each pending
record what `Site.treatment` says, whatever becomes of the other ones. The run is followed record by
record: for each of the three treatments it is shown which requests are made and what they leave
behind.
-/

namespace Outbox.Site

open Calendar

variable {sending : Sending} {policy : RetryPolicy} {now : Timestamp} {site : Site}
  {record : EventRecord} {deliveries : Table Delivery.event}

/-- Whether the next attempt of a record lies within the calendar in case its delivery fails. -/
def WithinCalendar (sending : Sending) (policy : RetryPolicy) (now : Timestamp) (site : Site)
    (record : EventRecord) : Prop :=
  ∀ error, site.treatment sending now record = .failed error →
    policy.recordFailure? (site.store.deliveries.find? record.id) record.id error.message now ≠ none

/-- What holds of a record that a run has yet to come to: it is stored as it was loaded, and pending,
its next attempt would be within the calendar, and its deliveries are as they were loaded. -/
structure Ready (sending : Sending) (policy : RetryPolicy) (now : Timestamp) (site : Site)
    (deliveries : Table Delivery.event) (record : EventRecord) : Prop where
  stored : site.store.records.find? record.id = some record
  pending : record.status = .pending
  withinCalendar : WithinCalendar sending policy now site record
  loaded : deliveries.find? record.id = site.store.deliveries.find? record.id

/-- What holds of a record that a run has yet to come to still does when others have been treated:
they go by other identifiers. -/
theorem Ready.afterFirst {first : EventRecord} {middle : Site}
    (ready : Ready sending policy now site deliveries record)
    (treated : Treated sending policy now site [first] middle) (foreign : record.id ≠ first.id) :
    Ready sending policy now middle (deliveries.erase first.id) record := by
  have others : ∀ other ∈ [first], other.id ≠ record.id :=
    List.forall_mem_singleton.mpr foreign.symm
  obtain ⟨records, remembered⟩ := treated.others record.id others
  constructor
  · rw [records]
    exact ready.stored
  · exact ready.pending
  · intro error failed
    rw [treated.treatment_eq others] at failed
    rw [remembered]
    exact ready.withinCalendar error failed
  · rw [Table.find?_erase, if_neg foreign, remembered]
    exact ready.loaded

/-- What stays as it is under an identifier is the same everywhere, told apart for this one. -/
theorem eq_ite_of_own {Found : Type} {found : Identifier → Found} {subject : Identifier}
    {own : Found} (same : found subject = own) (event : Identifier) :
    found event = if event = subject then own else found event := by
  by_cases here : event = subject
  · rw [if_pos here, here, same]
  · rw [if_neg here]

/-- Whether a run through records treats the first one and goes on with the other ones, with what is
left of the deliveries. -/
def TreatsFirst (sending : Sending) (policy : RetryPolicy) (now : Timestamp) (site : Site)
    (record : EventRecord) (rest : List EventRecord) (deliveries : Table Delivery.event)
    (report : Report) : Prop :=
  ∃ middle next, Treated sending policy now site [record] middle ∧
    (Run.through policy now (record :: rest) deliveries report).execute (answer sending) site =
      (Run.through policy now rest (deliveries.erase record.id) next).execute (answer sending)
        middle

/-- A record that is not due is passed over. The site is the same afterwards, and the report counts
one more deferred record. -/
theorem execute_deferred (sound : site.Sound)
    (stored : site.store.records.find? record.id = some record)
    (deferred : site.treatment sending now record = .deferred)
    (loaded : deliveries.find? record.id = site.store.deliveries.find? record.id)
    (rest : List EventRecord) (report : Report) :
    TreatsFirst sending policy now site record rest deliveries report := by
  have waits : (site.store.deliveries.find? record.id).any (fun delivery =>
      !delivery.isDue now) = true := by
    by_contra due
    rw [treatment, if_neg due] at deferred
    cases decided : site.verdict sending record <;> simp [decided] at deferred
  refine ⟨site, { report with deferred := report.deferred + 1 }, ?_, ?_⟩
  · apply Treated.single sound
    · simp [deferred, Treatment.envelopes]
    · rfl
    · rw [deferred]
      exact eq_ite_of_own stored
    · rw [deferred]
      exact eq_ite_of_own rfl
  · rw [Run.through, loaded, if_pos waits]

/-- A record that is tried is due. -/
theorem due_of_treatment (tried : site.treatment sending now record ≠ .deferred) :
    ¬(site.store.deliveries.find? record.id).any (fun delivery => !delivery.isDue now) = true := by
  intro waits
  rw [treatment, if_pos waits] at tried
  exact tried rfl

/-- A record that is accepted by the broker is delivered, marked as sent, and what is remembered of
its deliveries is forgotten if there is anything. -/
theorem execute_sent (sound : site.Sound)
    (stored : site.store.records.find? record.id = some record)
    (pending : record.status = .pending) {envelope : Envelope}
    (sent : site.treatment sending now record = .sent envelope)
    (loaded : deliveries.find? record.id = site.store.deliveries.find? record.id)
    (rest : List EventRecord) (report : Report) :
    TreatsFirst sending policy now site record rest deliveries report := by
  have due := due_of_treatment (by rw [sent]; exact Treatment.noConfusion)
  have accepted : site.verdict sending record = .ok envelope := by
    rw [treatment, if_neg due] at sent
    cases decided : site.verdict sending record with
    | error error => simp [decided] at sent
    | ok other => simpa [decided] using sent
  let marked : Site := { site.publish envelope with
    store := { site.store with
      records := site.store.records.put { record with status := .sent, updated := now } }
    faults := site.faults.count .updateStatus }
  have publishedSound : (site.publish envelope).Sound := ⟨sound.available, sound.faultless⟩
  have markedSound : marked.Sound := ⟨sound.available, sound.faultless⟩
  have marks :
      (site.publish envelope).answer sending (.markSent record.id now) = (.ok (), marked) :=
    publishedSound.markSent stored pending
  have recordsAfter : ∀ event, marked.store.records.find? event =
      if event = record.id then some ((site.treatment sending now record).record now record)
      else site.store.records.find? event := by
    intro event
    rw [sent]
    exact Table.find?_put site.store.records { record with status := .sent, updated := now } event
  have brokerAfter : marked.broker = { site.broker with
      published := site.broker.published ++ (site.treatment sending now record).envelopes } := by
    rw [sent]
    rfl
  cases remembered : site.store.deliveries.find? record.id with
  | none =>
    refine ⟨marked, { report with sent := report.sent + 1 }, ?_, ?_⟩
    · apply Treated.single markedSound brokerAfter rfl recordsAfter
      rw [sent]
      exact eq_ite_of_own remembered
    · rw [Run.through, loaded, if_neg due, Run.execute, answer_deliver, accepted]
      simp only [Run.acknowledged, Run.execute, marks, Run.afterWrite, remembered,
        Option.isSome_none, Bool.false_eq_true, if_false]
  | some delivery =>
    let cleared : Site := { marked with
      store := { marked.store with deliveries := marked.store.deliveries.erase record.id }
      faults := marked.faults.count .clearDelivery }
    have clearedSound : cleared.Sound := ⟨sound.available, sound.faultless⟩
    have clears : marked.answer sending (.clearDelivery record.id) = (.ok (), cleared) :=
      markedSound.clearDelivery record.id
    refine ⟨cleared, { report with sent := report.sent + 1 }, ?_, ?_⟩
    · apply Treated.single clearedSound brokerAfter rfl recordsAfter
      intro event
      rw [sent]
      exact Table.find?_erase site.store.deliveries record.id event
    · rw [Run.through, loaded, if_neg due, Run.execute, answer_deliver, accepted]
      simp only [Run.acknowledged, Run.execute, marks, Run.afterWrite, remembered,
        Option.isSome_some, if_true, clears]

/-- A record that is not accepted stays as it is, and the failure is remembered. The time of the
next attempt is within the calendar, so there is a delivery to save. -/
theorem execute_failed (sound : site.Sound)
    (stored : site.store.records.find? record.id = some record) {error : DispatchError}
    (failed : site.treatment sending now record = .failed error)
    (withinCalendar : WithinCalendar sending policy now site record)
    (loaded : deliveries.find? record.id = site.store.deliveries.find? record.id)
    (rest : List EventRecord) (report : Report) :
    TreatsFirst sending policy now site record rest deliveries report := by
  have due := due_of_treatment (by rw [failed]; exact Treatment.noConfusion)
  have refused : site.verdict sending record = .error error := by
    rw [treatment, if_neg due] at failed
    cases decided : site.verdict sending record with
    | error other => simpa [decided] using failed
    | ok envelope => simp [decided] at failed
  obtain ⟨delivery, remembered⟩ := Option.ne_none_iff_exists'.mp (withinCalendar error failed)
  have named : delivery.event = record.id := RetryPolicy.event_of_recordFailure? remembered
  let saved : Site := { site with
    store := { site.store with deliveries := site.store.deliveries.put delivery }
    faults := site.faults.count .saveDelivery }
  have savedSound : saved.Sound := ⟨sound.available, sound.faultless⟩
  have saves : site.answer sending (.saveDelivery delivery) = (.ok (), saved) :=
    sound.saveDelivery delivery
  refine ⟨saved, { report with
    failed := report.failed + 1
    parked := report.parked + if delivery.parked then 1 else 0 }, ?_, ?_⟩
  · apply Treated.single savedSound
    · simp [saved, failed, Treatment.envelopes]
    · rfl
    · rw [failed]
      exact eq_ite_of_own stored
    · intro event
      change (site.store.deliveries.put delivery).find? event = _
      rw [failed, Table.find?_put, named, Treatment.delivery?, remembered]
  · rw [Run.through, loaded, if_neg due, Run.execute, answer_deliver, refused]
    simp only [Run.refused, remembered, Run.execute, saves, Run.afterWrite]

/-- The first of the records that are left is treated, and the run goes on with the other ones. -/
theorem execute_first (sound : site.Sound)
    (ready : Ready sending policy now site deliveries record) (rest : List EventRecord)
    (report : Report) : TreatsFirst sending policy now site record rest deliveries report := by
  obtain ⟨stored, pending, withinCalendar, loaded⟩ := ready
  cases made : site.treatment sending now record with
  | deferred => exact execute_deferred sound stored made loaded rest report
  | sent envelope => exact execute_sent sound stored pending made loaded rest report
  | failed error => exact execute_failed sound stored made withinCalendar loaded rest report

/-- A run through stored pending records completes and treats all of them.

Induct over the records. What was made of the first one leaves the others ready. -/
theorem execute_through (sound : site.Sound) (records : List EventRecord)
    (distinct : (records.map EventRecord.id).Nodup)
    (ready : ∀ record ∈ records, Ready sending policy now site deliveries record)
    (report : Report) :
    ∃ final after, Treated sending policy now site records after ∧
      (Run.through policy now records deliveries report).execute (answer sending) site =
        (.completed final, after) := by
  induction records generalizing site deliveries report with
  | nil => exact ⟨report, site, Treated.nil sound rfl rfl rfl, rfl⟩
  | cons first rest inductionHypothesis =>
    obtain ⟨firstReady, restReady⟩ := List.forall_mem_cons.mp ready
    obtain ⟨apart, restDistinct⟩ := List.nodup_cons.mp distinct
    have foreign : ∀ record ∈ rest, record.id ≠ first.id := by
      intro record member same
      apply apart
      rw [← same]
      exact List.mem_map_of_mem member
    obtain ⟨middle, next, firstTreated, executed⟩ := execute_first sound firstReady rest report
    have stillReady : ∀ record ∈ rest,
        Ready sending policy now middle (deliveries.erase first.id) record := by
      intro record member
      exact (restReady record member).afterFirst firstTreated (foreign record member)
    obtain ⟨final, after, restTreated, finished⟩ :=
      inductionHypothesis firstTreated.sound restDistinct stillReady next
    refine ⟨final, after, ?_, executed.trans finished⟩
    apply Treated.append firstTreated restTreated
    intro left leftMember right rightMember same
    rw [List.mem_singleton.mp leftMember] at same
    exact foreign right rightMember same.symm

/-! ## Whole runs -/

/-- The pending records of a site in the order of delivery. -/
def pendingRecords (site : Site) : List EventRecord :=
  MemoryStore.inOrder (site.store.records.rows.filter fun record => record.status = .pending)

/-- What is listed as pending is what is stored and pending. -/
theorem mem_pendingRecords (site : Site) (record : EventRecord) :
    record ∈ site.pendingRecords ↔
      record ∈ site.store.records.rows ∧ record.status = .pending := by
  rw [pendingRecords, MemoryStore.mem_inOrder, List.mem_filter, decide_eq_true_eq]

/-- No two pending records share an identifier. -/
theorem nodup_pendingRecords (site : Site) :
    (site.pendingRecords.map EventRecord.id).Nodup := by
  have sameIds := (MemoryStore.inOrder_perm
    (site.store.records.rows.filter fun record => record.status = .pending)).map EventRecord.id
  rw [pendingRecords, sameIds.nodup_iff]
  exact site.store.records.distinct.sublist (List.filter_sublist.map EventRecord.id)

/-- At a sound site the pending records can be loaded. -/
theorem Sound.loadPending (sound : site.Sound) :
    site.answer sending .loadPending =
      (.ok site.pendingRecords, { site with faults := site.faults.count .findByStatus }) := by
  have found : site.store.findByStatus .pending = .ok site.pendingRecords := by
    rw [MemoryStore.findByStatus, MemoryStore.whenAvailable, if_pos sound.available]
    rfl
  change site.call (.findByStatus .pending) = _
  rw [sound.call, MemoryStore.call, found]
  rfl

/-- At a sound site the deliveries can be loaded. -/
theorem Sound.loadDeliveries (sound : site.Sound) :
    site.answer sending .loadDeliveries =
      (.ok site.store.deliveries, { site with faults := site.faults.count .deliveryStates }) := by
  have found : site.store.deliveryStates = .ok site.store.deliveries := by
    rw [MemoryStore.deliveryStates, MemoryStore.whenAvailable, if_pos sound.available]
  change site.call .deliveryStates = _
  rw [sound.call, MemoryStore.call, found]
  rfl

/-- A run that leads completes and treats every pending record, in the order of delivery. The two
loads only count calls, and after them the run is one through the records. -/
theorem dispatch_treats (sound : site.Sound)
    (withinCalendar : ∀ record ∈ site.pendingRecords,
      WithinCalendar sending policy now site record) :
    ∃ report after, site.dispatch sending policy true now = (.completed report, after) ∧
      Treated sending policy now site site.pendingRecords after := by
  let listed : Site := { site with faults := site.faults.count .findByStatus }
  let counted : Site := { site with
    faults := (site.faults.count .findByStatus).count .deliveryStates }
  have listedSound : listed.Sound := ⟨sound.available, sound.faultless⟩
  have countedSound : counted.Sound := ⟨sound.available, sound.faultless⟩
  have loadsPending : site.answer sending .loadPending = (.ok site.pendingRecords, listed) :=
    sound.loadPending
  have loadsDeliveries : listed.answer sending .loadDeliveries =
      (.ok site.store.deliveries, counted) := listedSound.loadDeliveries
  have begun : Treated sending policy now site [] counted := Treated.nil countedSound rfl rfl rfl
  have ready : ∀ record ∈ site.pendingRecords,
      Ready sending policy now counted site.store.deliveries record := by
    intro record member
    obtain ⟨stored, pending⟩ := (mem_pendingRecords site record).mp member
    refine ⟨Table.find?_of_mem stored, pending, ?_, rfl⟩
    intro error failed
    rw [begun.treatment_eq (by simp)] at failed
    exact withinCalendar record member error failed
  have ordered : MemoryStore.inOrder site.pendingRecords = site.pendingRecords :=
    MemoryStore.inOrder_inOrder _
  obtain ⟨report, after, treated, executed⟩ :=
    execute_through countedSound site.pendingRecords site.nodup_pendingRecords ready
      { Report.empty with considered := site.pendingRecords.length }
  refine ⟨report, after, ?_, begun.append treated (by simp)⟩
  rw [dispatch, Run.tick]
  simp only [Bool.not_true, Bool.false_eq_true, if_false, Run.execute, loadsPending,
    loadsDeliveries, ordered]
  exact executed

/-! ## What is published under an identifier -/

/-- What is published of a record goes by its identifier. -/
theorem eventId_of_treatment {envelope : Envelope}
    (published : envelope ∈ (site.treatment sending now record).envelopes) :
    envelope.eventId = record.id := by
  rw [treatment] at published
  split at published
  · cases published
  · cases decided : site.verdict sending record with
    | error error => simp [decided, Treatment.envelopes] at published
    | ok other =>
      have same : envelope = other := by simpa [decided, Treatment.envelopes] using published
      rw [same]
      exact Sender.eventId_of_envelope ((verdict_ok_iff site sending record other).mp decided).1

/-- Of records with other identifiers nothing is published under an identifier. -/
theorem filter_envelopes_foreign {records : List EventRecord} {event : Identifier}
    (foreign : ∀ record ∈ records, record.id ≠ event) :
    (records.flatMap fun record => (site.treatment sending now record).envelopes).filter
      (fun envelope => envelope.eventId = event) = [] := by
  rw [List.filter_eq_nil_iff]
  intro envelope inside
  obtain ⟨record, member, published⟩ := List.mem_flatMap.mp inside
  rw [eventId_of_treatment published, decide_eq_true_eq]
  exact foreign record member

/-- Of records with distinct identifiers exactly what is made of a record is published under its
identifier. -/
theorem filter_envelopes_own {records : List EventRecord}
    (distinct : (records.map EventRecord.id).Nodup) (member : record ∈ records) :
    (records.flatMap fun record => (site.treatment sending now record).envelopes).filter
      (fun envelope => envelope.eventId = record.id) =
        (site.treatment sending now record).envelopes := by
  obtain ⟨earlier, later, rfl⟩ := List.append_of_mem member
  obtain ⟨earlierForeign, laterForeign, _⟩ := MemoryStore.apart_of_nodup distinct
  have own : (site.treatment sending now record).envelopes.filter
      (fun envelope => envelope.eventId = record.id) =
        (site.treatment sending now record).envelopes := by
    rw [List.filter_eq_self]
    intro envelope published
    exact decide_eq_true (eventId_of_treatment published)
  rw [List.flatMap_append, List.flatMap_cons, List.filter_append, List.filter_append, own,
    filter_envelopes_foreign earlierForeign, filter_envelopes_foreign laterForeign,
    List.nil_append, List.append_nil]

/-! ## The treatments of a record -/

/-- A record is due when nothing is remembered of its deliveries or the next attempt is due. -/
theorem not_waits_of_due
    (due : ∀ delivery ∈ site.store.deliveries.find? record.id, delivery.isDue now = true) :
    ¬(site.store.deliveries.find? record.id).any (fun delivery => !delivery.isDue now) = true := by
  cases remembered : site.store.deliveries.find? record.id with
  | none => simp
  | some delivery => simp [due delivery remembered]

/-- A record that is due and accepted is treated as sent. -/
theorem treatment_sent
    (due : ∀ delivery ∈ site.store.deliveries.find? record.id, delivery.isDue now = true)
    {envelope : Envelope} (accepted : site.verdict sending record = .ok envelope) :
    site.treatment sending now record = .sent envelope := by
  rw [treatment, if_neg (not_waits_of_due due), accepted]

/-- A record that is due and not accepted is treated as failed. -/
theorem treatment_failed
    (due : ∀ delivery ∈ site.store.deliveries.find? record.id, delivery.isDue now = true)
    {error : DispatchError} (refused : site.verdict sending record = .error error) :
    site.treatment sending now record = .failed error := by
  rw [treatment, if_neg (not_waits_of_due due), refused]

/-- A record whose next attempt is not due is deferred, whatever the verdict on it would be. -/
theorem treatment_deferred {delivery : Delivery}
    (remembered : site.store.deliveries.find? record.id = some delivery)
    (waits : delivery.isDue now = false) :
    site.treatment sending now record = .deferred := by
  rw [treatment, remembered, if_pos (by simp [waits])]

/-! ## Every record on its own -/

/-- A dispatch run at a site with an available store, whatever the store and the broker hold.

A run that does not lead requests nothing and changes nothing. One that leads completes, publishes
some envelopes after those that were there, and does the following to each pending record.
A record that is due and whose delivery is accepted becomes sent at the time of the run, nothing is
remembered of its deliveries any more, and its envelope is published once. `verdict_ok_iff` says
when a delivery is accepted.
A record that is due and whose delivery fails stays as it is, this failure is remembered on top of
the ones before, and nothing is published of it.
A record that is not due stays as it is, with its deliveries, and nothing is published of it.
Under every identifier that is not that of a pending record nothing changes and nothing is
published. -/
theorem dispatch_per_record (site : Site) (sending : Sending) (policy : RetryPolicy)
    (isLeader : Bool) (now : Timestamp) (available : site.store.available = true)
    (faultless : ∀ operation, site.faults.plan operation = none)
    (withinCalendar : ∀ record ∈ site.store.records.rows, record.status = .pending →
      WithinCalendar sending policy now site record) :
    (isLeader = false → Run.tick policy isLeader now = .done .skipped ∧
      site.dispatch sending policy isLeader now = (.skipped, site)) ∧
    (isLeader = true → ∃ report after appended,
      site.dispatch sending policy isLeader now = (.completed report, after) ∧
      after.broker = { site.broker with published := site.broker.published ++ appended } ∧
      (∀ record ∈ site.store.records.rows, record.status = .pending →
        ((∀ delivery ∈ site.store.deliveries.find? record.id, delivery.isDue now = true) →
          (∀ envelope, site.verdict sending record = .ok envelope →
            after.store.records.find? record.id =
              some { record with status := .sent, updated := now } ∧
            after.store.deliveries.find? record.id = none ∧
            appended.filter (fun other => other.eventId = record.id) = [envelope]) ∧
          (∀ error, site.verdict sending record = .error error →
            after.store.records.find? record.id = some record ∧
            after.store.deliveries.find? record.id ≠ none ∧
            after.store.deliveries.find? record.id = policy.recordFailure?
              (site.store.deliveries.find? record.id) record.id error.message now ∧
            appended.filter (fun other => other.eventId = record.id) = [])) ∧
        (∀ delivery, site.store.deliveries.find? record.id = some delivery →
          delivery.isDue now = false →
            after.store.records.find? record.id = some record ∧
            after.store.deliveries.find? record.id = some delivery ∧
            appended.filter (fun other => other.eventId = record.id) = [])) ∧
      (∀ event,
        (∀ record, site.store.records.find? event = some record → record.status ≠ .pending) →
          after.store.records.find? event = site.store.records.find? event ∧
          after.store.deliveries.find? event = site.store.deliveries.find? event ∧
          appended.filter (fun other => other.eventId = event) = [])) := by
  constructor
  · intro following
    rw [following]
    exact ⟨rfl, rfl⟩
  · intro leading
    have within : ∀ record ∈ site.pendingRecords,
        WithinCalendar sending policy now site record := by
      intro record member
      obtain ⟨stored, pending⟩ := (mem_pendingRecords site record).mp member
      exact withinCalendar record stored pending
    obtain ⟨report, after, completed, treated⟩ := dispatch_treats ⟨available, faultless⟩ within
    rw [leading]
    refine ⟨report, after, _, completed, treated.broker, ?_, ?_⟩
    · intro record stored pending
      have member : record ∈ site.pendingRecords :=
        (mem_pendingRecords site record).mpr ⟨stored, pending⟩
      have published : (site.pendingRecords.flatMap fun record =>
          (site.treatment sending now record).envelopes).filter
            (fun other => other.eventId = record.id) =
          (site.treatment sending now record).envelopes :=
        filter_envelopes_own site.nodup_pendingRecords member
      obtain ⟨records, deliveries⟩ := treated.own record member
      refine ⟨?_, ?_⟩
      · intro due
        constructor
        · intro envelope accepted
          rw [treatment_sent due accepted] at records deliveries published
          exact ⟨records, deliveries, published⟩
        · intro error refused
          have failed := treatment_failed due refused
          rw [failed] at records deliveries published
          refine ⟨records, ?_, deliveries, published⟩
          rw [deliveries]
          exact within record member error failed
      · intro delivery remembered waits
        rw [treatment_deferred remembered waits] at records deliveries published
        exact ⟨records, deliveries.trans remembered, published⟩
    · intro event settled
      have foreign : ∀ record ∈ site.pendingRecords, record.id ≠ event := by
        intro record member same
        obtain ⟨stored, pending⟩ := (mem_pendingRecords site record).mp member
        have found := Table.find?_of_mem stored
        rw [same] at found
        exact settled record found pending
      obtain ⟨records, deliveries⟩ := treated.others event foreign
      exact ⟨records, deliveries, filter_envelopes_foreign foreign⟩

/-! ## A site with records of different fates -/

/-- A site with five records. The first and the last one are new. The second one has failed before
and is rejected by the broker, the third one waits for its next attempt, and the fourth one has been
sent. -/
def mixed : Site where
  store := {
    records := .ofList [.numbered 1, .numbered 2, .numbered 3,
      { EventRecord.numbered 4 with status := .sent }, .numbered 5]
    deliveries := .ofList [
      ⟨(EventRecord.numbered 2).id, 1, "unreachable", default, false⟩,
      ⟨(EventRecord.numbered 3).id, 1, "unreachable", ⟨15, 0, by decide⟩, false⟩]
    available := true }
  broker := MemoryBroker.empty.failFor (EventRecord.numbered 2).id
  faults := .none
  outage := none

/-- All but the fourth record are pending. -/
theorem pending_mixed :
    mixed.pendingRecords = [.numbered 1, .numbered 2, .numbered 3, .numbered 5] := by
  cbv

/-- How snapshots of products are sent as they are. -/
def plainSending : Sending := ⟨.plain, fun _ => none, .zero⟩

/-- Two attempts without waiting. -/
def twice : RetryPolicy := { RetryPolicy.immediate with maxAttempts := some 2 }

/-- The next one of two attempts without waiting never lies beyond the calendar. -/
theorem recordFailure?_twice (previous : Option Delivery) (event : Identifier) (error : String)
    (now : Timestamp) : twice.recordFailure? previous event error now ≠ none := by
  have atOnce (attempts : Nat) : twice.waitingSpan attempts = 0 := by
    have noDelay : twice.delayMillis attempts = 0 := by
      rw [RetryPolicy.delayMillis]
      split <;> rfl
    rw [RetryPolicy.waitingSpan, noDelay]
    rfl
  rw [RetryPolicy.recordFailure?, atOnce, Timestamp.add?_zero]
  exact Option.some_ne_none _

/-- A run makes of each record what its own verdict and its own delivery say: the last one is sent
although the broker rejects the second one, which is parked after its second failure. The third one
still waits, and the fourth one is left alone. -/
theorem dispatch_mixed :
    ∃ report after envelope delivery,
      mixed.dispatch plainSending twice true default = (.completed report, after) ∧
      after.store.records.find? (EventRecord.numbered 5).id =
        some { EventRecord.numbered 5 with status := .sent } ∧
      after.broker.published.filter
        (fun other => other.eventId = (EventRecord.numbered 5).id) = [envelope] ∧
      after.store.records.find? (EventRecord.numbered 2).id = some (.numbered 2) ∧
      after.store.deliveries.find? (EventRecord.numbered 2).id = some delivery ∧
      delivery.attempts = 2 ∧ delivery.parked = true ∧
      after.store.records.find? (EventRecord.numbered 3).id = some (.numbered 3) ∧
      after.store.deliveries.find? (EventRecord.numbered 3).id =
        mixed.store.deliveries.find? (EventRecord.numbered 3).id ∧
      after.store.records.find? (EventRecord.numbered 4).id =
        some { EventRecord.numbered 4 with status := .sent } := by
  obtain ⟨report, after, appended, completed, broker, each, others⟩ :=
    (dispatch_per_record mixed plainSending twice true default rfl (fun _ => rfl)
      (fun record _ _ error _ => recordFailure?_twice _ _ _ _)).2 rfl
  have stored : ∀ number ∈ [1, 2, 3, 5],
      EventRecord.numbered number ∈ mixed.store.records.rows := by
    have rows : mixed.store.records.rows = [.numbered 1, .numbered 2, .numbered 3,
        { EventRecord.numbered 4 with status := .sent }, .numbered 5] := by rfl
    rw [rows]
    simp
  obtain ⟨envelope, accepted⟩ :
      ∃ envelope, mixed.verdict plainSending (.numbered 5) = .ok envelope := ⟨_, rfl⟩
  obtain ⟨error, refused⟩ :
      ∃ error, mixed.verdict plainSending (.numbered 2) = .error error := ⟨_, rfl⟩
  obtain ⟨sent, _, published⟩ :=
    ((each _ (stored 5 (by decide)) rfl).1 (by rintro _ ⟨⟩)).1 envelope accepted
  obtain ⟨kept, _, failed, _⟩ :=
    ((each _ (stored 2 (by decide)) rfl).1 (by rintro _ ⟨⟩; decide)).2 error refused
  obtain ⟨waits, remembered, _⟩ :=
    (each _ (stored 3 (by decide)) rfl).2 _ rfl (by decide)
  obtain ⟨settled, _, _⟩ := others (EventRecord.numbered 4).id (by rintro _ ⟨⟩; decide)
  refine ⟨report, after, envelope, _, completed, sent, ?_, kept, failed, rfl, rfl, waits, ?_, ?_⟩
  · rw [broker]
    exact published
  · exact remembered
  · exact settled

end Outbox.Site
