import Outbox.Proofs.Dispatch.Sequence

/-!
# What is held under one identifier

A store and a broker can be looked at one identifier at a time: the record under it, what is
remembered of the record's deliveries, and the envelopes that were published for it. Every request
of a dispatch run but the two loads is about one identifier, and changes nothing under any other
one.

`Surroundings` are whatever answers a run and keeps to that. They may be any store and any broker;
a site in memory is one example of them. They are `Durable` when moreover they hold what they have
accepted and nothing that they have refused.
-/

namespace Outbox

open Calendar

/-- What a store and a broker hold under an identifier. -/
structure Standing where
  record : Option EventRecord
  /-- What is remembered of the failed deliveries of the record. -/
  delivery : Option Delivery
  /-- The envelopes of the record that the broker has accepted, in order. -/
  published : List Envelope

/-- A store and a broker as a run meets them: what they answer, and what their answers have to do
with what they hold under each identifier. Any request may fail. -/
structure Surroundings (World : Type) where
  answer : World → (request : Request) → request.Answer × World
  standing : World → Identifier → Standing
  /-- The pending records are loaded as they are stored, each of them once. -/
  loaded : ∀ world records, (answer world .loadPending).1 = .ok records →
    (records.map EventRecord.id).Nodup ∧ ∀ record ∈ records,
      (standing world record.id).record = some record ∧ record.status = .pending
  /-- A request changes nothing under an identifier that it is not about. -/
  frame : ∀ world request event, request.subject? ≠ some event →
    standing (answer world request).2 event = standing world event
  /-- An acknowledged delivery publishes one envelope of the record. -/
  delivered : ∀ world record, (answer world (.deliver record)).1 = .ok () →
    ∃ envelope, standing (answer world (.deliver record)).2 record.id =
      { standing world record.id with
        published := (standing world record.id).published ++ [envelope] }
  /-- A failed delivery changes nothing. -/
  refused : ∀ world record error, (answer world (.deliver record)).1 = .error error →
    standing (answer world (.deliver record)).2 record.id = standing world record.id
  /-- A record that is marked as sent is sent from then on, and keeps everything else. -/
  marked : ∀ world event moment, (answer world (.markSent event moment)).1 = .ok () →
    standing (answer world (.markSent event moment)).2 event =
      { standing world event with
        record := (standing world event).record.map fun record =>
          { record with status := .sent, updated := moment } }

namespace Surroundings

/-- A run changes nothing under an identifier about which it makes no request. -/
theorem frame_execute {World : Type} (surroundings : Surroundings World) {run : Run}
    {world after : World} {outcome : TickOutcome} {event : Identifier}
    (executed : run.execute surroundings.answer world = (outcome, after))
    (foreign : ∀ exchange ∈ run.exchanges surroundings.answer world,
      exchange.request.subject? ≠ some event) :
    surroundings.standing after event = surroundings.standing world event := by
  induction run generalizing world with
  | done ending =>
    obtain ⟨_, rfl⟩ := Prod.mk.inj executed
    rfl
  | ask request resume inductionHypothesis =>
    rw [Run.exchanges_ask] at foreign
    obtain ⟨here, later⟩ := List.forall_mem_cons.mp foreign
    exact (inductionHypothesis _ executed later).trans (surroundings.frame world request event here)

/-- A run through records changes nothing under an identifier that is not that of one of them. -/
theorem frame_through {World : Type} (surroundings : Surroundings World) {policy : RetryPolicy}
    {now : Timestamp} {records : List EventRecord} {deliveries : Table Delivery.event}
    {report : Report} {world after : World} {outcome : TickOutcome} {event : Identifier}
    (executed : (Run.through policy now records deliveries report).execute surroundings.answer
      world = (outcome, after))
    (foreign : ∀ record ∈ records, record.id ≠ event) :
    surroundings.standing after event = surroundings.standing world event :=
  surroundings.frame_execute executed
    ((Run.only_foreign policy now foreign deliveries report).request world)

end Surroundings

/-- Surroundings that hold what they have accepted: a refused write changes nothing, an accepted one
takes effect, and the deliveries are loaded as they are remembered. -/
structure Surroundings.Durable {World : Type} (surroundings : Surroundings World) : Prop where
  recalled : ∀ {world after deliveries},
    surroundings.answer world .loadDeliveries = (.ok deliveries, after) →
      ∀ event, deliveries.find? event = (surroundings.standing world event).delivery
  unmarked : ∀ {world after event moment error},
    surroundings.answer world (.markSent event moment) = (.error error, after) →
      surroundings.standing after event = surroundings.standing world event
  cleared : ∀ {world after event},
    surroundings.answer world (.clearDelivery event) = (.ok (), after) →
      surroundings.standing after event =
        { surroundings.standing world event with delivery := none }
  uncleared : ∀ {world after event error},
    surroundings.answer world (.clearDelivery event) = (.error error, after) →
      surroundings.standing after event = surroundings.standing world event
  saved : ∀ {world after} {delivery : Delivery},
    surroundings.answer world (.saveDelivery delivery) = (.ok (), after) →
      surroundings.standing after delivery.event =
        { surroundings.standing world delivery.event with delivery := some delivery }
  unsaved : ∀ {world after error} {delivery : Delivery},
    surroundings.answer world (.saveDelivery delivery) = (.error error, after) →
      surroundings.standing after delivery.event = surroundings.standing world delivery.event

namespace Site

/-- What a site holds under an identifier. -/
def standing (site : Site) (event : Identifier) : Standing where
  record := site.store.records.find? event
  delivery := site.store.deliveries.find? event
  published := site.broker.published.filter fun envelope => envelope.eventId = event

/-- Publishing an envelope adds it under the identifier by which it goes. -/
theorem standing_publish (site : Site) (envelope : Envelope) (event : Identifier) :
    (site.publish envelope).standing event =
      if envelope.eventId = event then
        { site.standing event with published := (site.standing event).published ++ [envelope] }
      else site.standing event := by
  by_cases same : envelope.eventId = event
  · simp [standing, publish, same]
  · simp [standing, publish, same]

/-- A call of the store changes nothing about what is published. -/
theorem standing_call (site : Site) (call : StoreCall) (event : Identifier) :
    (site.call call).2.standing event = {
      record := (site.call call).2.store.records.find? event
      delivery := (site.call call).2.store.deliveries.find? event
      published := (site.standing event).published } := by
  rw [standing, broker_call]
  rfl

/-- Whether a call leaves alone what is held under an identifier, whatever it is answered with. -/
def Spares (event : Identifier) : StoreCall → Prop
  | .findByStatus _ | .statistics | .deliveryStates | .parked => True
  | .save record => record.id ≠ event
  | .updateStatus subject .. => subject ≠ event
  | .saveDelivery delivery => delivery.event ≠ event
  | .clearDelivery subject => subject ≠ event
  | .requeue subject _ => subject ≠ event
  | .deleteWhere .. => False

/-- A call about another identifier changes neither the record nor the delivery under one. Both are
read off the listed effects of calls. -/
theorem frame_store (store : MemoryStore) {call : StoreCall} {event : Identifier}
    (spares : Spares event call) :
    (store.call call).2.records.find? event = store.records.find? event ∧
      (store.call call).2.deliveries.find? event = store.deliveries.find? event := by
  constructor
  · have effect := store.records_call call
    generalize (store.call call).2.records = after at effect ⊢
    cases effect with
    | kept _ => rfl
    | saved record _ => exact (Table.find?_put ..).trans (if_neg (Ne.symm spares))
    | published subject _ record found _ =>
      have named : record.id = subject := Table.key_of_find? found
      exact (Table.find?_put ..).trans (if_neg (named.trans_ne spares).symm)
    | deleted _ _ => exact spares.elim
  · have effect := store.deliveries_call call
    generalize (store.call call).2.deliveries = after at effect ⊢
    cases effect with
    | kept _ => rfl
    | remembered delivery => exact (Table.find?_put ..).trans (if_neg (Ne.symm spares))
    | forgotten subject => exact (Table.find?_erase ..).trans (if_neg (Ne.symm spares))
    | requeued subject _ delivery found _ =>
      have named : delivery.event = subject := Table.key_of_find? found
      exact (Table.find?_put ..).trans (if_neg (named.trans_ne spares).symm)
    | deleted _ _ => exact spares.elim

/-- A call about another identifier changes nothing under one. -/
theorem frame_call (site : Site) (call : StoreCall) (event : Identifier)
    (spares : Spares event call) : (site.call call).2.standing event = site.standing event := by
  rw [standing_call]
  rcases site.call_cases call with ⟨error, faults, failed⟩ | ⟨faults, answered⟩
  · rw [failed]
    rfl
  · obtain ⟨records, deliveries⟩ := frame_store site.store spares
    rw [answered, records, deliveries]
    rfl

/-- A request changes nothing at a site under an identifier that it is not about. A delivery
publishes under its own identifier only. -/
theorem frame_answer (site : Site) (sending : Sending) (request : Request) (event : Identifier)
    (foreign : request.subject? ≠ some event) :
    (site.answer sending request).2.standing event = site.standing event := by
  have different {subject : Identifier} (about : request.subject? = some subject) :
      subject ≠ event := by
    intro same
    exact foreign (same ▸ about)
  cases request with
  | loadPending => exact site.frame_call (.findByStatus .pending) event trivial
  | loadDeliveries => exact site.frame_call .deliveryStates event trivial
  | deliver record =>
    rw [answer_deliver]
    cases decided : site.verdict sending record with
    | error error => rfl
    | ok envelope =>
      have named : envelope.eventId = record.id :=
        Sender.eventId_of_envelope ((verdict_ok_iff site sending record envelope).mp decided).1
      exact (site.standing_publish envelope event).trans (if_neg (named ▸ different rfl))
  | markSent subject moment =>
    exact site.frame_call (.updateStatus subject .sent moment) event (different rfl)
  | clearDelivery subject =>
    exact site.frame_call (.clearDelivery subject) event (different rfl)
  | saveDelivery delivery =>
    exact site.frame_call (.saveDelivery delivery) event (different rfl)

/-- An acknowledged delivery publishes one envelope of the record. -/
theorem standing_delivered (site : Site) (sending : Sending) (record : EventRecord)
    (acknowledged : (site.answer sending (.deliver record)).1 = .ok ()) :
    ∃ envelope, (site.answer sending (.deliver record)).2.standing record.id =
      { site.standing record.id with
        published := (site.standing record.id).published ++ [envelope] } := by
  rw [answer_deliver] at acknowledged ⊢
  cases decided : site.verdict sending record with
  | error error =>
    rw [decided] at acknowledged
    cases acknowledged
  | ok envelope =>
    have named : envelope.eventId = record.id :=
      Sender.eventId_of_envelope ((verdict_ok_iff site sending record envelope).mp decided).1
    exact ⟨envelope, (site.standing_publish envelope record.id).trans (if_pos named)⟩

/-- A failed delivery changes nothing at a site. -/
theorem answer_refused (site : Site) (sending : Sending) (record : EventRecord)
    {error : DispatchError}
    (refused : (site.answer sending (.deliver record)).1 = .error error) :
    (site.answer sending (.deliver record)).2 = site := by
  rw [answer_deliver] at refused ⊢
  cases decided : site.verdict sending record with
  | error other => rfl
  | ok envelope =>
    rw [decided] at refused
    cases refused

/-- A record that is marked as sent is sent from then on, and keeps everything else. The call fails
when the record is gone or sent already. -/
theorem standing_marked (site : Site) (event : Identifier) (moment : Timestamp)
    (marked : (site.call (.updateStatus event .sent moment)).1 = .ok ()) :
    (site.call (.updateStatus event .sent moment)).2.standing event =
      { site.standing event with
        record := (site.standing event).record.map fun record =>
          { record with status := .sent, updated := moment } } := by
  rcases site.call_cases (.updateStatus event .sent moment) with
    ⟨error, faults, failed⟩ | ⟨faults, answered⟩
  · rw [failed] at marked
    cases marked
  · rw [answered, MemoryStore.call] at marked ⊢
    rcases site.store.written_cases (site.store.updateStatus event .sent moment) with
      ⟨error, _, unchanged⟩ | ⟨next, updated, written⟩
    · rw [unchanged] at marked
      cases marked
    · obtain ⟨record, found, _, _, rfl⟩ := MemoryStore.updateStatus_ok updated
      have named : record.id = event := Table.key_of_find? found
      rw [written]
      simp [standing, Table.find?_put, found, named]

/-- A deletion at a sound site leaves nothing of an expired record but what is published, and
changes nothing under any other identifier. -/
theorem Sound.standing_deleted {site : Site} (sound : site.Sound) (status : EventStatus)
    (before : Timestamp) (event : Identifier) :
    (site.call (.deleteWhere status before)).2.standing event =
      if (site.standing event).record.any (MemoryStore.expired status before) then
        { site.standing event with record := none, delivery := none }
      else site.standing event := by
  have deleted : (site.store.call (.deleteWhere status before)).2 = { site.store with
      records := site.store.records.filter fun record => !MemoryStore.expired status before record
      deliveries := site.store.deliveries.filter fun delivery =>
        !(site.store.records.filter (MemoryStore.expired status before)).contains
          delivery.event } := by
    rw [MemoryStore.call, MemoryStore.deleteWhere_of_available sound.available]
    rfl
  have records : (site.store.records.find? event).filter
      (fun record => !MemoryStore.expired status before record) =
        if (site.store.records.find? event).any (MemoryStore.expired status before) then none
        else site.store.records.find? event := by
    cases site.store.records.find? event with
    | none => rfl
    | some record => cases expired : MemoryStore.expired status before record <;> simp [expired]
  have deliveries : (site.store.deliveries.find? event).filter (fun delivery =>
      !(site.store.records.filter (MemoryStore.expired status before)).contains delivery.event) =
        if (site.store.records.find? event).any (MemoryStore.expired status before) then none
        else site.store.deliveries.find? event := by
    cases remembered : site.store.deliveries.find? event with
    | none => exact (ite_self none).symm
    | some delivery =>
      have named : delivery.event = event := Table.key_of_find? remembered
      rw [Option.filter_some, named, Table.contains_filter]
      cases (site.store.records.find? event).any (MemoryStore.expired status before) <;> rfl
  rw [sound.call, standing, deleted, Table.find?_filter, Table.find?_filter, records, deliveries]
  change _ = if (site.store.records.find? event).any _ then _ else _
  split <;> rfl

/-- A requeue at a sound site says whether the record was parked, and then lets it be tried again
and changes nothing else. -/
theorem Sound.requeue {site : Site} (sound : site.Sound) (event : Identifier) (now : Timestamp) :
    site.call (.requeue event now) =
      match (site.store.deliveries.find? event).filter Delivery.parked with
      | some delivery => (.ok true, { site with
          store := { site.store with
            deliveries := site.store.deliveries.put (delivery.requeued now) }
          faults := site.faults.count .requeue })
      | none => (.ok false, { site with faults := site.faults.count .requeue }) := by
  rw [sound.call, MemoryStore.call, MemoryStore.requeue_of_available sound.available]
  cases (site.store.deliveries.find? event).filter Delivery.parked <;> rfl

/-- A site in memory is an example of surroundings: it lists what is stored, and an answer about one
record leaves the others alone. -/
def surroundings (sending : Sending) : Surroundings Site where
  answer := answer sending
  standing := standing
  loaded site records answered := by
    change (site.call (.findByStatus .pending)).1 = .ok records at answered
    rcases site.call_cases (.findByStatus .pending) with ⟨error, faults, failed⟩ | ⟨faults, reached⟩
    · rw [failed] at answered
      cases answered
    · rw [reached] at answered
      have found : site.store.findByStatus .pending = .ok records := answered
      refine ⟨?_, ?_⟩
      · obtain ⟨_, sorted⟩ := (site.store.whenAvailable_ok_iff _ records).mp found
        rw [← Except.ok.inj sorted, ((MemoryStore.inOrder_perm _).map EventRecord.id).nodup_iff]
        exact site.store.records.distinct.sublist (List.filter_sublist.map EventRecord.id)
      · intro record member
        obtain ⟨stored, pending⟩ := (MemoryStore.mem_of_findByStatus found record).mp member
        exact ⟨Table.find?_of_mem stored, pending⟩
  frame site request event := site.frame_answer sending request event
  delivered site record := site.standing_delivered sending record
  refused site record error failed := by rw [site.answer_refused sending record failed]
  marked site event moment := site.standing_marked event moment

/-- A call that fails changes nothing about what is held at a site. -/
theorem standing_of_refused {site after : Site} {call : StoreCall} {error : StoreError}
    (refused : site.call call = (.error error, after)) (event : Identifier) :
    after.standing event = site.standing event := by
  rcases site.call_cases call with ⟨other, faults, failed⟩ | ⟨faults, answered⟩
  · obtain ⟨_, rfl⟩ := Prod.mk.inj (failed.symm.trans refused)
    rfl
  · obtain ⟨failed, rfl⟩ := Prod.mk.inj (answered.symm.trans refused)
    rw [standing, MemoryStore.call_refused failed]
    rfl

/-- What is held at a site after an accepted call of the store. -/
theorem standing_of_accepted {site after : Site} {call : StoreCall} {value : call.Answer}
    (accepted : site.call call = (.ok value, after)) :
    (site.store.call call).1 = .ok value ∧ ∀ event, after.standing event = {
      record := (site.store.call call).2.records.find? event
      delivery := (site.store.call call).2.deliveries.find? event
      published := (site.standing event).published } := by
  rcases site.call_cases call with ⟨error, faults, failed⟩ | ⟨faults, answered⟩
  · cases failed.symm.trans accepted
  · obtain ⟨succeeded, rfl⟩ := Prod.mk.inj (answered.symm.trans accepted)
    exact ⟨succeeded, fun event => rfl⟩

/-- A site in memory holds what it has accepted: a call either fails and changes nothing, or it is
answered by the store, whose operations say what they have changed. -/
theorem durable (sending : Sending) : (surroundings sending).Durable where
  recalled := by
    intro site after deliveries answered event
    change site.call .deliveryStates = _ at answered
    obtain ⟨found, _⟩ := standing_of_accepted answered
    obtain ⟨_, found⟩ := (site.store.whenAvailable_ok_iff _ deliveries).mp found
    rw [← Except.ok.inj found]
    rfl
  unmarked refused := standing_of_refused refused _
  cleared := by
    intro site after event answered
    change site.call (.clearDelivery event) = _ at answered
    obtain ⟨accepted, held⟩ := standing_of_accepted answered
    have cleared : (site.store.call (.clearDelivery event)).2 = _ :=
      MemoryStore.written_of_accepted accepted
    change after.standing event = { site.standing event with delivery := none }
    rw [held, cleared]
    simp [standing, Table.find?_erase]
  uncleared refused := standing_of_refused refused _
  saved := by
    intro site after delivery answered
    change site.call (.saveDelivery delivery) = _ at answered
    obtain ⟨accepted, held⟩ := standing_of_accepted answered
    have saved : (site.store.call (.saveDelivery delivery)).2 = _ :=
      MemoryStore.written_of_accepted accepted
    change after.standing delivery.event =
      { site.standing delivery.event with delivery := some delivery }
    rw [held, saved]
    simp [standing, Table.find?_put]
  unsaved refused := standing_of_refused refused _

end Site

end Outbox
