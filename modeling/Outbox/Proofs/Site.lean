import Outbox.Dispatch.Site
import Outbox.Proofs.Store.Changes

/-!
# What a site answers

A site answers a dispatch run with its store and its broker, either of which may be made to fail. A
call that is made to fail does not reach the store; any other one is answered by the store. A
delivery has a verdict: the envelope that the broker accepts, or why there is none. An accepted
envelope is published once, at the end, and a failed delivery changes nothing.
-/

namespace Outbox

open Calendar

/-- A sender makes an envelope exactly when it has a handler for the record and the handler accepts
the payload, and the envelope holds what the handler made and what the record says. -/
theorem Sender.envelope_ok_iff (sender : Sender) (names : CategoryNames) (record : EventRecord)
    (envelope : Envelope) :
    sender.envelope names record = .ok envelope ↔
      ∃ handler prepared, sender.registry.resolve record.aggregateType = .ok handler ∧
        handler.prepare names record.payload = .ok prepared ∧ envelope = {
          routingKey := prepared.partitionKey
          eventName := record.eventName
          payload := prepared.payload
          metadata := mergeMetadata sender.producer prepared.version record.extraMetadata
          eventId := record.id } := by
  rw [Sender.envelope]
  cases resolved : sender.registry.resolve record.aggregateType with
  | error error => simp [Except.mapError, bind, Except.bind]
  | ok handler =>
    cases made : handler.prepare names record.payload with
    | error error => simp [Except.mapError, bind, Except.bind, made]
    | ok prepared =>
      simp only [Except.mapError, bind, Except.bind, pure, Except.pure, made, Except.ok.injEq]
      constructor
      · intro same
        exact ⟨handler, prepared, rfl, made, same.symm⟩
      · rintro ⟨_, other, rfl, otherMade, rfl⟩
        rw [made] at otherMade
        rw [Except.ok.inj otherMade]

/-- The envelope of a record goes by the identifier of the record. -/
theorem Sender.eventId_of_envelope {sender : Sender} {names : CategoryNames}
    {record : EventRecord} {envelope : Envelope}
    (made : sender.envelope names record = .ok envelope) : envelope.eventId = record.id := by
  obtain ⟨handler, prepared, _, _, rfl⟩ := (sender.envelope_ok_iff names record envelope).mp made
  rfl

/-- The sender that publishes snapshots of products as they are. -/
def Sender.plain : Sender where
  registry := {
    handlers := [{
      tag := .product
      prepare _ payload := .ok { partitionKey := "", payload, version := 1 } }]
    distinct := List.pairwise_singleton _ _ }
  producer := ""

/-- A hundred is not zero, so that the numbers below it can be written down. The zero is the one of
the literals of `Fin`. -/
instance EventRecord.numbersBelow : @NeZero Nat Zero.ofOfNat0 100 := ⟨Nat.succ_ne_zero 99⟩

/-- A pending record that goes by a number, which is also what its snapshot says. Records like it
differ in nothing else, so that what becomes of them is due to the store, the broker and the runs
that work on them. -/
def EventRecord.numbered (number : Fin 100) : EventRecord where
  id := ⟨number, Nat.lt_trans number.isLt (by decide)⟩
  aggregate := default
  aggregateType := .product
  status := .pending
  eventName := "renamed"
  byUser := default
  extraMetadata := .ofList [("source", .string "import")]
  payload := .count number
  created := default
  updated := default

namespace Site

/-- A call at a site either fails as planned and does not reach the store, or is answered by the
store. -/
theorem call_cases (site : Site) (call : StoreCall) :
    (∃ error faults, site.call call = (.error error, { site with faults })) ∨
      ∃ faults, site.call call =
        ((site.store.call call).1, { site with store := (site.store.call call).2, faults }) := by
  rw [Site.call]
  obtain ⟨planned, faults⟩ := site.faults.call call.operation
  cases planned with
  | some error => exact Or.inl ⟨error, faults, rfl⟩
  | none => exact Or.inr ⟨faults, rfl⟩

/-- A call at a site has one of the effects that a call can have on the records. -/
theorem records_call (site : Site) (call : StoreCall) :
    MemoryStore.RecordsAfter site.store.records call (site.call call).2.store.records := by
  rcases site.call_cases call with ⟨error, faults, failed⟩ | ⟨faults, answered⟩
  · rw [failed]
    exact .kept call
  · rw [answered]
    exact MemoryStore.records_call site.store call

/-- A call at a site has one of the effects that a call can have on what is remembered under an
identifier. -/
theorem delivery_call (site : Site) (call : StoreCall) (event : Identifier) :
    MemoryStore.DeliveryAfter site.store event call
      ((site.call call).2.store.deliveries.find? event) := by
  rcases site.call_cases call with ⟨error, faults, failed⟩ | ⟨faults, answered⟩
  · rw [failed]
    exact .kept call
  · rw [answered]
    exact (MemoryStore.deliveries_call site.store call).find? event

/-- Every parked delivery that is listed is remembered, and is parked. -/
theorem parked_answered {site : Site} {entries : List Delivery}
    (answered : (site.call .parked).1 = .ok entries) {delivery : Delivery}
    (member : delivery ∈ entries) :
    site.store.deliveries.find? delivery.event = some delivery ∧ delivery.parked = true := by
  rcases site.call_cases .parked with ⟨error, faults, failed⟩ | ⟨faults, reached⟩
  · rw [failed] at answered
    cases answered
  · rw [reached] at answered
    obtain ⟨_, listed⟩ := (site.store.whenAvailable_ok_iff _ entries).mp answered
    rw [← Except.ok.inj listed, MemoryStore.byIdentifier, List.mem_mergeSort] at member
    obtain ⟨inside, parked⟩ := List.mem_filter.mp member
    exact ⟨Table.find?_of_mem inside, parked⟩

/-- A requeue that is accepted finds the record parked, and lets it be tried again. No other answer
of a requeue says so. -/
theorem requeue_accepted {site : Site} {event : Identifier} {now : Timestamp}
    (accepted : (site.call (.requeue event now)).1 = .ok true) :
    ∃ delivery, site.store.deliveries.find? event = some delivery ∧ delivery.parked = true ∧
      (site.call (.requeue event now)).2.store.deliveries.find? event =
        some (delivery.requeued now) := by
  rcases site.call_cases (.requeue event now) with ⟨error, faults, failed⟩ | ⟨faults, reached⟩
  · rw [failed] at accepted
    cases accepted
  · rw [reached] at accepted ⊢
    cases available : site.store.available with
    | false =>
      rw [MemoryStore.call, MemoryStore.requeue, MemoryStore.whenAvailable,
        if_neg (by rw [available]; exact Bool.false_ne_true)] at accepted
      cases accepted
    | true =>
      rw [MemoryStore.call, MemoryStore.requeue_of_available available] at accepted ⊢
      cases known : (site.store.deliveries.find? event).filter Delivery.parked with
      | none =>
        rw [known] at accepted
        cases accepted
      | some delivery =>
        obtain ⟨found, parked⟩ := Option.filter_eq_some_iff.mp known
        have named : delivery.event = event := Table.key_of_find? found
        refine ⟨delivery, found, parked, ?_⟩
        exact (Table.find?_put ..).trans (if_pos named.symm)

/-- A call that keeps the records keeps them at a site as well. -/
theorem records_kept (site : Site) {call : StoreCall}
    (keeps : MemoryStore.keepsRecords call = true) :
    (site.call call).2.store.records = site.store.records :=
  (site.records_call call).eq_of_keeps keeps

/-- A call that keeps the deliveries keeps them at a site as well. -/
theorem delivery_kept (site : Site) {call : StoreCall}
    (keeps : MemoryStore.keepsDeliveries call = true) (event : Identifier) :
    (site.call call).2.store.deliveries.find? event = site.store.deliveries.find? event :=
  (site.delivery_call call event).eq_of_keeps keeps

/-- A call of the store leaves the broker alone. -/
theorem broker_call (site : Site) (call : StoreCall) : (site.call call).2.broker = site.broker := by
  rcases site.call_cases call with ⟨error, faults, failed⟩ | ⟨faults, answered⟩
  · rw [failed]
  · rw [answered]

/-- A retention run either does nothing, or it leads and makes a single call, which deletes the
records that were sent longer ago than it keeps them. -/
theorem retainKeeping_cases (site : Site) (isLeader : Bool) (span : Int) (now : Timestamp) :
    (site.retainKeeping isLeader span now).2 = site ∨
      isLeader = true ∧ ∃ cutoff, now.add? (-span) = some cutoff ∧
        (site.retainKeeping isLeader span now).2 =
          (site.call (.deleteWhere .sent cutoff)).2 := by
  rw [retainKeeping, Retention.tickKeeping]
  cases isLeader with
  | false => exact Or.inl rfl
  | true =>
    cases reached : now.add? (-span) with
    | none => exact Or.inl rfl
    | some cutoff =>
      right
      refine ⟨rfl, cutoff, rfl, ?_⟩
      simp only [Bool.not_true, Bool.false_eq_true, if_false]
      cases site.call (.deleteWhere .sent cutoff) with
      | mk outcome after => cases outcome <;> rfl

/-- What becomes of a delivery: the envelope that the broker accepts in time, or why there is
none. -/
def verdict (site : Site) (sending : Sending) (record : EventRecord) :
    Except DispatchError Envelope :=
  match sending.sender.envelope sending.names record with
  | .error error => .error error
  | .ok envelope =>
    match site.push sending.patience envelope with
    | .error error => .error (.push error)
    | .ok _ => .ok envelope

/-- The site after its broker has accepted an envelope. -/
def publish (site : Site) (envelope : Envelope) : Site :=
  { site with broker := { site.broker with published := site.broker.published ++ [envelope] } }

/-- A push succeeds exactly when there is a way to the broker, the broker answers in time and does
not reject the record, and then it publishes the envelope and changes nothing else. -/
theorem push_ok_iff (site next : Site) (patience : Duration) (envelope : Envelope) :
    site.push patience envelope = .ok next ↔
      (site.outage = none ∧ site.broker.answersWithin patience = true ∧
        envelope.eventId ∉ site.broker.failing) ∧ next = site.publish envelope := by
  rw [push]
  cases outage : site.outage with
  | some error => simp
  | none =>
    simp only [MemoryBroker.push, MemoryBroker.send, publish, outage]
    by_cases inTime : site.broker.answersWithin patience = true
    · by_cases rejected : envelope.eventId ∈ site.broker.failing
      · simp [inTime, rejected, Except.map, Except.mapError]
      · simp only [inTime, rejected, if_true, if_false, Except.map, Except.mapError,
          Except.ok.injEq, not_false_eq_true, and_self, true_and]
        exact eq_comm
    · simp [inTime, Except.map]

/-- A delivery is answered by its verdict, and publishes exactly the envelope of the verdict. -/
theorem answer_deliver (site : Site) (sending : Sending) (record : EventRecord) :
    site.answer sending (.deliver record) =
      match site.verdict sending record with
      | .ok envelope => (.ok (), site.publish envelope)
      | .error error => (.error error, site) := by
  rw [answer, verdict]
  cases sending.sender.envelope sending.names record with
  | error error => rfl
  | ok envelope =>
    cases pushed : site.push sending.patience envelope with
    | error error => simp only [pushed]
    | ok next =>
      have same : next = site.publish envelope := ((push_ok_iff _ _ _ _).mp pushed).2
      simp only [pushed, same]

/-- A delivery is accepted exactly when the sender makes an envelope of the record, there is a way
to the broker, and the broker answers in time and does not reject the record. -/
theorem verdict_ok_iff (site : Site) (sending : Sending) (record : EventRecord)
    (envelope : Envelope) :
    site.verdict sending record = .ok envelope ↔
      sending.sender.envelope sending.names record = .ok envelope ∧ site.outage = none ∧
        site.broker.answersWithin sending.patience = true ∧ record.id ∉ site.broker.failing := by
  rw [verdict]
  cases made : sending.sender.envelope sending.names record with
  | error error => simp
  | ok other =>
    have named : other.eventId = record.id := Sender.eventId_of_envelope made
    rw [Except.ok.injEq, ← named]
    cases pushed : site.push sending.patience other with
    | error error =>
      have refused : ¬ (site.outage = none ∧ site.broker.answersWithin sending.patience = true ∧
          other.eventId ∉ site.broker.failing) := by
        intro accepted
        have succeeds := (push_ok_iff site _ sending.patience other).mpr ⟨accepted, rfl⟩
        rw [pushed] at succeeds
        cases succeeds
      simp [refused, pushed]
    | ok next =>
      have accepted := ((push_ok_iff site next sending.patience other).mp pushed).1
      simp [accepted, pushed]

end Site

end Outbox
