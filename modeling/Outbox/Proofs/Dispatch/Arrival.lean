import Outbox.Proofs.Dispatch.Attempts
import Outbox.Proofs.Store.Content

/-!
# The order in which records came in

A store lists its records and deliveries in some order, which may come from the order in which they
were stored. A dispatch run does not depend on it. The records that it loads are put in the order of
delivery, where no two of them are level, and of the deliveries that it loads it only looks up those
of its records. So two sites with the same content go through the same run step by step: they answer
every request alike, and have the same content after it.

What a run publishes follows the order of delivery as well: it is made of some of the pending
records, in that order, one envelope for each.
-/

namespace Outbox

open Calendar

namespace Run

/-- A run through records only looks up what was loaded of the deliveries. -/
theorem through_eq_of_perm {policy : RetryPolicy} {now : Timestamp} {records : List EventRecord}
    {left right : Table Delivery.event} (same : left.rows.Perm right.rows) (report : Report) :
    through policy now records left report = through policy now records right report := by
  induction records generalizing left right report with
  | nil => rfl
  | cons record rest inductionHypothesis =>
    have found : left.find? record.id = right.find? record.id :=
      Table.perm_iff_find?_eq.mp same record.id
    have next : through policy now rest (left.erase record.id) =
        through policy now rest (right.erase record.id) :=
      funext fun report => inductionHypothesis (same.filter _) report
    rw [through, through, found, next]

/-- A run ends alike in two worlds, and leaves them alike, if they answer alike whatever it may ask
and stay alike with it. -/
theorem execute_alike {World : Type} {answer : World → (request : Request) → request.Answer × World}
    {Alike : World → World → Prop} {permitted : Request → Prop}
    (answers : ∀ left right request, Alike left right → permitted request →
      (answer left request).1 = (answer right request).1 ∧
        Alike (answer left request).2 (answer right request).2)
    {run : Run} (only : run.Only permitted) {left right : World} (alike : Alike left right) :
    (run.execute answer left).1 = (run.execute answer right).1 ∧
      Alike (run.execute answer left).2 (run.execute answer right).2 := by
  induction run generalizing left right with
  | done outcome => exact ⟨rfl, alike⟩
  | ask request resume inductionHypothesis =>
    obtain ⟨reply, stillAlike⟩ := answers left right request alike only.1
    rw [execute_ask, execute_ask, reply]
    exact inductionHypothesis _ (only.2 _) stillAlike

end Run

namespace Site

/-- Two sites with the same broker and the same faults, whose stores have the same content. -/
structure SameContent (left right : Site) : Prop where
  store : left.store.SameContent right.store
  broker : left.broker = right.broker
  faults : left.faults = right.faults
  outage : left.outage = right.outage

namespace SameContent

variable {left right : Site} {sending : Sending}

/-- A call fails as planned in both sites, or is answered by both stores. -/
theorem call (same : left.SameContent right) (call : StoreCall) :
    (call ≠ .deliveryStates → (left.call call).1 = (right.call call).1) ∧
      (left.call call).2.SameContent (right.call call).2 := by
  rw [Site.call, Site.call, same.faults]
  cases planned : right.faults.call call.operation with
  | mk failure faults =>
    cases failure with
    | some error => exact ⟨fun _ => rfl, same.store, same.broker, rfl, same.outage⟩
    | none =>
      obtain ⟨answered, store⟩ := same.store.call call
      exact ⟨answered, store, same.broker, rfl, same.outage⟩

/-- The deliveries cannot be loaded at either site, or they are the same. Their order may differ,
since a table lists its rows in the order in which they arrived. -/
theorem loadDeliveries (same : left.SameContent right) (sending : Sending) :
    (∃ error, (left.answer sending .loadDeliveries).1 = .error error ∧
      (right.answer sending .loadDeliveries).1 = .error error) ∨
    ∃ forth back, (left.answer sending .loadDeliveries).1 = .ok forth ∧
      (right.answer sending .loadDeliveries).1 = .ok back ∧ forth.rows.Perm back.rows := by
  rw [Site.answer, Site.answer, Site.call, Site.call, same.faults]
  cases planned : right.faults.call StoreOperation.deliveryStates with
  | mk failure faults =>
    have operation : StoreCall.deliveryStates.operation = .deliveryStates := rfl
    rw [operation, planned]
    cases failure with
    | some error => exact .inl ⟨error, rfl, rfl⟩
    | none =>
      simp only [MemoryStore.call, MemoryStore.deliveryStates, MemoryStore.whenAvailable,
        same.store.available]
      split
      · exact .inr ⟨_, _, rfl, rfl, same.store.deliveries⟩
      · exact .inl ⟨_, rfl, rfl⟩

/-- Sites with the same content have the same verdict on a record, since the verdict is up to the
broker. -/
theorem verdict (same : left.SameContent right) (record : EventRecord) :
    left.verdict sending record = right.verdict sending record := by
  rw [Site.verdict, Site.verdict]
  cases sending.sender.envelope sending.names record with
  | error error => rfl
  | ok envelope =>
    simp only [push, same.outage, same.broker]
    cases right.outage with
    | some error => rfl
    | none => cases right.broker.push sending.patience envelope <;> rfl

/-- Every request of a run but the load of the deliveries is answered alike. The pending records are
no exception, since the store sorts them before it returns them. -/
theorem answer (same : left.SameContent right) (sending : Sending) {request : Request}
    (other : request ≠ .loadDeliveries) :
    (left.answer sending request).1 = (right.answer sending request).1 ∧
      (left.answer sending request).2.SameContent (right.answer sending request).2 := by
  have ofCall (call : StoreCall) (other : call ≠ .deliveryStates) :
      (left.call call).1 = (right.call call).1 ∧
        (left.call call).2.SameContent (right.call call).2 :=
    (same.call call).imp_left fun answered => answered other
  cases request with
  | loadPending => exact ofCall _ StoreCall.noConfusion
  | loadDeliveries => exact absurd rfl other
  | deliver record =>
    rw [answer_deliver, answer_deliver, same.verdict]
    cases right.verdict sending record with
    | error error => exact ⟨rfl, same⟩
    | ok envelope =>
      refine ⟨rfl, same.store, ?_, same.faults, same.outage⟩
      simp only [publish, same.broker]
  | markSent event moment => exact ofCall _ StoreCall.noConfusion
  | clearDelivery event => exact ofCall _ StoreCall.noConfusion
  | saveDelivery delivery => exact ofCall _ StoreCall.noConfusion

/-- A run through records loads nothing any more, so it ends alike. -/
theorem execute_through (same : left.SameContent right) (sending : Sending) (policy : RetryPolicy)
    (now : Timestamp) (records : List EventRecord) (deliveries : Table Delivery.event)
    (report : Report) :
    let run := Run.through policy now records deliveries report
    (run.execute (Site.answer sending) left).1 = (run.execute (Site.answer sending) right).1 ∧
      (run.execute (Site.answer sending) left).2.SameContent
        (run.execute (Site.answer sending) right).2 := by
  intro run
  have loadsNothing : run.Only (· ≠ .loadDeliveries) := by
    apply (Run.only_through policy now records deliveries report).mono
    rintro request ⟨record, _, subject⟩ rfl
    cases subject
  exact Run.execute_alike (fun _ _ _ alike other => alike.answer sending other) loadsNothing same

/-- A dispatch run ends alike at sites with the same content, and they have the same content
afterwards. -/
theorem dispatch (same : left.SameContent right) (sending : Sending) (policy : RetryPolicy)
    (isLeader : Bool) (now : Timestamp) :
    (left.dispatch sending policy isLeader now).1 =
        (right.dispatch sending policy isLeader now).1 ∧
      (left.dispatch sending policy isLeader now).2.SameContent
        (right.dispatch sending policy isLeader now).2 := by
  rw [Site.dispatch, Site.dispatch, Run.tick]
  cases isLeader with
  | false => exact ⟨rfl, same⟩
  | true =>
    have loading : Request.loadPending ≠ .loadDeliveries := Request.noConfusion
    obtain ⟨pending, loaded⟩ := same.answer sending loading
    simp only [Bool.not_true, Bool.false_eq_true, if_false]
    rw [Run.execute_ask, Run.execute_ask, pending]
    cases (right.answer sending .loadPending).1 with
    | error error => exact ⟨rfl, loaded⟩
    | ok records =>
      rw [Run.execute_ask, Run.execute_ask]
      have ready := (loaded.call .deliveryStates).2
      rcases loaded.loadDeliveries sending with ⟨error, forth, back⟩ | ⟨_, _, forth, back, listed⟩
      · rw [forth, back]
        exact ⟨rfl, ready⟩
      · rw [forth, back]
        simp only [Run.through_eq_of_perm listed]
        exact ready.execute_through ..

end SameContent

/-! ## What a run publishes -/

/-- What a broker has published of some records: for some of them, in their order, an envelope each,
behind everything from before. -/
def Publishes (sending : Sending) (records : List EventRecord) (before after : MemoryBroker) :
    Prop :=
  ∃ (sent : List EventRecord) (appended : List Envelope), sent.Sublist records ∧
    sent.map (sending.sender.envelope sending.names) = appended.map .ok ∧
    after.published = before.published ++ appended

section

variable {sending : Sending} {policy : RetryPolicy} {now : Timestamp}

/-- Where no record is handed over nothing is published. -/
theorem Publishes.nothing (records : List EventRecord) (broker : MemoryBroker) :
    Publishes sending records broker broker :=
  ⟨[], [], List.nil_sublist records, rfl, (List.append_nil _).symm⟩

/-- What is published of records one after the other comes one after the other. -/
theorem Publishes.append {first second : List EventRecord} {before middle after : MemoryBroker}
    (former : Publishes sending first before middle)
    (latter : Publishes sending second middle after) :
    Publishes sending (first ++ second) before after := by
  obtain ⟨sent, appended, sublist, made, published⟩ := former
  obtain ⟨moreSent, moreAppended, moreSublist, moreMade, morePublished⟩ := latter
  refine ⟨sent ++ moreSent, appended ++ moreAppended, sublist.append moreSublist, ?_, ?_⟩
  · rw [List.map_append, List.map_append, made, moreMade]
  · rw [morePublished, published, List.append_assoc]

/-- A run that asks for no delivery leaves the broker alone. -/
theorem broker_execute {run : Run} (silent : run.Only fun request => ∀ record,
    request ≠ .deliver record) (site : Site) :
    (run.execute (answer sending) site).2.broker = site.broker := by
  induction run generalizing site with
  | done outcome => rfl
  | ask request resume inductionHypothesis =>
    rw [Run.execute_ask, inductionHypothesis _ (silent.2 _)]
    cases request with
    | deliver record => exact absurd rfl (silent.1 record)
    | loadPending => exact site.broker_call _
    | loadDeliveries => exact site.broker_call _
    | markSent event moment => exact site.broker_call _
    | clearDelivery event => exact site.broker_call _
    | saveDelivery delivery => exact site.broker_call _

/-- A run through a single record publishes its envelope or nothing. Only the delivery reaches the
broker; whatever the run asks afterwards goes to the store. -/
theorem publishes_single (site : Site) (record : EventRecord) (deliveries : Table Delivery.event)
    (report : Report) :
    Publishes sending [record] site.broker
      ((Run.through policy now [record] deliveries report).execute (answer sending)
        site).2.broker := by
  rw [Run.through]
  split
  · exact .nothing _ _
  · rw [Run.execute_ask, answer_deliver]
    cases decided : site.verdict sending record with
    | error error =>
      dsimp only
      rw [broker_execute]
      · exact .nothing _ _
      · exact Run.only_refused (fun _ _ _ => Request.noConfusion) _ _ _ _ _ fun _ => trivial
    | ok envelope =>
      have made := ((site.verdict_ok_iff sending record envelope).mp decided).1
      dsimp only
      rw [broker_execute]
      · exact ⟨[record], [envelope], List.Sublist.refl _, congrArg (fun each => [each]) made, rfl⟩
      · exact Run.only_acknowledged (fun _ => Request.noConfusion) (fun _ => Request.noConfusion)
          _ _ fun _ => trivial

/-- A run through records publishes the envelopes of some of them, in their order. The run goes
through the first one and, if that does not end it, through the other ones. -/
theorem publishes_through (site : Site) (records : List EventRecord)
    (deliveries : Table Delivery.event) (report : Report) :
    Publishes sending records site.broker
      ((Run.through policy now records deliveries report).execute (answer sending)
        site).2.broker := by
  induction records generalizing site deliveries report with
  | nil => exact .nothing _ _
  | cons record rest inductionHypothesis =>
    rw [Run.through_cons]
    generalize own : Run.through policy now [record] deliveries report = run
    have first : Publishes sending [record] site.broker
        (run.execute (answer sending) site).2.broker :=
      own ▸ publishes_single site record deliveries report
    cases ended : run.execute (answer sending) site with
    | mk outcome later =>
      rw [ended] at first
      by_cases completes : ∃ next, outcome = .completed next
      · obtain ⟨next, rfl⟩ := completes
        rw [Run.execute_andThen ended]
        exact first.append (inductionHypothesis later _ next)
      · rw [Run.execute_andThen_of_stopped (by
          rw [ended]
          exact not_exists.mp completes), ended]
        exact first.append (.nothing rest _)

/-- The pending records that can be loaded are those of the store. -/
theorem pending_of_loaded {site : Site} {records : List EventRecord}
    (loaded : (site.answer sending .loadPending).1 = .ok records) :
    records = site.pendingRecords := by
  change (site.call (.findByStatus .pending)).1 = _ at loaded
  rcases site.call_cases (.findByStatus .pending) with ⟨error, faults, failed⟩ | ⟨faults, answered⟩
  · rw [failed] at loaded
    cases loaded
  · rw [answered] at loaded
    obtain ⟨_, listed⟩ := (site.store.whenAvailable_ok_iff _ records).mp loaded
    exact (Except.ok.inj listed).symm

variable (sending policy now) in
/-- A dispatch run publishes the envelopes of some of the pending records, in the order of
delivery. -/
theorem publishes_dispatch (site : Site) (isLeader : Bool) :
    Publishes sending site.pendingRecords site.broker
      (site.dispatch sending policy isLeader now).2.broker := by
  rw [dispatch, Run.tick]
  cases isLeader with
  | false => exact .nothing _ _
  | true =>
    simp only [Bool.not_true, Bool.false_eq_true, if_false]
    rw [Run.execute_ask]
    have kept : (site.answer sending .loadPending).2.broker = site.broker := site.broker_call _
    cases loaded : (site.answer sending .loadPending).1 with
    | error error =>
      rw [← kept]
      exact .nothing _ _
    | ok records =>
      dsimp only
      rw [Run.execute_ask, pending_of_loaded loaded, pendingRecords, MemoryStore.inOrder_inOrder]
      generalize (site.answer sending .loadPending).2 = ready at kept
      have stillKept : (ready.answer sending .loadDeliveries).2.broker = ready.broker :=
        ready.broker_call _
      rw [← kept, ← stillKept]
      cases (ready.answer sending .loadDeliveries).1 with
      | error error => exact .nothing _ _
      | ok deliveries => exact publishes_through _ _ deliveries _

end

/-- Envelopes go by the identifiers of the records for which they are made. -/
theorem eventIds_of_made {sending : Sending} {sent : List EventRecord} {appended : List Envelope}
    (made : sent.map (sending.sender.envelope sending.names) = appended.map .ok) :
    appended.map Envelope.eventId = sent.map EventRecord.id := by
  induction sent generalizing appended with
  | nil =>
    rw [List.map_nil, eq_comm, List.map_eq_nil_iff] at made
    rw [made]
    rfl
  | cons record rest inductionHypothesis =>
    cases appended with
    | nil => cases made
    | cons envelope others =>
      obtain ⟨first, madeRest⟩ := List.cons.inj made
      rw [List.map_cons, List.map_cons, Sender.eventId_of_envelope first,
        inductionHypothesis madeRest]

/-- A dispatch run does not depend on the order in which records and deliveries came into the store.

At two sites with the same broker and the same faults, whose stores hold the same records and the
same deliveries in whatever order, the records of every status are listed alike, a dispatch run ends
with the same outcome, and the sites have the same content after it. Both publish the same
envelopes, in the same order, behind what had been published before: those of some of the pending
records, by ascending moment of creation and then by ascending identifier, and of each record at
most once. -/
theorem dispatch_regardless_of_arrival {left right : Site} (same : left.SameContent right)
    (sending : Sending) (policy : RetryPolicy) (isLeader : Bool) (now : Timestamp) :
    (∀ status, left.store.findByStatus status = right.store.findByStatus status) ∧
    (left.dispatch sending policy isLeader now).1 =
      (right.dispatch sending policy isLeader now).1 ∧
    (left.dispatch sending policy isLeader now).2.SameContent
      (right.dispatch sending policy isLeader now).2 ∧
    ∃ (sent : List EventRecord) (appended : List Envelope),
      (left.dispatch sending policy isLeader now).2.broker.published =
        left.broker.published ++ appended ∧
      (right.dispatch sending policy isLeader now).2.broker.published =
        right.broker.published ++ appended ∧
      sent.map (sending.sender.envelope sending.names) = appended.map .ok ∧
      (∀ record ∈ sent, record ∈ left.store.records.rows ∧ record.status = .pending) ∧
      appended.map Envelope.eventId = sent.map EventRecord.id ∧
      (sent.Pairwise fun former later => former.created.before later.created = true ∨
        former.created = later.created ∧ former.id < later.id) ∧
      (appended.map Envelope.eventId).Nodup := by
  obtain ⟨ended, content⟩ := same.dispatch sending policy isLeader now
  obtain ⟨sent, appended, sublist, made, published⟩ :=
    publishes_dispatch sending policy now left isLeader
  have distinct : (sent.map EventRecord.id).Nodup :=
    left.nodup_pendingRecords.sublist (sublist.map EventRecord.id)
  have ordered : left.pendingRecords.Pairwise fun former later => former.before later = true :=
    MemoryStore.pairwise_before_inOrder
      (left.store.records.distinct.sublist (List.filter_sublist.map EventRecord.id))
  have named := eventIds_of_made made
  refine ⟨same.store.findByStatus, ended, content, sent, appended, published, ?_, made, ?_, named,
    ?_, named ▸ distinct⟩
  · rw [← content.broker, published, same.broker]
  · intro record member
    exact (left.mem_pendingRecords record).mp (sublist.subset member)
  · refine (ordered.sublist sublist).imp ?_
    intro former later before
    simpa [EventRecord.before] using before

/-- A site whose store has been filled with records, one after the other. -/
def filledWith (records : List EventRecord) : Site :=
  { empty with store := { MemoryStore.empty with records := .ofList records } }

/-- Sites filled with the same records have the same content, in whatever order these came in. -/
theorem sameContent_filledWith {records others : List EventRecord}
    (distinct : (records.map EventRecord.id).Nodup) (same : records.Perm others) :
    (filledWith records).SameContent (filledWith others) :=
  ⟨⟨Table.perm_ofList distinct same, .refl _, rfl⟩, rfl, rfl, rfl⟩

/-- Two records created at once. -/
def twins : List EventRecord := [default, { (default : EventRecord) with id := .ofNumber 1 }]

/-- Two records are published alike whichever of them came first, although they are listed in the
order in which they came. -/
theorem twins_published_alike :
    (filledWith twins).store.records.rows.map EventRecord.id ≠
        (filledWith twins.reverse).store.records.rows.map EventRecord.id ∧
      ((filledWith twins).dispatch plainSending .default true default).2.broker.published =
        ((filledWith twins.reverse).dispatch plainSending .default true
          default).2.broker.published := by
  have same : (filledWith twins).SameContent (filledWith twins.reverse) :=
    sameContent_filledWith (by decide) (List.reverse_perm twins).symm
  obtain ⟨_, _, content, _⟩ :=
    dispatch_regardless_of_arrival same plainSending .default true default
  exact ⟨by decide, congrArg MemoryBroker.published content.broker⟩

end Site

end Outbox
