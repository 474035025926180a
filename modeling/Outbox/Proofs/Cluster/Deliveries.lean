import Outbox.Proofs.Cluster.Publication
import Outbox.Proofs.Dispatch.Remaining
import Outbox.Proofs.Store.Batch

/-!
# What a cluster remembers of deliveries

What is remembered under an identifier changes only when a run writes what came of a delivery, when
an operator requeues it, or when retention deletes the sent record. `Cluster.DeliveryStep` lists
these effects as `Cluster.RecordStep` does it for the records. A pending record stays pending unless
a run is about to mark it as sent, and every run under way is in one of the stages of a run.
-/

namespace Outbox

open Calendar

namespace Cluster

/-- What is remembered of deliveries. -/
def deliveries (cluster : Cluster) : Table Delivery.event := cluster.site.store.deliveries

/-- Whether a record is stored as pending. -/
def IsPending (cluster : Cluster) (event : Identifier) : Prop :=
  ∃ record, cluster.records.find? event = some record ∧ record.status = .pending

/-- Whether every run under way is in one of the stages of a run. -/
def Staged (cluster : Cluster) : Prop :=
  ∀ number task, cluster.tasks number = some task → task.run.Stage

/-- The effects that a move can have on what is remembered under an identifier: none; a run
remembers a failed delivery, or forgets the deliveries; an operator lets a parked record be tried
again; or a leading retention job deletes the record, which was sent. -/
inductive DeliveryStep (before after : Cluster) (event : Identifier) : Move → Prop
  | kept (move : Move) (same : after.deliveries.find? event = before.deliveries.find? event) :
      DeliveryStep before after event move
  | remembered (number : Nat) (names : CategoryNames) (dispatcher : Dispatcher)
      (delivery : Delivery) (next : Except StoreError Unit → Run)
      (waiting : before.tasks number = some ⟨dispatcher, .ask (.saveDelivery delivery) next⟩)
      (named : delivery.event = event)
      (found : after.deliveries.find? event = some delivery) :
      DeliveryStep before after event (.advance number names)
  | forgotten (number : Nat) (names : CategoryNames) (dispatcher : Dispatcher)
      (next : Except StoreError Unit → Run)
      (waiting : before.tasks number = some ⟨dispatcher, .ask (.clearDelivery event) next⟩)
      (gone : after.deliveries.find? event = none) :
      DeliveryStep before after event (.advance number names)
  | requeued (now : Timestamp) (delivery : Delivery)
      (found : before.deliveries.find? event = some delivery) (parked : delivery.parked = true)
      (left : after.deliveries.find? event = some (delivery.requeued now)) :
      DeliveryStep before after event (.requeue event now)
  | deleted (span : Int) (now : Timestamp) (record : EventRecord)
      (stored : before.records.find? event = some record) (sent : record.status = .sent)
      (gone : after.deliveries.find? event = none) :
      DeliveryStep before after event (.retain true span now)

section

variable {cluster : Cluster} {event : Identifier} {number : Nat} {dispatcher : Dispatcher}
  {request : Request} {next : request.Answer → Run}

/-! ## Runs under way -/

/-- A run that makes its next request goes on with the answer, and the other ones wait. -/
theorem tasks_advance
    (waiting : cluster.tasks number = some ⟨dispatcher, .ask request next⟩)
    (names : CategoryNames) :
    (cluster.perform (.advance number names)).tasks = Function.update cluster.tasks number
      (some ⟨dispatcher, next (cluster.site.answer (dispatcher.sending names) request).1⟩) := by
  rw [perform, waiting]
  rfl

/-- A site loads every pending record once. -/
theorem credible_answer (site : Site) (sending : Sending) (request : Request) :
    request.Credible (site.answer sending request).1 := by
  cases request with
  | loadPending =>
    cases answered : (site.answer sending .loadPending).1 with
    | error error => trivial
    | ok pending => exact ((Site.surroundings sending).loaded site pending answered).1
  | _ => trivial

/-- Every run under way stays in one of the stages. -/
theorem Staged.perform (staged : cluster.Staged) (move : Move) :
    (cluster.perform move).Staged := by
  intro number task found
  rcases task_perform cluster move found with
    before | ⟨_, isLeader, now, begun⟩ | ⟨names, request, next, _, waiting, answered⟩
  · exact staged number task before
  · rw [begun]
    exact Run.stage_tick _ isLeader now
  · rw [answered]
    exact (staged number _ waiting).answered (credible_answer ..)

/-! ## Pending records -/

/-- A pending record stays pending, unless a run is about to mark it as sent. A retention job
removes sent records only. -/
theorem IsPending.perform (pending : cluster.IsPending event) (move : Move) :
    (cluster.perform move).IsPending event ∨ ∃ number names dispatcher moment next,
      move = .advance number names ∧
        cluster.tasks number = some ⟨dispatcher, .ask (.markSent event moment) next⟩ := by
  obtain ⟨record, stored, isPending⟩ := pending
  cases recordStep_perform cluster move with
  | kept _ records =>
    left
    exact ⟨record, records ▸ stored, isPending⟩
  | entered _ fresh records =>
    left
    exact ⟨record, records ▸ Table.find?_putAll_of_known fresh stored, isPending⟩
  | published number names dispatcher reported moment next changed waiting found _ records =>
    have named : changed.id = reported := Table.key_of_find? found
    by_cases same : event = reported
    · right
      exact ⟨number, names, dispatcher, moment, next, rfl, same ▸ waiting⟩
    · left
      refine ⟨record, ?_, isPending⟩
      rw [records, Table.find?_put, named, if_neg same]
      exact stored
  | expired _ _ _ _ records =>
    left
    refine ⟨record, ?_, isPending⟩
    rw [records, Table.find?_filter, stored, Option.filter_some, MemoryStore.expired, isPending]
    rfl

/-! ## Effects on what is remembered -/

/-- A run's next request changes what is remembered only when it writes what came of a delivery of
the record. -/
theorem deliveryStep_resume (names : CategoryNames) {next : request.Answer → Run}
    (waiting : cluster.tasks number = some ⟨dispatcher, .ask request next⟩) :
    DeliveryStep cluster (cluster.resume number names dispatcher request next) event
      (.advance number names) := by
  cases request with
  | deliver record =>
    apply DeliveryStep.kept
    change ((cluster.site.answer _ (.deliver record)).2).store.deliveries.find? event = _
    rw [Site.answer_deliver]
    cases cluster.site.verdict (dispatcher.sending names) record <;> rfl
  | loadPending => exact .kept _ (cluster.site.delivery_kept rfl event)
  | loadDeliveries => exact .kept _ (cluster.site.delivery_kept rfl event)
  | markSent subject moment => exact .kept _ (cluster.site.delivery_kept rfl event)
  | clearDelivery subject =>
    have effect := cluster.site.delivery_call (.clearDelivery subject) event
    generalize after : (cluster.site.call (.clearDelivery subject)).2.store.deliveries.find? event =
      left at effect
    cases effect with
    | kept _ => exact .kept _ after
    | forgotten => exact .forgotten number names dispatcher next waiting after
  | saveDelivery delivery =>
    have effect := cluster.site.delivery_call (.saveDelivery delivery) event
    generalize after : (cluster.site.call (.saveDelivery delivery)).2.store.deliveries.find? event =
      left at effect
    cases effect with
    | kept _ => exact .kept _ after
    | remembered _ named =>
      exact .remembered number names dispatcher delivery next waiting named after

/-- Every move has one of the listed effects on what is remembered. A retention job forgets the
delivery of each record that it removes. -/
theorem deliveryStep_perform (cluster : Cluster) (event : Identifier) (move : Move) :
    DeliveryStep cluster (cluster.perform move) event move := by
  cases move with
  | start number dispatcher isLeader now =>
    rw [perform]
    cases cluster.dispatchers[dispatcher]? <;> exact .kept _ rfl
  | advance number names =>
    rw [perform]
    rcases waiting : cluster.tasks number with _ | ⟨dispatcher, _ | ⟨request, next⟩⟩
    · exact .kept _ rfl
    · exact .kept _ rfl
    · exact deliveryStep_resume names waiting
  | retain isLeader span now =>
    rcases cluster.site.retainKeeping_cases isLeader span now with idle | ⟨rfl, cutoff, _, deleting⟩
    · rw [perform, idle]
      exact .kept _ rfl
    · rw [perform, deleting]
      have effect := cluster.site.delivery_call (.deleteWhere .sent cutoff) event
      generalize after : (cluster.site.call (.deleteWhere .sent cutoff)).2.store.deliveries.find?
        event = left at effect
      cases effect with
      | kept _ => exact .kept _ after
      | deleted _ _ record stored doomed =>
        have sent : record.status = .sent := by
          rw [MemoryStore.expired, Bool.and_eq_true, decide_eq_true_eq] at doomed
          exact doomed.1
        exact .deleted span now record stored sent after
  | save record => exact .kept _ (cluster.site.delivery_kept rfl event)
  | commit work =>
    apply DeliveryStep.kept
    rw [perform]
    cases cluster.works work with
    | none => rfl
    | some unit =>
      cases outcome : cluster.site.store.insertAll unit.staged with
      | error error =>
        simp only [(UnitOfWork.commit_of_refused outcome).2]
        rfl
      | ok next =>
        simp only [(UnitOfWork.commit_of_inserted outcome).2]
        obtain ⟨_, rfl⟩ := MemoryStore.insertAll_ok outcome
        rfl
  | requeue subject now =>
    have effect := cluster.site.delivery_call (.requeue subject now) event
    generalize after : (cluster.site.call (.requeue subject now)).2.store.deliveries.find? event =
      left at effect
    cases effect with
    | kept _ => exact .kept _ after
    | requeued _ delivery found parked => exact .requeued now delivery found parked after
  | begin work => exact .kept _ rfl
  | insert work record => exact .kept _ rfl
  | abandon work => exact .kept _ rfl
  | disturb faults available outage failing latency => exact .kept _ rfl

end

end Cluster

end Outbox
