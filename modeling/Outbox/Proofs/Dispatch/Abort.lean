import Outbox.Database.Site
import Outbox.Proofs.Database.Rows
import Outbox.Proofs.Dispatch.Exchange

/-!
# Why runs are aborted

A run is aborted when the store cannot be reached, and also when one of the two loads at its start
fails for any other reason. After the loads a failure that concerns a single record does not keep
the run from trying the other ones.

In a database one row of a delivery that cannot be read makes the load of all deliveries fail, so it
keeps every pending record back, while a row of a record that cannot be read is left out.
-/

namespace Outbox

open Calendar

namespace Database

/-- One row of a delivery that cannot be read aborts a run before any record is tried, whatever the
other rows are. -/
theorem dispatch_unreadable_delivery (site : Site) (sending : Sending) (policy : RetryPolicy)
    (now : Timestamp) (pending deliveries : Result) (replies : List Reply)
    (isOpen : site.database.isClosed = false)
    (replied : site.database.replies = .ok pending :: .ok deliveries :: replies) {row : Row}
    (member : row ∈ deliveries.rows)
    (unreadable : ∃ failure, DeliveryRow.read row = .error failure) :
    ∃ reason after, site.dispatch sending policy true now =
        (.aborted .empty (.corrupt reason), after) ∧ after.broker = site.broker := by
  obtain ⟨⟨_, boundary, asked, _⟩, broker⟩ := site
  obtain rfl := isOpen
  obtain rfl := replied
  obtain ⟨records, read⟩ := records_of_rows "decode outbox row" pending.rows
  obtain ⟨failure, failed, ofRow⟩ := mapM_fails DeliveryRow.read member unreadable readsRow_delivery
  obtain ⟨reason, corrupt⟩ := ofRow "decode delivery row"
  have readFails : readDeliveries deliveries.rows =
      ExceptT.mk (.done (.error (.corrupt reason))) := by
    rw [readDeliveries, failed, Operation.reading, Except.mapError, corrupt]
  let loaded : Site := ⟨⟨.ok deliveries :: replies, boundary,
    asked ++ [.recordsWithStatus .pending], false⟩, broker⟩
  let ended : Site := ⟨⟨replies, boundary,
    asked ++ [.recordsWithStatus .pending] ++ [.deliveries], false⟩, broker⟩
  have loadsPending : Site.answer sending
      ⟨⟨.ok pending :: .ok deliveries :: replies, boundary, asked, false⟩, broker⟩ .loadPending =
        (RecordRow.records (pending.rows.map fun row =>
          (RecordRow.read row).mapError (Failure.during "decode outbox row")), loaded) := rfl
  have loadsDeliveries : loaded.answer sending .loadDeliveries =
      (.error (.corrupt reason), ended) := by
    change ended.hold ((readDeliveries deliveries.rows >>= fun read =>
      pure (Table.ofList read) : Operation (Table Delivery.event))) = _
    rw [readFails]
    rfl
  rw [read] at loadsPending
  refine ⟨reason, ended, ?_, rfl⟩
  rw [Site.dispatch, Run.tick]
  simp only [Bool.not_true, Bool.false_eq_true, if_false, Run.execute, loadsPending,
    loadsDeliveries]

end Database

namespace Run

section

variable {World : Type} (answer : World → (request : Request) → request.Answer × World)
  (policy : RetryPolicy) (now : Timestamp) (world : World)

/-- A run that leads fails in one of its loads and has exchanged nothing else, or goes through what
it has loaded. -/
theorem tick_cases :
    (∃ error, ((tick policy true now).execute answer world).1 = .aborted .empty error ∧
      ∀ exchange ∈ (tick policy true now).exchanges answer world, exchange.isLoad = true) ∨
    ∃ pending deliveries report later,
      ((tick policy true now).execute answer world) =
        (through policy now (MemoryStore.inOrder pending) deliveries report).execute answer
          later ∧
      (tick policy true now).exchanges answer world =
        ⟨.loadPending, .ok pending⟩ :: ⟨.loadDeliveries, .ok deliveries⟩ ::
          (through policy now (MemoryStore.inOrder pending) deliveries report).exchanges answer
            later := by
  rw [tick]
  simp only [Bool.not_true, Bool.false_eq_true, if_false, execute_ask, exchanges_ask]
  cases (answer world .loadPending).1 with
  | error error =>
    left
    refine ⟨error, rfl, ?_⟩
    intro exchange member
    rw [List.mem_singleton.mp member]
    rfl
  | ok pending =>
    simp only [execute_ask, exchanges_ask]
    cases (answer (answer world .loadPending).2 .loadDeliveries).1 with
    | error error =>
      left
      refine ⟨error, rfl, ?_⟩
      intro exchange member
      rcases List.mem_cons.mp member with rfl | member
      · rfl
      · rw [List.mem_singleton.mp member]
        rfl
    | ok deliveries => exact Or.inr ⟨pending, deliveries, _, _, rfl, rfl⟩

/-- A run is aborted with an error that does not say that the store cannot be reached only by one of
its loads, and then before any record is tried. -/
theorem aborted_by_load {report : Report} {error : StoreError}
    (aborted : ((tick policy true now).execute answer world).1 = .aborted report error)
    (reachable : error.isUnavailable = false) :
    report = .empty ∧
      ∀ exchange ∈ (tick policy true now).exchanges answer world, exchange.isLoad = true := by
  rcases tick_cases answer policy now world with
    ⟨other, ended, onlyLoads⟩ | ⟨pending, deliveries, start, later, executed, _⟩
  · rw [ended] at aborted
    exact ⟨(TickOutcome.aborted.inj aborted).1.symm, onlyLoads⟩
  · rw [executed] at aborted
    rcases through_tries answer policy now (MemoryStore.inOrder pending) deliveries start later with
      (crashed | ⟨_, other, ended, unavailable⟩) | ⟨final, completed, _⟩
    · rw [crashed] at aborted
      cases aborted
    · rw [ended] at aborted
      rw [← (TickOutcome.aborted.inj aborted).2, unavailable] at reachable
      cases reachable
    · rw [completed] at aborted
      cases aborted

/-- A run that is not broken off completes, and has tried every record that it has loaded except
those that wait for their next attempt. -/
theorem tick_tries :
    (∃ report error, ((tick policy true now).execute answer world).1 = .aborted report error) ∨
    ((tick policy true now).execute answer world).1 = .crashed ∨
    ∃ report pending deliveries,
      ((tick policy true now).execute answer world).1 = .completed report ∧
      ⟨.loadPending, .ok pending⟩ ∈ (tick policy true now).exchanges answer world ∧
      ⟨.loadDeliveries, .ok deliveries⟩ ∈ (tick policy true now).exchanges answer world ∧
      ∀ record ∈ pending, Waits deliveries now record ∨
        ∃ reply, ⟨.deliver record, reply⟩ ∈ (tick policy true now).exchanges answer world := by
  rcases tick_cases answer policy now world with
    ⟨error, aborted, _⟩ | ⟨pending, deliveries, start, later, executed, exchanged⟩
  · exact Or.inl ⟨_, error, aborted⟩
  · rw [executed, exchanged]
    rcases through_tries answer policy now (MemoryStore.inOrder pending) deliveries start later with
      (crashed | ⟨report, error, aborted, _⟩) | ⟨final, completed, each⟩
    · exact Or.inr (Or.inl crashed)
    · exact Or.inl ⟨report, error, aborted⟩
    · refine Or.inr (Or.inr ⟨final, pending, deliveries, completed, List.mem_cons_self,
        List.mem_cons_of_mem _ List.mem_cons_self, ?_⟩)
      intro record member
      have ordered : record ∈ MemoryStore.inOrder pending := 
        (MemoryStore.mem_inOrder pending record).mpr member
      rcases each record ordered with waits | ⟨reply, tried⟩
      · exact Or.inl waits
      · exact Or.inr ⟨reply, List.mem_cons_of_mem _ (List.mem_cons_of_mem _ tried)⟩

end

/-- When and why a run is aborted, whatever its requests are answered with.

It is aborted with an error exactly when the store said with it that it cannot be reached, or when
one of the loads failed with it. An error of any other kind aborts it only in the loads, and then no
record was tried. A run that leads and is not aborted completes and has tried every loaded record
that does not wait for its next attempt, unless the next attempt of one lies beyond the calendar.

In a database the load of the deliveries fails, with no record tried, as soon as one of its rows
cannot be read. -/
theorem aborts_exactly_on_fatal (policy : RetryPolicy) (now : Timestamp) :
    (∀ (World : Type) (answer : World → (request : Request) → request.Answer × World)
      (world : World) (isLeader : Bool),
      (∀ error,
        (∃ report, ((tick policy isLeader now).execute answer world).1 = .aborted report error) ↔
          ∃ exchange ∈ (tick policy isLeader now).exchanges answer world,
            exchange.failure? = some error ∧
              (exchange.isLoad = true ∨ error.isUnavailable = true)) ∧
      (∀ report error,
        ((tick policy isLeader now).execute answer world).1 = .aborted report error →
          error.isUnavailable = false → report = .empty ∧
            ∀ exchange ∈ (tick policy isLeader now).exchanges answer world,
              exchange.isLoad = true) ∧
      (isLeader = true →
        (∃ report error,
          ((tick policy isLeader now).execute answer world).1 = .aborted report error) ∨
        ((tick policy isLeader now).execute answer world).1 = .crashed ∨
        ∃ report pending deliveries,
          ((tick policy isLeader now).execute answer world).1 = .completed report ∧
          ⟨.loadPending, .ok pending⟩ ∈ (tick policy isLeader now).exchanges answer world ∧
          ⟨.loadDeliveries, .ok deliveries⟩ ∈ (tick policy isLeader now).exchanges answer world ∧
          ∀ record ∈ pending, Waits deliveries now record ∨ ∃ reply,
            ⟨.deliver record, reply⟩ ∈ (tick policy isLeader now).exchanges answer world)) ∧
    (∀ (site : Database.Site) (sending : Sending) (pending deliveries : Database.Result)
      (replies : List Database.Reply), site.database.isClosed = false →
      site.database.replies = .ok pending :: .ok deliveries :: replies →
      (∃ row ∈ deliveries.rows, ∃ failure, Database.DeliveryRow.read row = .error failure) →
      ∃ reason after, site.dispatch sending policy true now =
        (.aborted .empty (.corrupt reason), after) ∧ after.broker = site.broker) := by
  constructor
  · intro World answer world isLeader
    refine ⟨?_, ?_, ?_⟩
    · intro error
      exact aborted_iff_fatal answer _ (endsOnFatal_tick policy isLeader now) world error
    · intro report error aborted reachable
      cases isLeader with
      | false => cases aborted
      | true => exact aborted_by_load answer policy now world aborted reachable
    · intro leading
      rw [leading]
      exact tick_tries answer policy now world
  · intro site sending pending deliveries replies isOpen replied unreadable
    obtain ⟨row, member, fails⟩ := unreadable
    exact Database.dispatch_unreadable_delivery site sending policy now pending deliveries replies
      isOpen replied member fails

/-- A database with the row of one pending record and the row of a delivery without a number of
attempts. -/
def withUnreadableDelivery : Database.Site where
  database := {
    replies := [
      .ok ⟨1, [Database.RecordRow.columns.zip (Database.RecordRow.ofRecord default).data]⟩,
      .ok ⟨1, [[("attempts", .null)]]⟩]
    boundary := none
    asked := []
    isClosed := false }
  broker := .empty

/-- A single row that cannot be read ends the run before anything is sent, although the due record
has nothing to do with it. -/
theorem unreadable_delivery_aborts :
    ∃ reason after, withUnreadableDelivery.dispatch ⟨⟨.empty, ""⟩, fun _ => none, .zero⟩ .default
      true default = (.aborted .empty (.corrupt reason), after) ∧ after.broker.published = [] := by
  obtain ⟨reason, after, aborted, broker⟩ :=
    (aborts_exactly_on_fatal .default default).2 withUnreadableDelivery _ _ _ [] rfl rfl
      ⟨_, List.mem_cons_self, _, rfl⟩
  exact ⟨reason, after, aborted, by rw [broker]; rfl⟩

end Run

end Outbox
