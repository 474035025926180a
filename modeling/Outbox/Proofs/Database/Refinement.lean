import Outbox.Proofs.Database.Columns
import Outbox.Proofs.Database.DeliveryCalls
import Outbox.Proofs.Database.RecordCalls

/-!
# The store in a database and the store in memory

Both stores give the same answers to any sequence of calls, and keep the same rows, so that they
cannot be told apart. A leap second does not fit the columns: it is stored as the second after it,
and that tells the stores apart.
-/

namespace Outbox.Database

open Calendar

/-! ## Single calls -/

section Calls

variable {World : Type} {server : Server World} {content : World → Content}
variable {store : MemoryStore} {world : World}

/-- Both stores answer every permitted call alike, and keep the same rows. -/
theorem call_agrees (executes : server.Executes content) (storable : Storable store)
    (mirrors : Mirrors (content world) store) {call : StoreCall}
    (permitted : Permitted store call) : Agrees server content store world call := by
  cases call with
  | save record => exact save_agrees executes storable mirrors permitted.1
  | findByStatus status => exact findByStatus_agrees executes storable mirrors status
  | updateStatus event status moment =>
    exact updateStatus_agrees executes storable mirrors event status moment
  | deleteWhere status before => exact deleteWhere_agrees executes storable mirrors status permitted
  | statistics => exact statistics_agrees executes storable mirrors
  | deliveryStates => exact deliveryStates_agrees executes storable mirrors
  | saveDelivery delivery => exact saveDelivery_agrees executes storable mirrors permitted.1
  | clearDelivery event => exact clearDelivery_agrees executes storable mirrors event
  | parked => exact parked_agrees executes storable mirrors
  | requeue event now => exact requeue_agrees executes storable mirrors event now

/-- After a permitted call everything in memory still fits its row and violates no check. It is
enough to look at the rows that the listed effects of a call bring in or change. -/
theorem storable_call (storable : Storable store) {call : StoreCall}
    (permitted : Permitted store call) : Storable (store.call call).2 := by
  obtain ⟨available, records, deliveries⟩ := storable
  refine ⟨(store.available_call call).trans available, ?_, ?_⟩
  · have effect := store.records_call call
    generalize (store.call call).2.records = after at effect
    intro record inside
    cases effect with
    | kept _ => exact records record inside
    | saved new fresh =>
      rcases (Table.mem_rows_put _ _ _).mp inside with rfl | ⟨stored, _⟩
      · exact permitted
      · exact records record stored
    | published event moment former found pending =>
      rcases (Table.mem_rows_put _ _ _).mp inside with rfl | ⟨stored, _⟩
      · have stored := ((Table.find?_eq_some_iff _ _ _).mp found).1
        obtain ⟨named, fits⟩ := records former stored
        exact ⟨named, fits.1, permitted⟩
      · exact records record stored
    | deleted status before => exact records record (List.mem_filter.mp inside).1
  · have effect := store.deliveries_call call
    generalize (store.call call).2.deliveries = after at effect
    intro delivery inside
    cases effect with
    | kept _ => exact deliveries delivery inside
    | remembered new =>
      rcases (Table.mem_rows_put _ _ _).mp inside with rfl | ⟨stored, _⟩
      · exact permitted.2
      · exact deliveries delivery stored
    | forgotten event => exact deliveries delivery (List.mem_filter.mp inside).1
    | requeued event now former found parked =>
      rcases (Table.mem_rows_put _ _ _).mp inside with rfl | ⟨stored, _⟩
      · exact ⟨Nat.zero_le _, permitted⟩
      · exact deliveries delivery stored
    | deleted status before => exact deliveries delivery (List.mem_filter.mp inside).1

end Calls

/-! ## Runs -/

section Runs

variable {World : Type} (reply : World → Statement → Reply × World)

/-- Whether every one of some calls is permitted when it comes. -/
def PermittedAll : MemoryStore → List StoreCall → Prop
  | _, [] => True
  | store, call :: later => Permitted store call ∧ PermittedAll (store.call call).2 later

/-- Whether calls are permitted one after the other is decided along the store in memory. -/
instance (store : MemoryStore) (calls : List StoreCall) : Decidable (PermittedAll store calls) :=
  match calls with
  | [] => .isTrue trivial
  | call :: later =>
    have := instDecidablePermittedAll (store.call call).2 later
    inferInstanceAs (Decidable (Permitted store call ∧ PermittedAll (store.call call).2 later))

/-- Whether both stores give the same answer to every one of some calls, one after the other. -/
def SameAnswers : MemoryStore → World → List StoreCall → Prop
  | _, _, [] => True
  | store, world, call :: later =>
    SameAnswer call (store.call call).1 (serve reply world call).1 ∧
      SameAnswers (store.call call).2 (serve reply world call).2 later

/-- The store in memory after some calls. -/
def callAll (store : MemoryStore) (calls : List StoreCall) : MemoryStore :=
  calls.foldl (fun store call => (store.call call).2) store

/-- What becomes of the server after some calls. -/
def serveAll (world : World) (calls : List StoreCall) : World :=
  calls.foldl (fun world call => (serve reply world call).2) world

/-- What the stores answer alike they answer alike one by one, each call after the calls before. -/
theorem SameAnswers.answer {store : MemoryStore} {world : World} (before : List StoreCall)
    {call : StoreCall} {after : List StoreCall}
    (same : SameAnswers reply store world (before ++ call :: after)) :
    SameAnswer call ((callAll store before).call call).1
      (serve reply (serveAll reply world before) call).1 := by
  induction before generalizing store world with
  | nil => exact same.1
  | cons first before inductionHypothesis => exact inductionHypothesis same.2

end Runs

/-- The store in a database refines the store in memory. Whatever is in both at the start, they
give the same answers to all permitted calls, errors included, and end with the same records and
deliveries.

All that is assumed of the server is that it executes commands, whatever rows there are. Induct over
the calls: each one keeps the rows those of what is in memory. -/
theorem database_refines_memory {World : Type} {server : Server World}
    {content : World → Content} (executes : server.Executes content) {store : MemoryStore}
    {world : World} (storable : Storable store) (mirrors : Mirrors (content world) store)
    {calls : List StoreCall} (permitted : PermittedAll store calls) :
    SameAnswers server.reply store world calls ∧
      Mirrors (content (serveAll server.reply world calls)) (callAll store calls) := by
  induction calls generalizing store world with
  | nil => exact ⟨trivial, mirrors⟩
  | cons call later inductionHypothesis =>
    obtain ⟨now, afterwards⟩ := permitted
    obtain ⟨sameAnswer, mirroring⟩ := call_agrees executes storable mirrors now
    obtain ⟨sameAnswers, sameRows⟩ :=
      inductionHypothesis (storable_call storable now) mirroring afterwards
    exact ⟨⟨sameAnswer, sameAnswers⟩, sameRows⟩

/-- A pending record of a registered supplier. -/
def waiting (event : Nat) : EventRecord :=
  { (default : EventRecord) with id := .ofNumber event, eventName := "supplier_registered" }

/-- What is remembered of the delivery of such a record. -/
def tried (event attempts : Nat) (parked : Bool) : Delivery :=
  ⟨(waiting event).id, attempts, "unreachable", default, parked⟩

/-- A store with a record that was sent and three pending ones: the delivery of one is parked, that
of another one has failed once, and the last one is new. -/
def usedStore : MemoryStore where
  records := .ofList [{ waiting 3 with status := .sent }, waiting 4, waiting 2, waiting 1]
  deliveries := .ofList [tried 2 1 false, tried 1 5 true]
  available := true

/-- The rows of a store. -/
def rowsOf (store : MemoryStore) : Content
  | .events => store.records.rows.map RecordRow.written
  | .deliveries => store.deliveries.rows.map DeliveryRow.cells
  | .categories => []

/-- The rows that are made of a store mirror it. -/
theorem mirrors_rowsOf (store : MemoryStore) : Mirrors (rowsOf store) store :=
  ⟨.refl _, .refl _⟩

/-- The parked delivery is requeued, and its record is sent and reported sent once more. The one
that is not parked is not requeued, an unknown record is not sent, and a pending one does not become
pending. A new record is saved twice, and two deliveries are remembered, one of them in the place of
another one. At last what was sent is deleted with its deliveries. -/
def requeueAndSend : List StoreCall := [
  .parked, .requeue (waiting 1).id default, .requeue (waiting 2).id default,
  .updateStatus (waiting 1).id .sent default, .updateStatus (waiting 1).id .sent default,
  .updateStatus (waiting 9).id .sent default, .updateStatus (waiting 2).id .pending default,
  .save (waiting 5), .save (waiting 5), .saveDelivery (tried 2 2 true),
  .saveDelivery (tried 5 1 false), .deliveryStates, .findByStatus .pending, .statistics,
  .clearDelivery (waiting 5).id, .deleteWhere .sent ⟨1, 0, by decide⟩, .findByStatus .sent,
  .deliveryStates]

/-- A server and the memory agree on all of these calls. The second report of the same record, the
fifth call, is refused for its status by both. -/
theorem stores_agree_on_requeueAndSend :
    SameAnswers execute.reply usedStore (rowsOf usedStore) requeueAndSend ∧
      Mirrors (serveAll execute.reply (rowsOf usedStore) requeueAndSend)
        (callAll usedStore requeueAndSend) ∧
      (serve execute.reply (serveAll execute.reply (rowsOf usedStore) (requeueAndSend.take 4))
        (.updateStatus (waiting 1).id .sent default)).1 =
          .error (.illegalTransition (waiting 1).id .sent .sent) := by
  have storable : Storable usedStore :=
    { available := rfl, records := by decide, deliveries := by decide }
  have permitted : PermittedAll usedStore requeueAndSend := by decide
  have start : Mirrors (id (rowsOf usedStore)) usedStore := mirrors_rowsOf usedStore
  obtain ⟨sameAnswers, sameRows⟩ :=
    database_refines_memory executes_execute storable start permitted
  rw [id] at sameRows
  have refused := (sameAnswer_iff (.updateStatus (waiting 1).id .sent default) nofun _ _).mp
    (SameAnswers.answer execute.reply (requeueAndSend.take 4) sameAnswers)
  have inMemory : ((callAll usedStore (requeueAndSend.take 4)).call
      (.updateStatus (waiting 1).id .sent default)).1 =
        .error (.illegalTransition (waiting 1).id .sent .sent) := by
    rfl
  exact ⟨sameAnswers, sameRows, refused.symm.trans inMemory⟩

/-- A record that was created half a second into a leap second tells the stores apart, although the
server executes every command and its tables keep the microseconds of every other moment. In memory
the record is listed as it was saved, and from the tables as one of the second after. -/
theorem leap_second_tells_apart :
    execute.Executes id ∧ Mirrors (rowsOf .empty) .empty ∧ leapSupplier.eventName ≠ "" ∧
      leapSupplier.created.nanos % 1000 = 0 ∧ leapSupplier.updated.nanos % 1000 = 0 ∧
      ¬SameAnswers execute.reply .empty (rowsOf .empty)
        [.save leapSupplier, .findByStatus .pending] := by
  refine ⟨executes_execute, mirrors_rowsOf _, by decide, by decide, by decide, ?_⟩
  rintro ⟨_, sameAnswer, _⟩
  have listed := (sameAnswer_iff (.findByStatus .pending) nofun _ _).mp sameAnswer
  have named : leapSupplier.eventName ≠ "" := by decide
  have storable : Storable .empty :=
    { available := rfl, records := by decide, deliveries := by decide }
  have start : Mirrors (id (rowsOf .empty)) .empty := mirrors_rowsOf .empty
  obtain ⟨_, mirrors⟩ := save_agrees executes_execute storable start named
  generalize (serve execute.reply (rowsOf .empty) (.save leapSupplier)).2 = content
    at listed mirrors
  obtain ⟨affected, rows, perm, _, replied, _⟩ :=
    (executes_execute content (.recordsWithStatus .pending) _ rfl).of_select
  have kept : ((MemoryStore.empty.call (.save leapSupplier)).2.records.rows.filter
      fun record => record.status = .pending) = [leapSupplier] := by
    rfl
  have ofPending := perm_filter mirrors.events fun record _ =>
    RecordRow.chosen_status record .pending
  rw [kept] at ofPending
  obtain rfl := List.perm_singleton.mp (perm.trans ofPending)
  have served : (serve execute.reply content (.findByStatus .pending)).1 = .ok [{ leapSupplier with
      created := ⟨1483228800, 500000000, by decide⟩
      updated := ⟨1483228800, 500000000, by decide⟩ }] := by
    rw [serve, Database.call, findByStatus, hold_send replied]
    rfl
  have moved : leapSupplier = { leapSupplier with
      created := ⟨1483228800, 500000000, by decide⟩
      updated := ⟨1483228800, 500000000, by decide⟩ } := by
    have inMemory : ((MemoryStore.empty.call (.save leapSupplier)).2.call
        (.findByStatus .pending)).1 = .ok [leapSupplier] := by
      change (Except.ok (MemoryStore.inOrder _) : Except StoreError (List EventRecord)) = _
      rw [kept, MemoryStore.inOrder, List.mergeSort_singleton]
    rw [served, inMemory] at listed
    exact List.head_eq_of_cons_eq (Except.ok.inj listed)
  have sameMoment := congrArg EventRecord.created moved
  revert sameMoment
  decide

end Outbox.Database
