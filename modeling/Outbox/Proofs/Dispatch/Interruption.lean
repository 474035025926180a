import Outbox.Proofs.Dispatch.Ending
import Outbox.Proofs.Dispatch.PerRecord
import Outbox.Proofs.Dispatch.Refusal

/-!
# A run that is interrupted at one write

A run through records is cut at the record whose write is refused. The records before it are treated
as if nothing were refused, because all requests about them are answered alike. The record itself
keeps what the earlier requests about it have left. Whether the records after it are treated depends
on the error: the run is aborted if the store cannot be reached, and otherwise goes on.
-/

namespace Outbox

open Calendar

namespace Run

/-! ## The records before and after the one that is interrupted -/

/-- A run through records is interrupted at one of them: it passes the records before that one
whether or not a write is refused, and the refused write stops it there. The worlds are the one in
which it comes to that record and the one in which it leaves it. -/
structure InterruptedAt {World : Type} (surroundings : Surroundings World) (policy : RetryPolicy)
    (now : Timestamp) (write : Write) (error : StoreError) (deliveries : Table Delivery.event)
    (report : Report) (world : World) (before : List EventRecord) (record : EventRecord)
    (later : List EventRecord) (middle reached : World) : Prop where
  distinct : ((before ++ record :: later).map EventRecord.id).Nodup
  passes : ∃ first,
    (through policy now before deliveries report).execute surroundings.answer world =
      (.completed first, middle) ∧
    (through policy now before deliveries report).execute
      (surroundings.refusing write record.id error).answer world = (.completed first, middle) ∧
    ∃ final, (through policy now [record] (remaining deliveries before) first).execute
      (surroundings.refusing write record.id error).answer middle = (stoppedBy error final, reached)
  interrupted : (surroundings.standing world record.id).Interrupted record now write
    (surroundings.standing reached record.id)

section

variable {World : Type} {surroundings : Surroundings World} {policy : RetryPolicy}
  {now : Timestamp} {write : Write} {error : StoreError} {deliveries : Table Delivery.event}
  {report : Report} {world : World}

/-- A run through records in which a write is refused is interrupted at the record that the write is
about. -/
theorem interrupted_through {records : List EventRecord} {event : Identifier}
    (distinct : (records.map EventRecord.id).Nodup)
    (stored : ∀ record ∈ records, (surroundings.standing world record.id).record = some record)
    (made : ∃ exchange ∈ (through policy now records deliveries report).exchanges
      (surroundings.refusing write event error).answer world,
        exchange.request.write? = some (write, event)) :
    ∃ before record later middle reached, records = before ++ record :: later ∧ record.id = event ∧
      InterruptedAt surroundings policy now write error deliveries report world before record later
        middle reached := by
  obtain ⟨exchange, member, writes⟩ := made
  have subject : exchange.request.subject? = some event := Request.subject_of_write writes
  obtain ⟨record, inside, about⟩ := subject_through exchange member
  obtain rfl : record.id = event := Option.some.inj (about.symm.trans subject)
  obtain ⟨before, later, rfl⟩ := List.append_of_mem inside
  obtain ⟨beforeApart, laterApart, _⟩ := MemoryStore.apart_of_nodup distinct
  have ahead := only_foreign policy now beforeApart deliveries report
  obtain ⟨alike, _⟩ := surroundings.refusing_alike write error ahead world
  rw [through_append] at member
  rcases mem_exchanges_andThen member with inBefore | ⟨first, middle, completed, member⟩
  · exact absurd subject (ahead.request world exchange inBefore)
  rw [through_cons] at member
  rcases mem_exchanges_andThen member with here | ⟨_, past, _, inLater⟩
  · have kept : surroundings.standing middle record.id = surroundings.standing world record.id :=
      (surroundings.refusing write record.id error).frame_execute completed (ahead.request world)
    obtain ⟨final, reached, stopped, interrupted⟩ := single_interrupted surroundings
      (kept ▸ stored record inside) ⟨exchange, here, writes⟩
    exact ⟨before, record, later, middle, reached, rfl, rfl, distinct,
      ⟨first, alike.symm.trans completed, completed, final, stopped⟩, kept ▸ interrupted⟩
  · have behind :=
      only_foreign policy now laterApart ((remaining deliveries before).erase record.id)
    exact absurd subject ((behind _).request past exchange inLater)

variable {before later : List EventRecord} {record : EventRecord} {middle reached : World}
  {outcome : TickOutcome} {after : World}
  (cut : InterruptedAt surroundings policy now write error deliveries report world before record
    later middle reached)
  (executed : (through policy now (before ++ record :: later) deliveries report).execute
    (surroundings.refusing write record.id error).answer world = (outcome, after))

include cut executed

/-- The records before are left as by the run in which nothing is refused. The refused write is
about another record, so none of their writes is refused. -/
theorem InterruptedAt.standing_before {expected : TickOutcome} {unrefused : World}
    (normal : (through policy now (before ++ record :: later) deliveries report).execute
      surroundings.answer world = (expected, unrefused)) :
    ∀ other ∈ before,
      surroundings.standing after other.id = surroundings.standing unrefused other.id := by
  intro other inside
  obtain ⟨first, passes, passesRefusing, _⟩ := cut.passes
  obtain ⟨beforeApart, _, across⟩ := MemoryStore.apart_of_nodup cut.distinct
  have foreign : ∀ behind ∈ record :: later, behind.id ≠ other.id := by
    intro behind member
    rcases List.mem_cons.mp member with rfl | member
    · exact (beforeApart other inside).symm
    · exact (across other inside behind member).symm
  have silent := only_foreign policy now foreign (remaining deliveries before) first
  rw [through_append, execute_andThen passes] at normal
  rw [through_append, execute_andThen passesRefusing] at executed
  rw [surroundings.frame_execute normal (silent.request middle)]
  exact (surroundings.refusing write record.id error).frame_execute executed (silent.request middle)

/-- A store that cannot be reached aborts the run at the record, and nothing is asked about the
records after it. -/
theorem InterruptedAt.aborted (unavailable : error.isUnavailable = true) :
    (∃ final, outcome = .aborted final error) ∧ after = reached ∧ ∀ other ∈ later,
      ∀ exchange ∈ (through policy now (before ++ record :: later) deliveries report).exchanges
        (surroundings.refusing write record.id error).answer world,
          exchange.request.subject? ≠ some other.id := by
  obtain ⟨first, _, passes, final, stops⟩ := cut.passes
  rw [stoppedBy, if_pos unavailable] at stops
  have broken : ∀ next, ((through policy now [record] (remaining deliveries before) first).execute
      (surroundings.refusing write record.id error).answer middle).1 ≠ .completed next := by
    intro next
    rw [stops]
    exact TickOutcome.noConfusion
  rw [through_append, execute_andThen passes, through_cons, execute_andThen_of_stopped broken,
    stops] at executed
  obtain ⟨rfl, rfl⟩ := Prod.mk.inj executed
  refine ⟨⟨final, rfl⟩, rfl, ?_⟩
  intro other inside exchange member
  rw [through_append, exchanges_andThen passes, through_cons, exchanges_andThen_of_stopped broken,
    List.mem_append] at member
  obtain ⟨_, laterApart, across⟩ := MemoryStore.apart_of_nodup cut.distinct
  rcases member with inBefore | here
  · have foreign : ∀ ahead ∈ before, ahead.id ≠ other.id := by
      intro ahead aheadInside
      exact across ahead aheadInside other inside
    exact (only_foreign policy now foreign deliveries report).request world exchange inBefore
  · have foreign : ∀ single ∈ [record], single.id ≠ other.id :=
      List.forall_mem_singleton.mpr (laterApart other inside).symm
    exact (only_foreign policy now foreign (remaining deliveries before) first).request middle
      exchange here

/-- When a write is refused for another reason, the run goes on with the records after. It treats
them as if it had begun with them at this point. -/
theorem InterruptedAt.goesOn (reachable : error.isUnavailable = false) :
    ∃ next,
      (through policy now later (remaining deliveries (before ++ [record])) next).execute
        surroundings.answer reached = (outcome, after) ∧
      (through policy now later (remaining deliveries (before ++ [record])) next).exchanges
          surroundings.answer reached ⊆
        (through policy now (before ++ record :: later) deliveries report).exchanges
          (surroundings.refusing write record.id error).answer world := by
  obtain ⟨first, _, passes, final, stops⟩ := cut.passes
  rw [stoppedBy, if_neg (by simp [reachable])] at stops
  obtain ⟨_, laterApart, _⟩ := MemoryStore.apart_of_nodup cut.distinct
  have left : remaining deliveries (before ++ [record]) =
      (remaining deliveries before).erase record.id := List.foldl_append
  obtain ⟨sameEnd, sameExchanges⟩ := surroundings.refusing_alike write error
    (only_foreign policy now laterApart ((remaining deliveries before).erase record.id) final)
    reached
  rw [through_append, execute_andThen passes, through_cons, execute_andThen stops, sameEnd]
    at executed
  rw [through_append, exchanges_andThen passes, through_cons, exchanges_andThen stops,
    sameExchanges, left]
  refine ⟨final, executed, ?_⟩
  intro exchange member
  exact List.mem_append_right _ (List.mem_append_right _ member)

/-- The record itself is left as the refused write has left it. -/
theorem InterruptedAt.standing_own :
    surroundings.standing after record.id = surroundings.standing reached record.id := by
  cases unavailable : error.isUnavailable with
  | true => rw [(cut.aborted executed unavailable).2.1]
  | false =>
    obtain ⟨_, laterApart, _⟩ := MemoryStore.apart_of_nodup cut.distinct
    obtain ⟨next, goesOn, _⟩ := cut.goesOn executed unavailable
    exact surroundings.frame_execute goesOn ((only_foreign policy now laterApart _ next).request _)

omit executed in
/-- Nothing has changed for the records after when the run leaves the record. All requests so far
were about other records. -/
theorem InterruptedAt.standing_later : ∀ other ∈ later,
    surroundings.standing reached other.id = surroundings.standing world other.id := by
  intro other inside
  obtain ⟨first, _, passes, final, stops⟩ := cut.passes
  obtain ⟨_, laterApart, across⟩ := MemoryStore.apart_of_nodup cut.distinct
  have beforeForeign : ∀ ahead ∈ before, ahead.id ≠ other.id := by
    intro ahead aheadInside
    exact across ahead aheadInside other inside
  have hereForeign : ∀ single ∈ [record], single.id ≠ other.id :=
    List.forall_mem_singleton.mpr (laterApart other inside).symm
  have past := (surroundings.refusing write record.id error).frame_execute passes
    ((only_foreign policy now beforeForeign deliveries report).request world)
  have here := (surroundings.refusing write record.id error).frame_execute stops
    ((only_foreign policy now hereForeign (remaining deliveries before) first).request middle)
  exact here.trans past

omit executed in
/-- The records after go by distinct identifiers, under which the deliveries are left as they were
loaded. -/
theorem InterruptedAt.remains : (later.map EventRecord.id).Nodup ∧ ∀ other ∈ later,
    (remaining deliveries (before ++ [record])).find? other.id = deliveries.find? other.id := by
  refine ⟨cut.distinct.sublist (((List.sublist_cons_self record later).trans
    (List.sublist_append_right before _)).map EventRecord.id), ?_⟩
  obtain ⟨_, laterApart, across⟩ := MemoryStore.apart_of_nodup cut.distinct
  intro other behind
  apply find?_remaining
  intro ahead inFront
  rcases List.mem_append.mp inFront with inBefore | here
  · exact across ahead inBefore other behind
  · rw [List.mem_singleton.mp here]
    exact (laterApart other behind).symm

/-- A run that goes on completes and tries each of the records after that does not wait, unless
another answer ends it or the next attempt of one of them lies beyond the calendar. -/
theorem InterruptedAt.triesLater (reachable : error.isUnavailable = false)
    {all : List Exchange} (included : (through policy now (before ++ record :: later) deliveries
      report).exchanges (surroundings.refusing write record.id error).answer world ⊆ all) :
    (∃ final, outcome = .completed final ∧ ∀ other ∈ later,
        Waits deliveries now other ∨ ∃ reply, ⟨.deliver other, reply⟩ ∈ all) ∨
      (∃ exchange ∈ all, exchange.request.write? ≠ some (write, record.id) ∧
        ∃ failure, exchange.Fatal failure) ∨
      ∃ other ∈ later, ∃ failure, ⟨.deliver other, .error failure⟩ ∈ all ∧
        policy.recordFailure? (deliveries.find? other.id) other.id failure.message now = none := by
  obtain ⟨next, goesOn, inLater⟩ := cut.goesOn executed reachable
  obtain ⟨distinct, remains⟩ := cut.remains
  rcases through_ends surroundings.answer policy now (remaining deliveries (before ++ [record]))
    next reached distinct with ⟨final, completed, each⟩ | ⟨exchange, member, fatal⟩ |
      ⟨other, behind, failure, tried, beyond⟩
  · left
    rw [goesOn] at completed
    refine ⟨final, completed, ?_⟩
    intro other behind
    rcases each other behind with ⟨delivery, remembered, waits⟩ | ⟨reply, tried⟩
    · rw [remains other behind] at remembered
      exact Or.inl ⟨delivery, remembered, waits⟩
    · exact Or.inr ⟨reply, included (inLater tried)⟩
  · right
    left
    refine ⟨exchange, included (inLater member), ?_, fatal⟩
    intro writes
    obtain ⟨_, laterApart, _⟩ := MemoryStore.apart_of_nodup cut.distinct
    exact (only_foreign policy now laterApart _ next).request reached exchange member
      (Request.subject_of_write writes)
  · right
    right
    rw [remains other behind] at beyond
    exact ⟨other, behind, failure, included (inLater tried), beyond⟩

end

/-! ## Whole runs -/

/-- A run that leads and in which a write is refused has loaded the pending records and is
interrupted at the one that the write is about. -/
theorem interrupted_tick {World : Type} {surroundings : Surroundings World} {policy : RetryPolicy}
    {now : Timestamp} {world : World} {write : Write} {event : Identifier} {error : StoreError}
    (made : ∃ exchange ∈ (tick policy true now).exchanges
      (surroundings.refusing write event error).answer world,
        exchange.request.write? = some (write, event)) :
    ∃ pending deliveries loaded before record later middle reached,
      MemoryStore.inOrder pending = before ++ record :: later ∧ record.id = event ∧
      record.status = .pending ∧ (surroundings.standing world event).record = some record ∧
      (∀ subject, surroundings.standing loaded subject = surroundings.standing world subject) ∧
      (∀ answer, answer = surroundings.answer ∨
          answer = (surroundings.refusing write event error).answer →
        (tick policy true now).execute answer world =
            (through policy now (before ++ record :: later) deliveries
              { Report.empty with considered := pending.length }).execute answer loaded ∧
          (tick policy true now).exchanges answer world =
            ⟨.loadPending, .ok pending⟩ :: ⟨.loadDeliveries, .ok deliveries⟩ ::
              (through policy now (before ++ record :: later) deliveries
                { Report.empty with considered := pending.length }).exchanges answer loaded) ∧
      InterruptedAt surroundings policy now write error deliveries
        { Report.empty with considered := pending.length } loaded before record later middle
        reached := by
  obtain ⟨exchange, member, writes⟩ := made
  obtain ⟨pending, deliveries, middle, loaded, loadsPending, loadsDeliveries⟩ :=
    tick_loaded ⟨exchange, member, Exchange.isLoad_of_write writes⟩
  have loads : ∀ answer, answer = surroundings.answer ∨
      answer = (surroundings.refusing write event error).answer →
        answer world .loadPending = (.ok pending, middle) ∧
          answer middle .loadDeliveries = (.ok deliveries, loaded) := by
    rintro answer (rfl | rfl)
    · exact ⟨loadsPending, loadsDeliveries⟩
    · exact ⟨loadsPending, loadsDeliveries⟩
  obtain ⟨first, second⟩ := loads surroundings.answer (Or.inl rfl)
  have kept (subject : Identifier) :
      surroundings.standing loaded subject = surroundings.standing world subject := by
    have afterFirst := surroundings.frame world .loadPending subject nofun
    have afterSecond := surroundings.frame middle .loadDeliveries subject nofun
    rw [first] at afterFirst
    rw [second] at afterSecond
    exact afterSecond.trans afterFirst
  obtain ⟨distinct, each⟩ := surroundings.loaded world pending (by rw [first])
  have stored : ∀ record ∈ MemoryStore.inOrder pending,
      (surroundings.standing loaded record.id).record = some record := by
    intro record inside
    rw [kept]
    exact (each record ((MemoryStore.mem_inOrder pending record).mp inside)).1
  rw [(execute_loaded policy now loadsPending loadsDeliveries).2] at member
  rcases List.mem_cons.mp member with rfl | member
  · cases writes
  rcases List.mem_cons.mp member with rfl | member
  · cases writes
  obtain ⟨before, record, later, arrived, reached, order, rfl, cut⟩ := interrupted_through
    (((MemoryStore.inOrder_perm pending).map EventRecord.id).nodup_iff.mpr distinct) stored
    ⟨exchange, member, writes⟩
  have inside : record ∈ pending := by
    rw [← MemoryStore.mem_inOrder, order]
    exact List.mem_append_right before List.mem_cons_self
  obtain ⟨found, isPending⟩ := each record inside
  refine ⟨pending, deliveries, loaded, before, record, later, arrived, reached, order, rfl,
    isPending, found, kept, ?_, cut⟩
  intro answer either
  obtain ⟨loadsPending, loadsDeliveries⟩ := loads answer either
  rw [← order]
  exact execute_loaded policy now loadsPending loadsDeliveries

/-- What becomes of a run that leads when a single write about a record is refused and changes
nothing. The store and the broker may be any ones.

The records before the record of the refused write, in the order of delivery, are left as by the run
in which nothing is refused. That record itself was pending. It is still pending, and was published
unless its delivery failed, except that it is sent when the refused write was to forget its earlier
deliveries.
If the store cannot be reached, the run is aborted with the error of the refused write. Nothing was
asked about the records after that one, and nothing changed for them.
If the write was refused for another reason, the run goes on with the records after that one as it
does when nothing is refused. It completes and has tried each of them that does not wait for its
next attempt, unless another request to the store fails in a way that ends the run or the next
attempt of one of them lies beyond the calendar. -/
theorem interrupted_at_write {World : Type} (surroundings : Surroundings World)
    (policy : RetryPolicy) (now : Timestamp) (world : World) (write : Write) (event : Identifier)
    (error : StoreError) {outcome expected : TickOutcome} {after unrefused : World}
    {exchanges : List Exchange}
    (normal : (tick policy true now).execute surroundings.answer world = (expected, unrefused))
    (executed : (tick policy true now).execute
      (surroundings.refusing write event error).answer world = (outcome, after))
    (exchanged : (tick policy true now).exchanges
      (surroundings.refusing write event error).answer world = exchanges)
    (made : ∃ exchange ∈ exchanges, exchange.request.write? = some (write, event)) :
    ∃ pending deliveries before record later,
      ⟨.loadPending, .ok pending⟩ ∈ exchanges ∧ ⟨.loadDeliveries, .ok deliveries⟩ ∈ exchanges ∧
      MemoryStore.inOrder pending = before ++ record :: later ∧
      record.id = event ∧ record.status = .pending ∧
      (surroundings.standing world event).record = some record ∧
      (∀ other ∈ before,
        surroundings.standing after other.id = surroundings.standing unrefused other.id) ∧
      (surroundings.standing world event).Interrupted record now write
        (surroundings.standing after event) ∧
      (error.isUnavailable = true →
        (∃ report, outcome = .aborted report error) ∧
        ∀ other ∈ later,
          (∀ exchange ∈ exchanges, exchange.request.subject? ≠ some other.id) ∧
          surroundings.standing after other.id = surroundings.standing world other.id) ∧
      (error.isUnavailable = false →
        (∃ report reached,
          (∀ other ∈ later,
            surroundings.standing reached other.id = surroundings.standing world other.id) ∧
          (through policy now later (remaining deliveries (before ++ [record])) report).execute
            surroundings.answer reached = (outcome, after)) ∧
        ((∃ report, outcome = .completed report ∧ ∀ other ∈ later,
            Waits deliveries now other ∨ ∃ reply, ⟨.deliver other, reply⟩ ∈ exchanges) ∨
          (∃ exchange ∈ exchanges, exchange.request.write? ≠ some (write, event) ∧
            ∃ failure, exchange.Fatal failure) ∨
          ∃ other ∈ later, ∃ failure, ⟨.deliver other, .error failure⟩ ∈ exchanges ∧
            policy.recordFailure? (deliveries.find? other.id) other.id failure.message now =
              none)) := by
  subst exchanged
  obtain ⟨pending, deliveries, loaded, before, record, later, middle, reached, order, rfl,
    isPending, found, kept, runs, cut⟩ := interrupted_tick made
  obtain ⟨ranNormally, _⟩ := runs surroundings.answer (Or.inl rfl)
  obtain ⟨ran, listed⟩ := runs (surroundings.refusing write record.id error).answer (Or.inr rfl)
  rw [ranNormally] at normal
  rw [ran] at executed
  rw [listed]
  refine ⟨pending, deliveries, before, record, later, List.mem_cons_self,
    List.mem_cons_of_mem _ List.mem_cons_self, order, rfl, isPending, found,
    cut.standing_before executed normal, ?_, ?_, ?_⟩
  · rw [cut.standing_own executed, ← kept]
    exact cut.interrupted
  · intro unavailable
    obtain ⟨aborted, rfl, silent⟩ := cut.aborted executed unavailable
    refine ⟨aborted, ?_⟩
    intro other behind
    refine ⟨?_, (cut.standing_later other behind).trans (kept other.id)⟩
    intro exchange member
    rcases List.mem_cons.mp member with rfl | member
    · exact nofun
    rcases List.mem_cons.mp member with rfl | member
    · exact nofun
    exact silent other behind exchange member
  · intro reachable
    obtain ⟨next, goesOn, _⟩ := cut.goesOn executed reachable
    refine ⟨⟨next, reached, ?_, goesOn⟩, cut.triesLater executed reachable ?_⟩
    · intro other behind
      exact (cut.standing_later other behind).trans (kept other.id)
    · intro exchange member
      exact List.mem_cons_of_mem _ (List.mem_cons_of_mem _ member)

/-- The site with records of different fates, where the second failure of the second record cannot
be remembered. -/
def unsavable (error : StoreError) : Surroundings Site :=
  (Site.surroundings Site.plainSending).refusing .saveDelivery (EventRecord.numbered 2).id error

section

variable {pending : List EventRecord} {deliveries : Table Delivery.event}
  {records : List EventRecord} {behind : List Exchange}

/-- Where all but the first two requests are about records, the first one loads what is pending. -/
theorem eq_of_loadedPending (about : ∀ exchange ∈ behind, ∃ record ∈ records,
      exchange.request.subject? = some record.id) {other : List EventRecord}
    (listed : ⟨.loadPending, .ok other⟩ ∈
      ⟨.loadPending, .ok pending⟩ :: ⟨.loadDeliveries, .ok deliveries⟩ :: behind) :
    other = pending := by
  rcases List.mem_cons.mp listed with same | listed
  · cases same
    rfl
  · rcases List.mem_cons.mp listed with same | listed
    · cases same
    · obtain ⟨_, _, subject⟩ := about _ listed
      cases subject

/-- And the second one loads what is remembered of deliveries. -/
theorem eq_of_loadedDeliveries (about : ∀ exchange ∈ behind, ∃ record ∈ records,
      exchange.request.subject? = some record.id) {other : Table Delivery.event}
    (listed : ⟨.loadDeliveries, .ok other⟩ ∈
      ⟨.loadPending, .ok pending⟩ :: ⟨.loadDeliveries, .ok deliveries⟩ :: behind) :
    other = deliveries := by
  rcases List.mem_cons.mp listed with same | listed
  · cases same
  · rcases List.mem_cons.mp listed with same | listed
    · cases same
      rfl
    · obtain ⟨_, _, subject⟩ := about _ listed
      cases subject

end

/-- What is pending at the site is in the order of delivery. -/
theorem order_mixed :
    MemoryStore.inOrder [.numbered 1, .numbered 2, .numbered 3, .numbered 5] =
      [.numbered 1, .numbered 2, .numbered 3, .numbered 5] := by
  cbv

/-- The pending records of the site are loaded, whatever write is refused afterwards. -/
theorem loadPending_mixed :
    Site.mixed.answer Site.plainSending .loadPending =
      (.ok [.numbered 1, .numbered 2, .numbered 3, .numbered 5],
        { Site.mixed with faults := Site.mixed.faults.count .findByStatus }) := by
  have sound : Site.mixed.Sound := ⟨rfl, fun _ => rfl⟩
  exact Site.pending_mixed ▸ sound.loadPending

/-- A run there loads the four pending records, and comes to remember the failure. Both are read off
the requests that it makes. -/
theorem exchanges_unsavable (error : StoreError) {exchanges : List Exchange}
    (exchanged : (tick Site.twice true default).exchanges (unsavable error).answer Site.mixed =
      exchanges) :
    (∀ pending, ⟨.loadPending, .ok pending⟩ ∈ exchanges →
      MemoryStore.inOrder pending = [.numbered 1, .numbered 2, .numbered 3, .numbered 5]) ∧
    (∀ deliveries, ⟨.loadDeliveries, .ok deliveries⟩ ∈ exchanges →
      deliveries = Site.mixed.store.deliveries) ∧
    ∃ exchange ∈ exchanges,
      exchange.request.write? = some (.saveDelivery, (EventRecord.numbered 2).id) := by
  have loadsPending : (unsavable error).answer Site.mixed .loadPending = _ := loadPending_mixed
  rw [(execute_loaded Site.twice default loadsPending rfl).2, order_mixed] at exchanged
  subst exchanged
  refine ⟨fun pending listed => ?_, fun deliveries listed => ?_, ?_⟩
  · rw [eq_of_loadedPending subject_through listed, order_mixed]
  · exact eq_of_loadedDeliveries subject_through listed
  · exact ⟨_, List.mem_cons_of_mem _ (List.mem_cons_of_mem _ (List.mem_cons_of_mem _
      (List.mem_cons_of_mem _ (List.mem_cons_of_mem _ List.mem_cons_self)))), rfl⟩

/-- The second record has one of the four places, so one record comes before it and two come after
it. -/
theorem around_second {before later : List EventRecord} {record : EventRecord}
    (order : [.numbered 1, .numbered 2, .numbered 3, .numbered 5] = before ++ record :: later)
    (named : record.id = (EventRecord.numbered 2).id) :
    before = [.numbered 1] ∧ record = .numbered 2 ∧ later = [.numbered 3, .numbered 5] := by
  have other (number : Fin 100) (apart : number ≠ 2) : EventRecord.numbered number ≠ record := by
    rintro rfl
    exact apart (Fin.ext (congrArg Identifier.number named))
  rcases before with _ | ⟨first, _ | ⟨second, _ | ⟨third, _ | ⟨fourth, rest⟩⟩⟩⟩
  · exact absurd (List.cons.inj order).1 (other 1 (by decide))
  · obtain ⟨rfl, tail⟩ := List.cons.inj order
    obtain ⟨rfl, rfl⟩ := List.cons.inj tail
    exact ⟨rfl, rfl, rfl⟩
  · exact absurd (List.cons.inj (List.cons.inj (List.cons.inj order).2).2).1 (other 3 (by decide))
  · exact absurd (List.cons.inj (List.cons.inj (List.cons.inj (List.cons.inj order).2).2).2).1
      (other 5 (by decide))
  · simp at order

/-- When the store is down, the run is aborted at the second record. The first one has been sent as
in any run, the second one is as it was, and the last one is not tried. When the store only refuses
to save the row, the run goes on behind the second record. -/
theorem unsaved_failure_cuts :
    (∃ report after,
      (tick Site.twice true default).execute (unsavable (.storage "down")).answer Site.mixed =
        (.aborted report (.storage "down"), after) ∧
      (Site.surroundings Site.plainSending).standing after (EventRecord.numbered 1).id =
        (Site.surroundings Site.plainSending).standing
          (Site.mixed.dispatch Site.plainSending Site.twice true default).2
            (EventRecord.numbered 1).id ∧
      ∀ number ∈ [2, 3, 5],
        (Site.surroundings Site.plainSending).standing after (EventRecord.numbered number).id =
          (Site.surroundings Site.plainSending).standing Site.mixed
            (EventRecord.numbered number).id) ∧
    ∃ report reached,
      (through Site.twice default [.numbered 3, .numbered 5]
        (remaining Site.mixed.store.deliveries [.numbered 1, .numbered 2]) report).execute
          (Site.surroundings Site.plainSending).answer reached =
        (tick Site.twice true default).execute (unsavable (.corrupt "bad row")).answer
          Site.mixed := by
  constructor
  · obtain ⟨listsPending, _, made⟩ := exchanges_unsavable (.storage "down") rfl
    obtain ⟨pending, _, before, record, later, loaded, _, order, named, _, _, same, interrupted,
        aborts, _⟩ :=
      interrupted_at_write (Site.surroundings Site.plainSending) Site.twice default Site.mixed
        .saveDelivery (EventRecord.numbered 2).id (.storage "down") rfl rfl rfl made
    rw [listsPending pending loaded] at order
    obtain ⟨rfl, rfl, rfl⟩ := around_second order named
    obtain ⟨⟨report, aborted⟩, untouched⟩ := aborts rfl
    have own : ∀ {standing}, (Standing.Interrupted
        ((Site.surroundings Site.plainSending).standing Site.mixed (EventRecord.numbered 2).id)
          (.numbered 2) default .saveDelivery standing) → standing =
            (Site.surroundings Site.plainSending).standing Site.mixed
              (EventRecord.numbered 2).id := by
      rintro _ ⟨⟩
      rfl
    refine ⟨report, _, Prod.ext aborted rfl, same _ List.mem_cons_self, ?_⟩
    simp only [List.forall_mem_cons]
    exact ⟨own interrupted, (untouched _ (by simp)).2, (untouched _ (by simp)).2, nofun⟩
  · obtain ⟨listsPending, listsDeliveries, made⟩ := exchanges_unsavable (.corrupt "bad row") rfl
    obtain ⟨pending, deliveries, before, record, later, loaded, recalled, order, named, _, _, _, _,
        _, goesOn⟩ :=
      interrupted_at_write (Site.surroundings Site.plainSending) Site.twice default Site.mixed
        .saveDelivery (EventRecord.numbered 2).id (.corrupt "bad row") rfl rfl rfl made
    rw [listsPending pending loaded] at order
    obtain ⟨rfl, rfl, rfl⟩ := around_second order named
    obtain rfl := listsDeliveries deliveries recalled
    obtain ⟨⟨report, reached, _, ran⟩, _⟩ := goesOn rfl
    exact ⟨report, reached, ran⟩

end Run

end Outbox
