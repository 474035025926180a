import Outbox.Proofs.Dispatch.Exchange
import Outbox.Proofs.Dispatch.Treatment

/-!
# Records one after the other

A run through records is a run through the first of them followed by a run through the other ones,
and so it can be cut between any two records. `Run.andThen` puts runs one after the other: the
second one begins when the first one completes, and never when it is aborted or crashes.

Every request but the two loads is about a single record. The run through a single record makes
requests about that record only and asks for its delivery at most once, so what a run asks about one
record, and how often it tries it, can be read off the piece of the run that treats it.
-/

namespace Outbox

open Calendar

/-- The record that a request is about, by its identifier. The loads are about no record. -/
def Request.subject? : Request → Option Identifier
  | .loadPending | .loadDeliveries => none
  | .deliver record => some record.id
  | .markSent event _ => some event
  | .clearDelivery event => some event
  | .saveDelivery delivery => some delivery.event

/-- What came of trying to deliver a record, if an exchange is such a try. -/
def Exchange.attempt? (event : Identifier) : Exchange → Option (Except DispatchError Unit)
  | ⟨.deliver record, reply⟩ => if record.id = event then some reply else none
  | _ => none

/-- What came of every try to deliver a record, in order. -/
def attempts (event : Identifier) (exchanges : List Exchange) : List (Except DispatchError Unit) :=
  exchanges.filterMap (Exchange.attempt? event)

/-- The tries of exchanges one after the other come one after the other. -/
theorem attempts_append (event : Identifier) (first second : List Exchange) :
    attempts event (first ++ second) = attempts event first ++ attempts event second :=
  List.filterMap_append

/-- Exchanges that are not about a record hold no try to deliver it. -/
theorem attempts_eq_nil {event : Identifier} {exchanges : List Exchange}
    (foreign : ∀ exchange ∈ exchanges, exchange.request.subject? ≠ some event) :
    attempts event exchanges = [] := by
  rw [attempts, List.filterMap_eq_nil_iff]
  rintro ⟨request, reply⟩ member
  cases request with
  | deliver record =>
    have differs : record.id ≠ event := by
      intro same
      exact foreign _ member (congrArg some same)
    exact if_neg differs
  | _ => rfl

namespace Run

/-! ## One run after another -/

/-- Goes on with another run when a run completes. -/
def andThen (next : Report → Run) : Run → Run
  | .done (.completed report) => next report
  | .done outcome => .done outcome
  | .ask request resume => .ask request fun answer => (resume answer).andThen next

/-- Going on twice is going on with a run that goes on. -/
theorem andThen_assoc (run : Run) (second third : Report → Run) :
    (run.andThen second).andThen third =
      run.andThen fun report => (second report).andThen third := by
  induction run with
  | done outcome => cases outcome <;> rfl
  | ask request resume inductionHypothesis =>
    rw [andThen, andThen, andThen]
    congr 1
    funext answer
    exact inductionHypothesis answer

/-- To go on after a request is to go on after each answer to it. -/
theorem ask_andThen {request : Request} {resume resumed : request.Answer → Run}
    {next : Report → Run} (each : ∀ answer, (resume answer).andThen next = resumed answer) :
    (ask request resume).andThen next = ask request resumed :=
  congrArg (ask request) (funext each)

/-- What comes after a run comes after both ways on from a write. -/
theorem afterWrite_andThen (report : Report) (first onRefused : Run) (next : Report → Run)
    (reply : Except StoreError Unit) :
    (afterWrite report first onRefused reply).andThen next =
      afterWrite report (first.andThen next) (onRefused.andThen next) reply := by
  cases reply with
  | ok _ => rfl
  | error error =>
    rw [afterWrite, afterWrite]
    split <;> rfl

/-- What comes after a run comes after what follows an acknowledged delivery. So a run through
records can be cut after any of them. -/
theorem acknowledged_andThen (now : Timestamp) (record : EventRecord)
    (previous : Option Delivery) (report : Report) (first next : Report → Run) :
    (acknowledged now record previous report first).andThen next =
      acknowledged now record previous report fun report => (first report).andThen next := by
  rw [acknowledged, acknowledged]
  cases previous with
  | none =>
    apply ask_andThen
    intro marked
    exact afterWrite_andThen ..
  | some delivery =>
    apply ask_andThen
    intro marked
    have forgets : (ask (.clearDelivery record.id) (afterWrite
        { report with sent := report.sent + 1 } (first { report with sent := report.sent + 1 })
        (first { report with sent := report.sent + 1 }))).andThen next = _ :=
      ask_andThen fun cleared => afterWrite_andThen _ _ _ next cleared
    exact (afterWrite_andThen ..).trans (congrArg (afterWrite report · _ marked) forgets)

/-- What comes after a run comes after what follows a failed delivery, unless the run crashes there.
-/
theorem refused_andThen (policy : RetryPolicy) (now : Timestamp) (record : EventRecord)
    (previous : Option Delivery) (error : DispatchError) (report : Report)
    (first next : Report → Run) :
    (refused policy now record previous error report first).andThen next =
      refused policy now record previous error report fun report =>
        (first report).andThen next := by
  rw [refused, refused]
  cases policy.recordFailure? previous record.id error.message now with
  | none => rfl
  | some delivery =>
    apply ask_andThen
    intro saved
    exact afterWrite_andThen ..

/-- A run through records treats the first one and goes on with the other ones. -/
theorem through_cons (policy : RetryPolicy) (now : Timestamp) (record : EventRecord)
    (rest : List EventRecord) (deliveries : Table Delivery.event) (report : Report) :
    through policy now (record :: rest) deliveries report =
      (through policy now [record] deliveries report).andThen
        (through policy now rest (deliveries.erase record.id)) := by
  rw [through, through]
  split
  · rfl
  · symm
    apply ask_andThen
    intro reply
    cases reply with
    | ok _ => exact acknowledged_andThen ..
    | error error => exact refused_andThen ..

/-- The deliveries that are left of the loaded ones after some records have been treated. -/
def remaining (deliveries : Table Delivery.event) (records : List EventRecord) :
    Table Delivery.event :=
  records.foldl (fun left record => left.erase record.id) deliveries

/-- What was loaded of the deliveries of other records is left. -/
theorem find?_remaining {records : List EventRecord} {event : Identifier}
    (foreign : ∀ record ∈ records, record.id ≠ event) (deliveries : Table Delivery.event) :
    (remaining deliveries records).find? event = deliveries.find? event := by
  induction records generalizing deliveries with
  | nil => rfl
  | cons first rest inductionHypothesis =>
    obtain ⟨here, there⟩ := List.forall_mem_cons.mp foreign
    exact (inductionHypothesis there _).trans ((Table.find?_erase ..).trans (if_neg here.symm))

/-- A run through records can be cut between any two of them. -/
theorem through_append (policy : RetryPolicy) (now : Timestamp) (first second : List EventRecord)
    (deliveries : Table Delivery.event) (report : Report) :
    through policy now (first ++ second) deliveries report =
      (through policy now first deliveries report).andThen
        (through policy now second (remaining deliveries first)) := by
  induction first generalizing deliveries report with
  | nil => rfl
  | cons record rest inductionHypothesis =>
    rw [List.cons_append, through_cons, through_cons policy now record rest, andThen_assoc]
    congr 1
    funext next
    exact inductionHypothesis (deliveries.erase record.id) next

section

variable {World : Type} {answer : World → (request : Request) → request.Answer × World}

/-- With the answer to its first request a run goes on. -/
theorem execute_answered {request : Request} {world later : World} {reply : request.Answer}
    (answered : answer world request = (reply, later)) (resume : request.Answer → Run) :
    (ask request resume).execute answer world = (resume reply).execute answer later := by
  rw [execute_ask, answered]

/-- What is exchanged by a run that asks begins with the request and its answer. -/
theorem exchanges_answered {request : Request} {world later : World} {reply : request.Answer}
    (answered : answer world request = (reply, later)) (resume : request.Answer → Run) :
    (ask request resume).exchanges answer world =
      ⟨request, reply⟩ :: (resume reply).exchanges answer later := by
  rw [exchanges_ask, answered]

/-- What is exchanged by a run that asks is the request with its answer, or comes later. -/
theorem mem_exchanges_answered {request : Request} {world later : World}
    {reply : request.Answer} (answered : answer world request = (reply, later))
    {resume : request.Answer → Run} {exchange : Exchange} :
    exchange ∈ (ask request resume).exchanges answer world ↔
      exchange = ⟨request, reply⟩ ∨ exchange ∈ (resume reply).exchanges answer later := by
  rw [exchanges_answered answered, List.mem_cons]

/-- When a run completes, the one after it begins where it has ended. -/
theorem execute_andThen {run : Run} {world later : World} {report : Report}
    (completed : run.execute answer world = (.completed report, later)) (next : Report → Run) :
    (run.andThen next).execute answer world = (next report).execute answer later := by
  induction run generalizing world with
  | done outcome =>
    obtain ⟨rfl, rfl⟩ := Prod.mk.inj completed
    rfl
  | ask request resume inductionHypothesis => exact inductionHypothesis _ completed

/-- A run that completes and another one after it exchange what each of them does. -/
theorem exchanges_andThen {run : Run} {world later : World} {report : Report}
    (completed : run.execute answer world = (.completed report, later)) (next : Report → Run) :
    (run.andThen next).exchanges answer world =
      run.exchanges answer world ++ (next report).exchanges answer later := by
  induction run generalizing world with
  | done outcome =>
    obtain ⟨rfl, rfl⟩ := Prod.mk.inj completed
    rfl
  | ask request resume inductionHypothesis =>
    rw [andThen, exchanges_ask, exchanges_ask, List.cons_append, inductionHypothesis _ completed]

/-- When a run does not complete, nothing comes after it. -/
theorem execute_andThen_of_stopped {run : Run} {world : World}
    (stopped : ∀ report, (run.execute answer world).1 ≠ .completed report)
    (next : Report → Run) :
    (run.andThen next).execute answer world = run.execute answer world := by
  induction run generalizing world with
  | done outcome =>
    cases outcome with
    | completed report => exact absurd rfl (stopped report)
    | _ => rfl
  | ask request resume inductionHypothesis => exact inductionHypothesis _ stopped

/-- A run that does not complete is not followed by anything. -/
theorem exchanges_andThen_of_stopped {run : Run} {world : World}
    (stopped : ∀ report, (run.execute answer world).1 ≠ .completed report)
    (next : Report → Run) :
    (run.andThen next).exchanges answer world = run.exchanges answer world := by
  induction run generalizing world with
  | done outcome =>
    cases outcome with
    | completed report => exact absurd rfl (stopped report)
    | _ => rfl
  | ask request resume inductionHypothesis =>
    rw [andThen, exchanges_ask, exchanges_ask, inductionHypothesis _ stopped]

/-- What is exchanged in a run and the one after it is exchanged in one of them, and the second one
takes place only if the first one completes. -/
theorem mem_exchanges_andThen {run : Run} {world : World} {next : Report → Run}
    {exchange : Exchange} (member : exchange ∈ (run.andThen next).exchanges answer world) :
    exchange ∈ run.exchanges answer world ∨
      ∃ report later, run.execute answer world = (.completed report, later) ∧
        exchange ∈ (next report).exchanges answer later := by
  by_cases completes : ∃ report, (run.execute answer world).1 = .completed report
  · obtain ⟨report, completed⟩ := completes
    have executed : run.execute answer world = (.completed report, (run.execute answer world).2) :=
      Prod.ext completed rfl
    rw [exchanges_andThen executed, List.mem_append] at member
    exact member.imp_right fun later => ⟨report, _, executed, later⟩
  · left
    rwa [exchanges_andThen_of_stopped] at member
    intro report completed
    exact completes ⟨report, completed⟩

end

/-! ## The requests of a run -/

/-- Whether a run makes only permitted requests, whatever they are answered with. -/
def Only (permitted : Request → Prop) : Run → Prop
  | .done _ => True
  | .ask request resume => permitted request ∧ ∀ answer, (resume answer).Only permitted

/-- What is permitted may be more. -/
theorem Only.mono {permitted allowed : Request → Prop} {run : Run} (only : run.Only permitted)
    (wider : ∀ request, permitted request → allowed request) : run.Only allowed := by
  induction run with
  | done outcome => trivial
  | ask request resume inductionHypothesis =>
    refine ⟨wider request only.1, ?_⟩
    intro answer
    exact inductionHypothesis answer (only.2 answer)

/-- What follows a write asks only what is permitted if both ways on from it do. -/
theorem only_afterWrite {permitted : Request → Prop} (report : Report) {first onRefused : Run}
    (firstOnly : first.Only permitted) (refusedOnly : onRefused.Only permitted)
    (reply : Except StoreError Unit) :
    (afterWrite report first onRefused reply).Only permitted := by
  cases reply with
  | ok _ => exact firstOnly
  | error error =>
    rw [afterWrite]
    split
    · trivial
    · exact refusedOnly

/-- What follows an acknowledged delivery marks the record as sent and may forget its delivery. -/
theorem only_acknowledged {permitted : Request → Prop} {now : Timestamp} {record : EventRecord}
    (marks : permitted (.markSent record.id now)) (clears : permitted (.clearDelivery record.id))
    (previous : Option Delivery) (report : Report) {next : Report → Run}
    (nextOnly : ∀ report, (next report).Only permitted) :
    (acknowledged now record previous report next).Only permitted := by
  refine ⟨marks, ?_⟩
  intro marked
  apply only_afterWrite
  · cases previous with
    | none => exact nextOnly _
    | some delivery =>
      refine ⟨clears, ?_⟩
      intro cleared
      exact only_afterWrite _ (nextOnly _) (nextOnly _) cleared
  · exact nextOnly _

/-- What follows a failed delivery remembers it for the record. -/
theorem only_refused {permitted : Request → Prop} {record : EventRecord}
    (saves : ∀ delivery, delivery.event = record.id → permitted (.saveDelivery delivery))
    (policy : RetryPolicy) (now : Timestamp) (previous : Option Delivery) (error : DispatchError)
    (report : Report) {next : Report → Run} (nextOnly : ∀ report, (next report).Only permitted) :
    (refused policy now record previous error report next).Only permitted := by
  rw [refused]
  cases remembered : policy.recordFailure? previous record.id error.message now with
  | none => trivial
  | some delivery =>
    refine ⟨saves delivery (RetryPolicy.event_of_recordFailure? remembered), ?_⟩
    intro saved
    exact only_afterWrite _ (nextOnly _) (nextOnly _) saved

/-- A run through records makes requests about these records only. The induction is on the records,
while the requests are compared with the whole list. -/
theorem only_through (policy : RetryPolicy) (now : Timestamp) (records : List EventRecord)
    (deliveries : Table Delivery.event) (report : Report) :
    (through policy now records deliveries report).Only fun request =>
      ∃ record ∈ records, request.subject? = some record.id := by
  have within (all : List EventRecord) (included : records ⊆ all) :
      (through policy now records deliveries report).Only fun request =>
        ∃ record ∈ all, request.subject? = some record.id := by
    induction records generalizing deliveries report with
    | nil => trivial
    | cons record rest inductionHypothesis =>
      obtain ⟨member, restIncluded⟩ := List.cons_subset.mp included
      have restOnly (report : Report) :
          (through policy now rest (deliveries.erase record.id) report).Only fun request =>
            ∃ record ∈ all, request.subject? = some record.id :=
        inductionHypothesis (deliveries.erase record.id) report restIncluded
      rw [through]
      split
      · exact restOnly _
      · refine ⟨⟨record, member, rfl⟩, ?_⟩
        intro reply
        cases reply with
        | ok _ =>
          exact only_acknowledged ⟨record, member, rfl⟩ ⟨record, member, rfl⟩ _ _ restOnly
        | error error =>
          apply only_refused
          · intro delivery named
            exact ⟨record, member, congrArg some named⟩
          · exact restOnly
  exact within records (List.Subset.refl records)

section

variable {World : Type} {answer : World → (request : Request) → request.Answer × World}

/-- Only permitted requests are exchanged. -/
theorem Only.request {permitted : Request → Prop} {run : Run} (only : run.Only permitted)
    (world : World) : ∀ exchange ∈ run.exchanges answer world, permitted exchange.request := by
  induction run generalizing world with
  | done outcome =>
    intro exchange member
    cases member
  | ask request resume inductionHypothesis =>
    intro exchange member
    rw [exchanges_ask] at member
    rcases List.mem_cons.mp member with rfl | later
    · exact only.1
    · exact inductionHypothesis _ (only.2 _) _ exchange later

/-- Surroundings that answer all permitted requests alike make no difference to a run that makes no
other ones. -/
theorem Only.congr {other : World → (request : Request) → request.Answer × World}
    {permitted : Request → Prop} {run : Run} (only : run.Only permitted)
    (alike : ∀ world request, permitted request → other world request = answer world request)
    (world : World) :
    run.execute other world = run.execute answer world ∧
      run.exchanges other world = run.exchanges answer world := by
  induction run generalizing world with
  | done outcome => exact ⟨rfl, rfl⟩
  | ask request resume inductionHypothesis =>
    rw [execute_ask, execute_ask, exchanges_ask, exchanges_ask, alike world request only.1]
    obtain ⟨executed, exchanged⟩ := inductionHypothesis (answer world request).1 (only.2 _)
      (answer world request).2
    exact ⟨executed, congrArg _ exchanged⟩

/-- A run through records makes no request about a record that is not one of them. -/
theorem only_foreign (policy : RetryPolicy) (now : Timestamp) {records : List EventRecord}
    {event : Identifier} (foreign : ∀ record ∈ records, record.id ≠ event)
    (deliveries : Table Delivery.event) (report : Report) :
    (through policy now records deliveries report).Only (·.subject? ≠ some event) := by
  apply (only_through policy now records deliveries report).mono
  rintro request ⟨record, member, subject⟩ about
  exact foreign record member (Option.some.inj (subject.symm.trans about))

/-- All requests of a run through records are about these records. -/
theorem subject_through {policy : RetryPolicy} {now : Timestamp} {records : List EventRecord}
    {deliveries : Table Delivery.event} {report : Report} {world : World} :
    ∀ exchange ∈ (through policy now records deliveries report).exchanges answer world,
      ∃ record ∈ records, exchange.request.subject? = some record.id :=
  (only_through policy now records deliveries report).request world

/-- A run that asks for no delivery tries nothing. -/
theorem attempts_silent {run : Run} (silent : run.Only fun request => ∀ record,
    request ≠ .deliver record) (event : Identifier) (world : World) :
    attempts event (run.exchanges answer world) = [] := by
  rw [attempts, List.filterMap_eq_nil_iff]
  rintro ⟨request, reply⟩ member
  have other : ∀ record, request ≠ .deliver record := silent.request world _ member
  cases request with
  | deliver record => exact absurd rfl (other record)
  | _ => rfl

/-- A run through a single record tries to deliver it exactly once, unless it waits. The requests
after the delivery are writes, and these are no attempts. -/
theorem attempts_single (policy : RetryPolicy) (now : Timestamp) (record : EventRecord)
    (deliveries : Table Delivery.event) (report : Report) (world : World) :
    attempts record.id ((through policy now [record] deliveries report).exchanges answer world) =
      if (deliveries.find? record.id).any fun delivery => !delivery.isDue now then []
      else [(answer world (.deliver record)).1] := by
  rw [through]
  split
  · rfl
  · rw [exchanges_ask]
    generalize answer world (.deliver record) = answered
    obtain ⟨reply, later⟩ := answered
    have first : Exchange.attempt? record.id ⟨.deliver record, reply⟩ = some reply := if_pos rfl
    rw [attempts, List.filterMap_cons_some first]
    congr 1
    apply attempts_silent
    cases reply with
    | ok _ =>
      exact only_acknowledged (fun _ => Request.noConfusion) (fun _ => Request.noConfusion) _ _
        fun _ => trivial
    | error error =>
      exact only_refused (fun _ _ _ => Request.noConfusion) _ _ _ _ _ fun _ => trivial

end

end Run

end Outbox
