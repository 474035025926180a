import Outbox.Proofs.Dispatch.Order
import Outbox.Proofs.Table

/-!
# What is exchanged in a run

Carried out in some surroundings, a run makes requests and gets answers until it ends. These
exchanges tell why it ended. `Run.EndsOnFatal` is a property of the tree: the run is aborted right
after a fatal answer and never otherwise. An answer is fatal when the store cannot be reached, and
when it is the failure of one of the two loads at the start, whatever failed.

`Run.Leads` follows a run from one record to the next: whatever is answered, it reaches the next
record or is broken off. So a run that is not broken off has reached every record.
-/

namespace Outbox

open Calendar

/-- A request of a run and the answer to it. -/
structure Exchange where
  request : Request
  answer : request.Answer

namespace Exchange

/-- The error that the store answered with, if it did. -/
def failure? : Exchange → Option StoreError
  | ⟨.loadPending, .error error⟩ => some error
  | ⟨.loadDeliveries, .error error⟩ => some error
  | ⟨.markSent _ _, .error error⟩ => some error
  | ⟨.clearDelivery _, .error error⟩ => some error
  | ⟨.saveDelivery _, .error error⟩ => some error
  | _ => none

/-- Whether it was asked for what the run works on. -/
def isLoad (exchange : Exchange) : Bool :=
  match exchange.request with
  | .loadPending | .loadDeliveries => true
  | _ => false

/-- Whether an error ends the run: one of the loads failed with it, or the store cannot be
reached. -/
def Fatal (exchange : Exchange) (error : StoreError) : Prop :=
  exchange.failure? = some error ∧ (exchange.isLoad = true ∨ error.isUnavailable = true)

end Exchange

namespace Run

/-- What is exchanged while a run is carried out, in order. -/
def exchanges {World : Type} (answer : World → (request : Request) → request.Answer × World) :
    Run → World → List Exchange
  | .done _, _ => []
  | .ask request resume, world =>
    let (reply, world) := answer world request
    ⟨request, reply⟩ :: (resume reply).exchanges answer world

section

variable {World : Type} (answer : World → (request : Request) → request.Answer × World)

/-- A run that asks is carried out with the answer that it gets. -/
theorem execute_ask (request : Request) (resume : request.Answer → Run) (world : World) :
    (ask request resume).execute answer world =
      (resume (answer world request).1).execute answer (answer world request).2 := rfl

/-- A run that asks has exchanged its request and the answer before everything else. -/
theorem exchanges_ask (request : Request) (resume : request.Answer → Run) (world : World) :
    (ask request resume).exchanges answer world = ⟨request, (answer world request).1⟩ ::
      (resume (answer world request).1).exchanges answer (answer world request).2 := rfl

end

/-! ## Fatal answers -/

/-- A run is aborted right after a fatal answer, with the error of that answer, and never
otherwise. -/
def EndsOnFatal : Run → Prop
  | .done outcome => ∀ report error, outcome ≠ .aborted report error
  | .ask request resume => ∀ answer,
    (∀ error, Exchange.Fatal ⟨request, answer⟩ error →
      ∃ report, resume answer = .done (.aborted report error)) ∧
    ((∀ error, ¬Exchange.Fatal ⟨request, answer⟩ error) → (resume answer).EndsOnFatal)

/-- A run that ends on fatal answers is aborted with an error exactly when it got that error as a
fatal answer.

Induct over the run. A fatal answer is the last one, so there is at most one. -/
theorem aborted_iff_fatal {World : Type}
    (answer : World → (request : Request) → request.Answer × World) (run : Run)
    (ends : run.EndsOnFatal) (world : World) (error : StoreError) :
    (∃ report, (run.execute answer world).1 = .aborted report error) ↔
      ∃ exchange ∈ run.exchanges answer world, exchange.Fatal error := by
  induction run generalizing world with
  | done outcome =>
    constructor
    · rintro ⟨report, aborted⟩
      exact absurd aborted (ends report error)
    · rintro ⟨exchange, member, _⟩
      cases member
  | ask request resume inductionHypothesis =>
    rw [execute_ask, exchanges_ask]
    obtain ⟨onFatal, otherwise⟩ := ends (answer world request).1
    by_cases fatal : ∃ other, Exchange.Fatal ⟨request, (answer world request).1⟩ other
    · obtain ⟨other, isFatal⟩ := fatal
      obtain ⟨report, ended⟩ := onFatal other isFatal
      rw [ended]
      constructor
      · rintro ⟨_, aborted⟩
        have same : other = error := (TickOutcome.aborted.inj aborted).2
        exact ⟨_, List.mem_cons_self, same ▸ isFatal⟩
      · rintro ⟨exchange, member, fatalHere⟩
        have only : exchange = ⟨request, (answer world request).1⟩ := List.mem_singleton.mp member
        rw [only] at fatalHere
        have same : other = error := Option.some.inj (isFatal.1.symm.trans fatalHere.1)
        exact ⟨report, same ▸ rfl⟩
    · have harmless : ∀ other, ¬Exchange.Fatal ⟨request, (answer world request).1⟩ other := by
        intro other isFatal
        exact fatal ⟨other, isFatal⟩
      have goesOn := inductionHypothesis _ (otherwise harmless) (answer world request).2
      constructor
      · intro aborted
        obtain ⟨exchange, member, isFatal⟩ := goesOn.mp aborted
        exact ⟨exchange, List.mem_cons_of_mem _ member, isFatal⟩
      · rintro ⟨exchange, member, isFatal⟩
        rcases List.mem_cons.mp member with rfl | later
        · exact absurd isFatal (harmless error)
        · exact goesOn.mpr ⟨exchange, later, isFatal⟩

/-- The answer to a write is fatal exactly when the store cannot be reached. -/
theorem fatal_markSent (event : Identifier) (moment : Timestamp) (reply : Except StoreError Unit)
    (error : StoreError) : Exchange.Fatal ⟨.markSent event moment, reply⟩ error ↔
      reply = .error error ∧ error.isUnavailable = true := by
  cases reply <;> simp [Exchange.Fatal, Exchange.failure?, Exchange.isLoad]

/-- Forgetting a delivery is fatal when the store cannot be reached. -/
theorem fatal_clearDelivery (event : Identifier) (reply : Except StoreError Unit)
    (error : StoreError) : Exchange.Fatal ⟨.clearDelivery event, reply⟩ error ↔
      reply = .error error ∧ error.isUnavailable = true := by
  cases reply <;> simp [Exchange.Fatal, Exchange.failure?, Exchange.isLoad]

/-- Remembering a delivery is fatal when the store cannot be reached. -/
theorem fatal_saveDelivery (delivery : Delivery) (reply : Except StoreError Unit)
    (error : StoreError) : Exchange.Fatal ⟨.saveDelivery delivery, reply⟩ error ↔
      reply = .error error ∧ error.isUnavailable = true := by
  cases reply <;> simp [Exchange.Fatal, Exchange.failure?, Exchange.isLoad]

/-- The answer to a delivery is never fatal. -/
theorem not_fatal_deliver (record : EventRecord) (reply : Except DispatchError Unit)
    (error : StoreError) : ¬Exchange.Fatal ⟨.deliver record, reply⟩ error := by
  cases reply <;> simp [Exchange.Fatal, Exchange.failure?]

/-- After a write a run ends exactly when the store cannot be reached. With any other answer it goes
on as one of the two given runs. -/
theorem endsOnFatal_afterWrite (report : Report) (next onRefused : Run)
    (nextEnds : next.EndsOnFatal) (refusedEnds : onRefused.EndsOnFatal)
    (reply : Except StoreError Unit) (exchange : Exchange)
    (fatal : ∀ error, exchange.Fatal error ↔ reply = .error error ∧ error.isUnavailable = true) :
    (∀ error, exchange.Fatal error →
      ∃ final, afterWrite report next onRefused reply = .done (.aborted final error)) ∧
    ((∀ error, ¬exchange.Fatal error) →
      (afterWrite report next onRefused reply).EndsOnFatal) := by
  constructor
  · intro error isFatal
    obtain ⟨rfl, unavailable⟩ := (fatal error).mp isFatal
    exact ⟨report, by simp [afterWrite, unavailable]⟩
  · intro harmless
    cases reply with
    | ok _ => exact nextEnds
    | error error =>
      have reachable : ¬error.isUnavailable = true := by
        intro unavailable
        exact harmless error ((fatal error).mpr ⟨rfl, unavailable⟩)
      simpa [afterWrite, reachable] using refusedEnds

/-- What follows an acknowledged delivery ends at a fatal answer if the rest of the run does. -/
theorem endsOnFatal_acknowledged (now : Timestamp) (record : EventRecord)
    (previous : Option Delivery) (report : Report) (next : Report → Run)
    (nextEnds : ∀ report, (next report).EndsOnFatal) :
    (Run.acknowledged now record previous report next).EndsOnFatal := by
  intro marked
  apply endsOnFatal_afterWrite
  · cases previous with
    | none => exact nextEnds _
    | some delivery =>
      intro cleared
      exact endsOnFatal_afterWrite _ _ _ (nextEnds _) (nextEnds _) cleared _
        (fatal_clearDelivery record.id cleared)
  · exact nextEnds _
  · exact fatal_markSent record.id now marked

/-- What follows a failed delivery ends at a fatal answer if the rest of the run does. -/
theorem endsOnFatal_refused (policy : RetryPolicy) (now : Timestamp) (record : EventRecord)
    (previous : Option Delivery) (error : DispatchError) (report : Report) (next : Report → Run)
    (nextEnds : ∀ report, (next report).EndsOnFatal) :
    (Run.refused policy now record previous error report next).EndsOnFatal := by
  rw [Run.refused]
  cases policy.recordFailure? previous record.id error.message now with
  | none =>
    intro final other
    exact TickOutcome.noConfusion
  | some delivery =>
    intro saved
    exact endsOnFatal_afterWrite _ _ _ (nextEnds _) (nextEnds _) saved _
      (fatal_saveDelivery delivery saved)

/-- No failure that concerns a single record ends a run through records. The induction is on the
records, and the run about each of them ends on fatal answers only. -/
theorem endsOnFatal_through (policy : RetryPolicy) (now : Timestamp)
    (records : List EventRecord) (deliveries : Table Delivery.event) (report : Report) :
    (through policy now records deliveries report).EndsOnFatal := by
  induction records generalizing deliveries report with
  | nil =>
    intro final error
    exact TickOutcome.noConfusion
  | cons record rest inductionHypothesis =>
    rw [through]
    split
    · exact inductionHypothesis _ _
    · intro reply
      constructor
      · intro error isFatal
        exact absurd isFatal (not_fatal_deliver record reply error)
      · intro _
        cases reply with
        | ok _ => exact endsOnFatal_acknowledged _ _ _ _ _ (inductionHypothesis _)
        | error error => exact endsOnFatal_refused _ _ _ _ _ _ _ (inductionHypothesis _)

/-- Every run that a dispatcher begins ends on fatal answers and on no others. An error of either
load is fatal, whichever error it is. -/
theorem endsOnFatal_tick (policy : RetryPolicy) (isLeader : Bool) (now : Timestamp) :
    (tick policy isLeader now).EndsOnFatal := by
  cases isLeader with
  | false =>
    intro report error
    exact TickOutcome.noConfusion
  | true =>
    intro pending
    constructor
    · intro error isFatal
      cases pending with
      | error other =>
        have same : other = error := Option.some.inj isFatal.1
        exact ⟨.empty, same ▸ rfl⟩
      | ok pending => cases isFatal.1
    · intro harmless
      cases pending with
      | error other => exact absurd ⟨rfl, Or.inl rfl⟩ (harmless other)
      | ok pending =>
        intro deliveries
        constructor
        · intro error isFatal
          cases deliveries with
          | error other =>
            have same : other = error := Option.some.inj isFatal.1
            exact ⟨.empty, same ▸ rfl⟩
          | ok deliveries => cases isFatal.1
        · intro harmless
          cases deliveries with
          | error other => exact absurd ⟨rfl, Or.inl rfl⟩ (harmless other)
          | ok deliveries => exact endsOnFatal_through _ _ _ _ _

/-! ## From one record to the next -/

/-- A run is broken off: the store cannot be reached, or the next attempt of a record lies beyond
the calendar. -/
def BrokenOff (outcome : TickOutcome) : Prop :=
  outcome = .crashed ∨ ∃ report error, outcome = .aborted report error ∧ error.isUnavailable = true

/-- Whatever is answered, a run goes on as one of some runs, or is broken off. -/
inductive Leads (next : Report → Run) : Run → Prop
  | reached (report : Report) : Leads next (next report)
  | stopped (outcome : TickOutcome) (brokenOff : BrokenOff outcome) : Leads next (.done outcome)
  | asked (request : Request) (resume : request.Answer → Run)
      (each : ∀ answer, Leads next (resume answer)) : Leads next (.ask request resume)

/-- Such a run is broken off, or ends as one of these runs, which it has reached on the way. -/
theorem Leads.reaches {World : Type}
    {answer : World → (request : Request) → request.Answer × World} {next : Report → Run}
    {run : Run} (leads : Leads next run) (world : World) :
    BrokenOff (run.execute answer world).1 ∨
      ∃ report later, (next report).execute answer later = run.execute answer world ∧
        (next report).exchanges answer later ⊆ run.exchanges answer world := by
  induction leads generalizing world with
  | reached report => exact Or.inr ⟨report, world, rfl, List.Subset.refl _⟩
  | stopped outcome brokenOff => exact Or.inl brokenOff
  | asked request resume each inductionHypothesis =>
    rw [execute_ask, exchanges_ask]
    rcases inductionHypothesis (answer world request).1 (answer world request).2 with
      brokenOff | ⟨report, later, same, included⟩
    · exact Or.inl brokenOff
    · exact Or.inr ⟨report, later, same, List.Subset.trans included (List.subset_cons_self _ _)⟩

/-- What follows a write leads on to the next record if both ways on from it do. -/
theorem leads_afterWrite {next : Report → Run} {first onRefused : Run} (report : Report)
    (firstLeads : Leads next first) (refusedLeads : Leads next onRefused)
    (reply : Except StoreError Unit) : Leads next (afterWrite report first onRefused reply) := by
  cases reply with
  | ok _ => exact firstLeads
  | error error =>
    cases unavailable : error.isUnavailable with
    | true =>
      rw [afterWrite, if_pos unavailable]
      exact .stopped _ (Or.inr ⟨report, error, rfl, unavailable⟩)
    | false => simpa [afterWrite, unavailable] using refusedLeads

/-- An acknowledged delivery leads on to the next record. -/
theorem leads_acknowledged (now : Timestamp) (record : EventRecord) (previous : Option Delivery)
    (report : Report) (next : Report → Run) :
    Leads next (Run.acknowledged now record previous report next) := by
  apply Leads.asked
  intro marked
  apply leads_afterWrite
  · cases previous with
    | none => exact .reached _
    | some delivery =>
      apply Leads.asked
      intro cleared
      exact leads_afterWrite _ (.reached _) (.reached _) cleared
  · exact .reached _

/-- A failed delivery leads on to the next record. -/
theorem leads_refused (policy : RetryPolicy) (now : Timestamp) (record : EventRecord)
    (previous : Option Delivery) (error : DispatchError) (report : Report)
    (next : Report → Run) :
    Leads next (Run.refused policy now record previous error report next) := by
  rw [Run.refused]
  cases policy.recordFailure? previous record.id error.message now with
  | none => exact .stopped _ (Or.inl rfl)
  | some delivery =>
    apply Leads.asked
    intro saved
    exact leads_afterWrite _ (.reached _) (.reached _) saved

/-- Whether a record waits for its next attempt, by what is remembered of its deliveries. -/
def Waits (deliveries : Table Delivery.event) (now : Timestamp) (record : EventRecord) : Prop :=
  ∃ delivery, deliveries.find? record.id = some delivery ∧ delivery.isDue now = false

/-- Whether a record waits is looked up as a run does it. -/
theorem waits_iff (deliveries : Table Delivery.event) (now : Timestamp) (record : EventRecord) :
    Waits deliveries now record ↔
      (deliveries.find? record.id).any (fun delivery => !delivery.isDue now) = true := by
  simp [Waits, Option.any_eq_true]

/-- A record that waits by what is left of the deliveries waits by all of them. -/
theorem Waits.of_erase {deliveries : Table Delivery.event} {event : Identifier} {now : Timestamp}
    {record : EventRecord} (waits : Waits (deliveries.erase event) now record) :
    Waits deliveries now record := by
  obtain ⟨delivery, found, notDue⟩ := waits
  rw [Table.find?_erase] at found
  split at found
  · cases found
  · exact ⟨delivery, found, notDue⟩

/-- A run that tries a record asks for its delivery first and then leads to the other ones. -/
theorem through_tried (policy : RetryPolicy) (now : Timestamp) (record : EventRecord)
    (rest : List EventRecord) (deliveries : Table Delivery.event) (report : Report)
    (due : ¬(deliveries.find? record.id).any (fun delivery => !delivery.isDue now) = true) :
    ∃ resume, through policy now (record :: rest) deliveries report =
        .ask (.deliver record) resume ∧
      ∀ reply, Leads (through policy now rest (deliveries.erase record.id)) (resume reply) := by
  rw [through, if_neg due]
  refine ⟨_, rfl, ?_⟩
  intro reply
  cases reply with
  | ok _ => exact leads_acknowledged _ _ _ _ _
  | error error => exact leads_refused _ _ _ _ _ _ _

/-- A run through records is broken off, or completes and has tried each of them except those that
wait for their next attempt.

Induct over the records. The deliveries shrink with each record, so what is loaded of them at the
start decides. -/
theorem through_tries {World : Type}
    (answer : World → (request : Request) → request.Answer × World) (policy : RetryPolicy)
    (now : Timestamp) (records : List EventRecord) (deliveries : Table Delivery.event)
    (report : Report) (world : World) :
    BrokenOff ((through policy now records deliveries report).execute answer world).1 ∨
      ∃ final, ((through policy now records deliveries report).execute answer world).1 =
          .completed final ∧
        ∀ record ∈ records, Waits deliveries now record ∨
          ∃ reply, ⟨.deliver record, reply⟩ ∈
            (through policy now records deliveries report).exchanges answer world := by
  induction records generalizing deliveries report world with
  | nil =>
    right
    refine ⟨report, rfl, ?_⟩
    intro record member
    cases member
  | cons first rest inductionHypothesis =>
    by_cases waits : (deliveries.find? first.id).any (fun delivery => !delivery.isDue now) = true
    · rw [through, if_pos waits]
      rcases inductionHypothesis (deliveries.erase first.id)
        { report with deferred := report.deferred + 1 } world with
        brokenOff | ⟨final, completed, each⟩
      · exact Or.inl brokenOff
      · refine Or.inr ⟨final, completed, ?_⟩
        intro record member
        rcases List.mem_cons.mp member with rfl | later
        · exact Or.inl ((waits_iff deliveries now record).mpr waits)
        · exact (each record later).imp_left Waits.of_erase
    · obtain ⟨resume, tries, leads⟩ := through_tried policy now first rest deliveries report waits
      rw [tries, execute_ask, exchanges_ask]
      rcases (leads (answer world (.deliver first)).1).reaches
        (answer world (.deliver first)).2 with
        brokenOff | ⟨next, later, same, included⟩
      · exact Or.inl brokenOff
      · rcases inductionHypothesis (deliveries.erase first.id) next later with
          brokenOff | ⟨final, completed, each⟩
        · left
          rw [same] at brokenOff
          exact brokenOff
        · rw [same] at completed
          refine Or.inr ⟨final, completed, ?_⟩
          intro record member
          rcases List.mem_cons.mp member with rfl | inRest
          · exact Or.inr ⟨_, List.mem_cons_self⟩
          · rcases each record inRest with wait | ⟨reply, tried⟩
            · exact Or.inl wait.of_erase
            · exact Or.inr ⟨reply, List.mem_cons_of_mem _ (included tried)⟩

end Run

end Outbox
