import Outbox.Proofs.Calendar
import Outbox.Proofs.Dispatch.Attempts
import Outbox.Proofs.Retry
import Outbox.Proofs.Standing

/-!
# Stations

A station is a single dispatcher at a site whose store does not fail. Its dispatch runs do not
overlap. Between them producers store records, on their own or in units of work, retention jobs
delete expired records, operators ask for another round of attempts, and the broker changes how it
answers. Every such turn is carried out as a whole, at whatever time its clock shows.

`Station.Change` says what a turn can make of what is held under one identifier, and which tries it
makes of the record. There are six cases, and everything that happens to a record over many turns
follows from them.
-/

namespace Outbox

open Calendar

/-- A dispatcher that is on its own: as whom and through which handlers it sends, and when it tries
again. -/
structure Station where
  sender : Sender
  policy : RetryPolicy

namespace Station

/-- What happens at a station. -/
inductive Turn
  /-- A dispatch run under the category names of the moment, which waits for the broker only so
      long. -/
  | dispatch (names : CategoryNames) (patience : Duration) (isLeader : Bool) (now : Timestamp)
  /-- A retention job deletes expired records. -/
  | retain (isLeader : Bool) (span : Int) (now : Timestamp)
  /-- A producer stores a record on its own. -/
  | save (record : EventRecord)
  /-- A producer stores the records of a unit of work together. -/
  | commit (work : UnitOfWork)
  /-- An operator asks for another round of attempts. -/
  | requeue (event : Identifier) (now : Timestamp)
  /-- The broker answers from now on as it is said here. -/
  | disturb (outage : Option BrokerError) (failing : List Identifier) (latency : Option Duration)

variable (station : Station)

/-- How the station sends in a run. -/
def sending (names : CategoryNames) (patience : Duration) : Sending :=
  ⟨station.sender, names, patience⟩

/-- The site after a turn. -/
def perform (site : Site) : Turn → Site
  | .dispatch names patience isLeader now =>
    (site.dispatch (station.sending names patience) station.policy isLeader now).2
  | .retain isLeader span now => (site.retainKeeping isLeader span now).2
  | .save record => (site.call (.save record)).2
  | .commit work => { site with store := (site.store.changed (work.commit site.store)).2 }
  | .requeue event now => (site.call (.requeue event now)).2
  | .disturb outage failing latency =>
    { site with outage, broker := { site.broker with failing, latency } }

/-- The site after turns one after the other. -/
def run (site : Site) (turns : List Turn) : Site :=
  turns.foldl station.perform site

/-- What the dispatcher exchanges with the site in a turn. -/
def exchanges (site : Site) : Turn → List Exchange
  | .dispatch names patience isLeader now =>
    (Run.tick station.policy isLeader now).exchanges (Site.answer (station.sending names patience))
      site
  | _ => []

/-- The tries that a turn makes of a record. -/
def tries (event : Identifier) (site : Site) (turn : Turn) : List (Except DispatchError Unit) :=
  attempts event (station.exchanges site turn)

/-- The records that a turn brings into the store. -/
def inserted (site : Site) : Turn → List EventRecord
  | .save record => if (site.store.save record).isOk then [record] else []
  | .commit work => if (work.commit site.store).isOk then work.staged else []
  | _ => []

/-- Whether the next attempt of every record whose delivery fails in a turn lies within the
calendar. -/
def WithinCalendar (site : Site) : Turn → Prop
  | .dispatch names patience true now => ∀ record ∈ site.pendingRecords,
    Site.WithinCalendar (station.sending names patience) station.policy now site record
  | _ => True

/-! ## Turns one after the other -/

/-- Whether something holds of every turn, at the site at which it is taken. -/
def Throughout (holds : Site → Turn → Prop) : Site → List Turn → Prop
  | _, [] => True
  | site, turn :: turns => holds site turn ∧ Throughout holds (station.perform site turn) turns

/-- What is gathered from all turns, in order. -/
def gathered {Part : Type} (part : Site → Turn → List Part) : Site → List Turn → List Part
  | _, [] => []
  | site, turn :: turns => part site turn ++ gathered part (station.perform site turn) turns

/-- Whether no attempt of a record lies beyond the calendar. -/
def InCalendar (site : Site) (turns : List Turn) : Prop :=
  station.Throughout station.WithinCalendar site turns

/-- All tries of a record, in order. -/
def allTries (event : Identifier) (site : Site) (turns : List Turn) :
    List (Except DispatchError Unit) :=
  station.gathered (station.tries event) site turns

/-- All records that came into the store, in order. -/
def insertions (site : Site) (turns : List Turn) : List EventRecord :=
  station.gathered inserted site turns

/-- What holds of turns that are cut in two holds of the first ones and, at the site that these lead
to, of the others. -/
theorem throughout_append (holds : Site → Turn → Prop) (site : Site) (first second : List Turn) :
    station.Throughout holds site (first ++ second) ↔
      station.Throughout holds site first ∧
        station.Throughout holds (station.run site first) second := by
  induction first generalizing site with
  | nil => exact ⟨fun holds => ⟨trivial, holds⟩, And.right⟩
  | cons turn rest inductionHypothesis =>
    rw [List.cons_append, Throughout, Throughout, inductionHypothesis, and_assoc]
    rfl

/-- What is gathered from turns that are cut in two is gathered from the first ones at the site
where they start, and from the others at the site that the first ones lead to. -/
theorem gathered_append {Part : Type} (part : Site → Turn → List Part) (site : Site)
    (first second : List Turn) :
    station.gathered part site (first ++ second) =
      station.gathered part site first ++
        station.gathered part (station.run site first) second := by
  induction first generalizing site with
  | nil => rfl
  | cons turn rest inductionHypothesis =>
    rw [List.cons_append, gathered, gathered, inductionHypothesis, List.append_assoc]
    rfl

/-! ## What a turn makes of what is held under an identifier -/

/-- The changes that a turn can make of what is held under an identifier, with the tries that it
makes of the record. -/
inductive Change (policy : RetryPolicy) (event : Identifier) (site : Site) :
    Turn → Standing → List (Except DispatchError Unit) → Standing → Prop
  /-- Nothing changes. No record came in, a leading run passes a pending record over only because
      its delivery is not due, and what is requeued without effect was not parked. -/
  | kept (turn : Turn) (standing : Standing)
      (foreign : ∀ record ∈ inserted site turn, record.id ≠ event)
      (waits : ∀ names patience now record, turn = .dispatch names patience true now →
        standing.record = some record → record.status = .pending →
          ∃ delivery, standing.delivery = some delivery ∧ delivery.isDue now = false)
      (unparked : ∀ now delivery, turn = .requeue event now →
        standing.delivery = some delivery → delivery.parked = false) :
      Change policy event site turn standing [] standing
  /-- A record comes in where there was none. -/
  | entered (turn : Turn) (before : Standing) (record : EventRecord)
      (member : record ∈ inserted site turn) (named : record.id = event)
      (absent : before.record = none) :
      Change policy event site turn before [] { before with record := some record }
  /-- A pending record that is due is published. -/
  | sent (names : CategoryNames) (patience : Duration) (now : Timestamp) (before : Standing)
      (record : EventRecord) (stored : before.record = some record)
      (pending : record.status = .pending)
      (due : ∀ delivery ∈ before.delivery, delivery.isDue now = true) (envelope : Envelope) :
      Change policy event site (.dispatch names patience true now) before [.ok ()]
        ⟨some { record with status := .sent, updated := now }, none,
          before.published ++ [envelope]⟩
  /-- The delivery of a pending record that is due fails, which is remembered. -/
  | failed (names : CategoryNames) (patience : Duration) (now : Timestamp) (before : Standing)
      (record : EventRecord) (stored : before.record = some record)
      (pending : record.status = .pending)
      (due : ∀ delivery ∈ before.delivery, delivery.isDue now = true) (error : DispatchError)
      (delivery : Delivery)
      (remembered : policy.recordFailure? before.delivery event error.message now = some delivery) :
      Change policy event site (.dispatch names patience true now) before [.error error]
        { before with delivery := some delivery }
  /-- A sent record is deleted, and what was remembered of its deliveries with it. -/
  | removed (span : Int) (now : Timestamp) (before : Standing) (record : EventRecord)
      (stored : before.record = some record) (sent : record.status = .sent) :
      Change policy event site (.retain true span now) before []
        { before with record := none, delivery := none }
  /-- A parked record is to be tried again. -/
  | requeued (now : Timestamp) (before : Standing) (delivery : Delivery)
      (known : before.delivery = some delivery) (parked : delivery.parked = true) :
      Change policy event site (.requeue event now) before []
        { before with delivery := some (delivery.requeued now) }

section

variable {station} {event : Identifier} {site : Site}

/-- A turn that is neither a leading run nor a requeue of the record, and brings no record of that
identifier in, may change nothing. -/
theorem Change.idle {policy : RetryPolicy} {turn : Turn} (standing : Standing)
    (foreign : ∀ record ∈ inserted site turn, record.id ≠ event)
    (noRun : ∀ names patience now, turn ≠ .dispatch names patience true now)
    (noRequeue : ∀ now, turn ≠ .requeue event now) :
    Change policy event site turn standing [] standing := by
  refine .kept turn standing foreign ?_ ?_
  · intro names patience now record same
    exact absurd same (noRun names patience now)
  · intro now delivery same
    exact absurd same (noRequeue now)

/-- A leading run changes nothing where no record is pending or the next attempt is not due. -/
theorem Change.passed {policy : RetryPolicy} {names : CategoryNames} {patience : Duration}
    {now : Timestamp} (standing : Standing)
    (waits : ∀ record, standing.record = some record → record.status = .pending →
      ∃ delivery, standing.delivery = some delivery ∧ delivery.isDue now = false) :
    Change policy event site (.dispatch names patience true now) standing [] standing := by
  refine .kept _ standing ?_ ?_ ?_
  · intro record member
    cases member
  · intro names patience moment record same stored pending
    obtain ⟨_, _, _, rfl⟩ := Turn.dispatch.inj same
    exact waits record stored pending
  · intro moment delivery same
    cases same

/-- A record waits and is deferred, or it is due and is sent or fails. A record of which nothing is
remembered is due. -/
theorem treatment_cases (site : Site) (sending : Sending) (now : Timestamp)
    (record : EventRecord) :
    (∃ delivery, (site.standing record.id).delivery = some delivery ∧
        delivery.isDue now = false ∧ site.treatment sending now record = .deferred) ∨
      (∀ delivery ∈ (site.standing record.id).delivery, delivery.isDue now = true) ∧
        ((∃ envelope, site.treatment sending now record = .sent envelope) ∨
          ∃ error, site.treatment sending now record = .failed error) := by
  by_cases waits : ∃ delivery, (site.standing record.id).delivery = some delivery ∧
      delivery.isDue now = false
  · obtain ⟨delivery, remembered, notDue⟩ := waits
    exact Or.inl ⟨delivery, remembered, notDue, Site.treatment_deferred remembered notDue⟩
  · right
    have due : ∀ delivery ∈ (site.standing record.id).delivery, delivery.isDue now = true := by
      intro delivery remembered
      by_contra notDue
      exact waits ⟨delivery, remembered, eq_false_of_ne_true notDue⟩
    refine ⟨due, ?_⟩
    cases decided : site.verdict sending record with
    | ok envelope => exact Or.inl ⟨envelope, Site.treatment_sent due decided⟩
    | error error => exact Or.inr ⟨error, Site.treatment_failed due decided⟩

/-- What is held of a record after a run is what its treatment makes of it. -/
theorem standing_treated {sending : Sending} {policy : RetryPolicy} {now : Timestamp}
    {after : Site} (treated : Site.Treated sending policy now site site.pendingRecords after)
    {record : EventRecord} (member : record ∈ site.pendingRecords) :
    after.standing record.id = {
      record := some ((site.treatment sending now record).record now record)
      delivery := (site.treatment sending now record).delivery? policy now record.id
        (site.standing record.id).delivery
      published := (site.standing record.id).published ++
        (site.treatment sending now record).envelopes } := by
  obtain ⟨records, deliveries⟩ := treated.own record member
  rw [Site.standing, records, deliveries, treated.broker, List.filter_append,
    Site.filter_envelopes_own site.nodup_pendingRecords member]
  rfl

/-- What is held under any other identifier is as it was. -/
theorem standing_untreated {sending : Sending} {policy : RetryPolicy} {now : Timestamp}
    {after : Site} (treated : Site.Treated sending policy now site site.pendingRecords after)
    (foreign : ∀ record ∈ site.pendingRecords, record.id ≠ event) :
    after.standing event = site.standing event := by
  obtain ⟨records, deliveries⟩ := treated.others event foreign
  rw [Site.standing, records, deliveries, treated.broker, List.filter_append,
    Site.filter_envelopes_foreign foreign, List.append_nil]
  rfl

/-- A leading run makes of what is held of each record what its treatment makes of it. Whatever is
held under an identifier that is not pending stays as it is. -/
theorem change_dispatch (sound : site.Sound) (names : CategoryNames) (patience : Duration)
    (now : Timestamp)
    (within : station.WithinCalendar site (.dispatch names patience true now)) :
    Change station.policy event site (.dispatch names patience true now) (site.standing event)
      (station.tries event site (.dispatch names patience true now))
      ((station.perform site (.dispatch names patience true now)).standing event) := by
  obtain ⟨report, after, completed, treated⟩ := Site.dispatch_treats sound within
  obtain ⟨tried, untried⟩ := Site.attempts_tick sound within
  have performed : station.perform site (.dispatch names patience true now) = after :=
    congrArg Prod.snd completed
  rw [performed]
  by_cases found : ∃ record ∈ site.pendingRecords, record.id = event
  · obtain ⟨record, member, rfl⟩ := found
    obtain ⟨stored, pending⟩ := (Site.mem_pendingRecords site record).mp member
    have lookedUp : (site.standing record.id).record = some record := Table.find?_of_mem stored
    have tries : station.tries record.id site (.dispatch names patience true now) =
        (site.treatment (station.sending names patience) now record).attempts := tried record member
    rw [standing_treated treated member, tries]
    have made := treatment_cases site (station.sending names patience) now record
    have remembers : ∀ error,
        site.treatment (station.sending names patience) now record = .failed error →
          station.policy.recordFailure? (site.standing record.id).delivery record.id error.message
            now ≠ none := within record member
    generalize site.standing record.id = before at lookedUp made remembers ⊢
    obtain ⟨_, held, published⟩ := before
    obtain rfl := lookedUp
    rcases made with ⟨delivery, remembered, notDue, deferred⟩ |
      ⟨due, ⟨envelope, sent⟩ | ⟨error, failed⟩⟩
    · simp only [deferred, Treatment.record, Treatment.delivery?, Treatment.envelopes,
        Treatment.attempts, List.append_nil]
      apply Change.passed
      intro _ _ _
      exact ⟨delivery, remembered, notDue⟩
    · rw [sent]
      exact .sent names patience now _ record rfl pending due envelope
    · obtain ⟨delivery, remembered⟩ := Option.ne_none_iff_exists'.mp (remembers error failed)
      simp only [failed, Treatment.record, Treatment.delivery?, Treatment.envelopes,
        Treatment.attempts, List.append_nil, remembered]
      exact .failed names patience now _ record rfl pending due error delivery remembered
  · have foreign : ∀ record ∈ site.pendingRecords, record.id ≠ event := by
      intro record member named
      exact found ⟨record, member, named⟩
    have tries : station.tries event site (.dispatch names patience true now) = [] :=
      untried event foreign
    rw [standing_untreated treated foreign, tries]
    apply Change.passed
    intro record stored pending
    obtain ⟨member, named⟩ := (Table.find?_eq_some_iff ..).mp stored
    have listed := (Site.mem_pendingRecords site record).mpr ⟨member, pending⟩
    exact absurd named (foreign record listed)

/-- A retention job removes a sent record or leaves everything as it was. A job that does not lead,
or whose limit would lie outside the calendar, does nothing. -/
theorem change_retain (sound : site.Sound) {policy : RetryPolicy} (isLeader : Bool) (span : Int)
    (now : Timestamp) :
    Change policy event site (.retain isLeader span now) (site.standing event) []
      ((site.retainKeeping isLeader span now).2.standing event) := by
  have nothing : ∀ record ∈ inserted site (.retain isLeader span now), record.id ≠ event := by
    intro record member
    cases member
  rcases site.retainKeeping_cases isLeader span now with idle | ⟨rfl, cutoff, _, deleting⟩
  · rw [idle]
    exact .idle _ nothing (fun _ _ _ => Turn.noConfusion) fun _ => Turn.noConfusion
  · rw [deleting, sound.standing_deleted]
    by_cases expires : (site.standing event).record.any (MemoryStore.expired .sent cutoff) = true
    · obtain ⟨record, stored, expired⟩ := (Option.any_eq_true ..).mp expires
      rw [MemoryStore.expired, Bool.and_eq_true, decide_eq_true_eq] at expired
      rw [if_pos expires]
      exact .removed span now _ record stored expired.1
    · rw [if_neg expires]
      exact .idle _ nothing (fun _ _ _ => Turn.noConfusion) fun _ => Turn.noConfusion

/-- A turn only brings records in, under new identifiers. -/
structure Inserts (station : Station) (site : Site) (turn : Turn) : Prop where
  fresh : ∀ record ∈ inserted site turn, site.store.records.find? record.id = none
  store : (station.perform site turn).store =
    { site.store with records := site.store.records.putAll (inserted site turn) }
  broker : (station.perform site turn).broker = site.broker
  plan : (station.perform site turn).faults.plan = site.faults.plan

/-- A turn that puts records in together, or none of them, only brings records in. The two ways of
storing a record are both of this kind. -/
theorem inserts_of_insertAll {turn : Turn} (batch : List EventRecord)
    (arrives : inserted site turn = if (site.store.insertAll batch).isOk then batch else [])
    (store : (station.perform site turn).store =
      (site.store.insertAll batch).toOption.getD site.store)
    (broker : (station.perform site turn).broker = site.broker)
    (plan : (station.perform site turn).faults.plan = site.faults.plan) :
    station.Inserts site turn := by
  cases outcome : site.store.insertAll batch with
  | error error =>
    have nothing : inserted site turn = [] := by rw [arrives, outcome]; rfl
    refine ⟨by simp [nothing], ?_, broker, plan⟩
    rw [store, outcome, nothing]
    rfl
  | ok next =>
    have all : inserted site turn = batch := by rw [arrives, outcome]; rfl
    obtain ⟨fresh, rfl⟩ := MemoryStore.insertAll_ok outcome
    refine ⟨by rwa [all], ?_, broker, plan⟩
    rw [store, outcome, all]
    rfl

/-- A record that is saved comes in unless its identifier is taken. -/
theorem inserts_save (sound : site.Sound) (record : EventRecord) :
    station.Inserts site (.save record) := by
  have performed : station.perform site (.save record) = { site with
      store := (site.store.call (.save record)).2
      faults := site.faults.count .save } := congrArg Prod.snd (sound.call (.save record))
  apply inserts_of_insertAll [record] rfl
  · rw [performed, MemoryStore.call]
    change (site.store.written (site.store.insertAll [record])).2 = _
    cases site.store.insertAll [record] <;> rfl
  · rw [performed]
  · rw [performed]
    rfl

/-- The records of a unit of work come in unless an identifier of one of them is taken. -/
theorem inserts_commit (work : UnitOfWork) : station.Inserts site (.commit work) := by
  apply inserts_of_insertAll work.staged
  · rw [inserted, UnitOfWork.commit]
    cases site.store.insertAll work.staged <;> rfl
  · rw [perform, UnitOfWork.commit]
    cases site.store.insertAll work.staged <;> rfl
  · rfl
  · rfl

/-- Records that come in change nothing but that they are there. If several of them share an
identifier, it is the last of them that is found. -/
theorem change_inserts {policy : RetryPolicy} {turn : Turn} (inserts : station.Inserts site turn)
    (noRun : ∀ names patience now, turn ≠ .dispatch names patience true now)
    (noRequeue : ∀ now, turn ≠ .requeue event now) :
    Change policy event site turn (site.standing event) []
      ((station.perform site turn).standing event) := by
  have held : (station.perform site turn).standing event = { site.standing event with
      record := ((inserted site turn).reverse.find? fun record => record.id = event).or
        (site.standing event).record } := by
    rw [Site.standing, inserts.store, inserts.broker, Table.find?_putAll]
    rfl
  rw [held]
  cases found : (inserted site turn).reverse.find? fun record => record.id = event with
  | none =>
    apply Change.idle _ ?_ noRun noRequeue
    intro record member named
    have absent := List.find?_eq_none.mp found record (List.mem_reverse.mpr member)
    exact absent (decide_eq_true named)
  | some record =>
    have member : record ∈ inserted site turn :=
      List.mem_reverse.mp (List.mem_of_find?_eq_some found)
    have named : record.id = event := by simpa using List.find?_some found
    exact .entered turn (site.standing event) record member named
      (named ▸ inserts.fresh record member)

/-- A requeue lets a parked record be tried again or changes nothing. What is remembered under other
identifiers is not touched. -/
theorem change_requeue (sound : site.Sound) {policy : RetryPolicy} (subject : Identifier)
    (now : Timestamp) :
    Change policy event site (.requeue subject now) (site.standing event) []
      ((site.call (.requeue subject now)).2.standing event) := by
  have nothing : ∀ record ∈ inserted site (.requeue subject now), record.id ≠ event := by
    intro record member
    cases member
  have noRun (names : CategoryNames) (patience : Duration) (moment : Timestamp) :
      Turn.requeue subject now ≠ .dispatch names patience true moment := Turn.noConfusion
  by_cases same : subject = event
  · subst same
    rw [sound.requeue]
    cases known : (site.store.deliveries.find? subject).filter Delivery.parked with
    | none =>
      refine .kept _ _ nothing ?_ ?_
      · intro names patience moment _ run
        exact absurd run (noRun names patience moment)
      · intro _ delivery _ remembered
        exact eq_false_of_ne_true (Option.filter_eq_none_iff.mp known delivery remembered)
    | some delivery =>
      obtain ⟨remembered, parked⟩ := Option.filter_eq_some_iff.mp known
      have named : delivery.event = subject := Table.key_of_find? remembered
      have held : (site.store.deliveries.put (delivery.requeued now)).find? subject =
          some (delivery.requeued now) := (Table.find?_put ..).trans (if_pos named.symm)
      simp only [Site.standing, held]
      exact .requeued now (site.standing subject) delivery remembered parked
  · rw [site.frame_call (.requeue subject now) event same]
    refine .idle _ nothing noRun ?_
    intro moment requeues
    exact same (Turn.requeue.inj requeues).1

/-! ## Turns at a sound site -/

/-- A call at a sound site leaves it sound, whatever it is answered. -/
theorem sound_call (sound : site.Sound) (call : StoreCall) : (site.call call).2.Sound := by
  rw [sound.call]
  exact ⟨(site.store.available_call call).trans sound.available, sound.faultless⟩

/-- A turn at a sound site leaves it sound, as no turn makes the store fail. A run keeps it sound
because it completes. -/
theorem sound_perform (sound : site.Sound) {turn : Turn}
    (within : station.WithinCalendar site turn) : (station.perform site turn).Sound := by
  cases turn with
  | dispatch names patience isLeader now =>
    cases isLeader with
    | false => exact sound
    | true =>
      obtain ⟨report, after, completed, treated⟩ := Site.dispatch_treats sound within
      rw [perform, completed]
      exact treated.sound
  | retain isLeader span now =>
    rw [perform]
    rcases site.retainKeeping_cases isLeader span now with idle | ⟨_, cutoff, _, deleting⟩
    · rw [idle]
      exact sound
    · rw [deleting]
      exact sound_call sound _
  | save record => exact sound_call sound _
  | commit work =>
    have inserts : station.Inserts site (.commit work) := inserts_commit work
    refine ⟨?_, ?_⟩
    · rw [inserts.store]
      exact sound.available
    · rw [inserts.plan]
      exact sound.faultless
  | requeue subject now => exact sound_call sound _
  | disturb outage failing latency => exact ⟨sound.available, sound.faultless⟩

/-- Every turn at a sound site makes one of the listed changes under each identifier. All that is
shown of the turns of a station goes by cases on these changes. -/
theorem change_perform (event : Identifier) (sound : site.Sound) {turn : Turn}
    (within : station.WithinCalendar site turn) :
    Change station.policy event site turn (site.standing event) (station.tries event site turn)
      ((station.perform site turn).standing event) := by
  cases turn with
  | dispatch names patience isLeader now =>
    cases isLeader with
    | false =>
      refine .kept _ _ ?_ ?_ ?_
      · intro record member
        cases member
      · intro _ _ _ _ leads
        cases leads
      · intro _ _ requeues
        cases requeues
    | true => exact change_dispatch sound names patience now within
  | retain isLeader span now => exact change_retain sound isLeader span now
  | save record =>
    exact change_inserts (inserts_save sound record) (fun _ _ _ => Turn.noConfusion)
      fun _ => Turn.noConfusion
  | commit work =>
    exact change_inserts (inserts_commit work) (fun _ _ _ => Turn.noConfusion)
      fun _ => Turn.noConfusion
  | requeue subject now => exact change_requeue sound subject now
  | disturb outage failing latency =>
    refine .idle _ ?_ (fun _ _ _ => Turn.noConfusion) fun _ => Turn.noConfusion
    intro record member
    cases member

/-! ## Many turns -/

/-- Turns that begin at a sound site end at one, as long as no attempt lies beyond the calendar. -/
theorem sound_run {turns : List Turn} (sound : site.Sound)
    (inCalendar : station.InCalendar site turns) : (station.run site turns).Sound := by
  induction turns generalizing site with
  | nil => exact sound
  | cons turn rest inductionHypothesis =>
    exact inductionHypothesis (sound_perform sound inCalendar.1) inCalendar.2

/-- What holds of what is held under an identifier, of the tries so far and of the records that came
in so far, holds after many turns if every change keeps it.

Induct over the turns. Whatever is known of every turn may be used for each change. -/
theorem invariant_onwards (event : Identifier) {holds : Site → Turn → Prop}
    {Invariant : List EventRecord → List (Except DispatchError Unit) → Standing → Prop}
    (keeps : ∀ site turn arrived tries new after, Site.Sound site → holds site turn →
      Change station.policy event site turn (site.standing event) new after →
      Invariant arrived tries (site.standing event) →
        Invariant (arrived ++ inserted site turn) (tries ++ new) after)
    (sound : site.Sound) {turns : List Turn} (inCalendar : station.InCalendar site turns)
    (throughout : station.Throughout holds site turns)
    {arrived : List EventRecord} {tries : List (Except DispatchError Unit)}
    (initially : Invariant arrived tries (site.standing event)) :
    Invariant (arrived ++ station.insertions site turns)
      (tries ++ station.allTries event site turns) ((station.run site turns).standing event) := by
  induction turns generalizing site arrived tries with
  | nil =>
    rw [insertions, allTries, gathered, gathered, List.append_nil, List.append_nil]
    exact initially
  | cons turn rest inductionHypothesis =>
    have changed := keeps site turn arrived tries _ _ sound throughout.1
      (change_perform event sound inCalendar.1) initially
    have later := inductionHypothesis (sound_perform sound inCalendar.1) inCalendar.2 throughout.2
      changed
    rw [List.append_assoc, List.append_assoc] at later
    exact later

/-- What holds before any tries are made and any records come in, and is kept by every change, holds
of everything that happens in many turns. -/
theorem invariant_run (event : Identifier) (holds : Site → Turn → Prop)
    (Invariant : List EventRecord → List (Except DispatchError Unit) → Standing → Prop)
    (keeps : ∀ site turn arrived tries new after, Site.Sound site → holds site turn →
      Change station.policy event site turn (site.standing event) new after →
      Invariant arrived tries (site.standing event) →
        Invariant (arrived ++ inserted site turn) (tries ++ new) after)
    (sound : site.Sound) {turns : List Turn} (inCalendar : station.InCalendar site turns)
    (throughout : station.Throughout holds site turns)
    (initially : Invariant [] [] (site.standing event)) :
    Invariant (station.insertions site turns) (station.allTries event site turns)
      ((station.run site turns).standing event) :=
  invariant_onwards event keeps sound inCalendar throughout initially

/-- What holds of each turn at every site holds of every turn. -/
theorem throughout_of_forall {holds : Site → Turn → Prop} {turns : List Turn}
    (always : ∀ turn ∈ turns, ∀ site, holds site turn) (site : Site) :
    station.Throughout holds site turns := by
  induction turns generalizing site with
  | nil => trivial
  | cons turn rest inductionHypothesis =>
    obtain ⟨here, there⟩ := List.forall_mem_cons.mp always
    exact ⟨here site, inductionHypothesis there _⟩

/-- What follows of each turn from something that holds of every turn holds of every turn. -/
theorem throughout_mono {holds other : Site → Turn → Prop} {turns : List Turn}
    (follows : ∀ site turn, holds site turn → other site turn)
    (throughout : station.Throughout holds site turns) : station.Throughout other site turns := by
  induction turns generalizing site with
  | nil => trivial
  | cons turn rest inductionHypothesis =>
    exact ⟨follows site turn throughout.1, inductionHypothesis throughout.2⟩

/-- No attempt lies beyond the calendar when every waiting time can be added to the time of each
leading run. -/
theorem inCalendar_of_spans {turns : List Turn} (reaches : ∀ names patience now,
    Turn.dispatch names patience true now ∈ turns →
      ∀ attempt, now.add? (station.policy.waitingSpan attempt) ≠ none) (site : Site) :
    station.InCalendar site turns := by
  refine throughout_of_forall ?_ site
  intro turn member other
  cases turn with
  | dispatch names patience isLeader now =>
    cases isLeader with
    | false => trivial
    | true =>
      intro record _ error _
      rw [RetryPolicy.recordFailure?, ne_eq, Option.map_eq_none_iff]
      exact reaches names patience now member _
  | _ => trivial

/-- Without waiting every attempt lies within the calendar. -/
theorem inCalendar_of_zero (atOnce : station.policy.baseDelay = .zero) (site : Site)
    (turns : List Turn) : station.InCalendar site turns := by
  refine inCalendar_of_spans ?_ site
  intro names patience now _ attempt
  rw [RetryPolicy.waitingSpan_of_zero atOnce, Timestamp.add?_zero]
  exact Option.some_ne_none now

/-- Whether a turn lets a record begin anew: it brings the record in, or it requeues the record,
which was parked. -/
def Restarts (event : Identifier) (site : Site) (turn : Turn) : Prop :=
  (∃ record ∈ inserted site turn, record.id = event) ∨
    ∃ now, turn = .requeue event now ∧ (site.call (.requeue event now)).1 = .ok true

/-- Whether a record does not begin anew during some turns. -/
def Undisturbed (station : Station) (event : Identifier) (site : Site) (turns : List Turn) : Prop :=
  station.Throughout (fun site turn => ¬Restarts event site turn) site turns

/-- A requeue is answered with whether the record was parked. -/
theorem requeue_ok_iff (sound : site.Sound) (now : Timestamp) :
    (site.call (.requeue event now)).1 = .ok true ↔
      ∃ delivery, (site.standing event).delivery = some delivery ∧ delivery.parked = true := by
  rw [sound.requeue]
  change _ ↔ ∃ delivery, site.store.deliveries.find? event = some delivery ∧ _
  cases known : (site.store.deliveries.find? event).filter Delivery.parked with
  | none =>
    rw [Option.filter_eq_none_iff] at known
    constructor
    · intro answered
      cases answered
    · rintro ⟨delivery, remembered, parked⟩
      exact absurd parked (known delivery remembered)
  | some delivery =>
    exact iff_of_true rfl ⟨delivery, Option.filter_eq_some_iff.mp known⟩

/-- A requeue of a parked record lets it begin anew. -/
theorem restarts_of_parked (sound : site.Sound) (now : Timestamp) {delivery : Delivery}
    (remembered : (site.standing event).delivery = some delivery)
    (parked : delivery.parked = true) : Restarts event site (.requeue event now) :=
  Or.inr ⟨now, rfl, (requeue_ok_iff sound now).mpr ⟨delivery, remembered, parked⟩⟩

end

/-- A station that sends snapshots of products as they are and parks a record with its first
failure. An attempt that is asked for anew is made at once. -/
def strict : Station := ⟨.plain, { RetryPolicy.immediate with maxAttempts := some 1 }⟩

end Station

end Outbox
