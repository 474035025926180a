import Outbox.Proofs.Station.Waiting

/-!
# Waiting times are honoured

After a failed delivery a record waits. While it does not begin anew, no run tries it before its
waiting time is over, whatever the clocks of the runs show: every later failure only makes it wait
for longer, because a waiting time never leads back. The first leading run after the waiting time
tries the record.

The waiting time is the delay of the policy, except that a delay that is too long to be added to a
moment counts as a day.
-/

namespace Outbox

open Calendar

/-- Whether what is held under an identifier is left alone before a time: a pending record is parked
or its next attempt lies at that time or later. -/
def Standing.RestsUntil (standing : Standing) (next : Timestamp) : Prop :=
  ∀ record, standing.record = some record → record.status = .pending →
    ∃ delivery, standing.delivery = some delivery ∧
      (delivery.parked = true ∨ next.upTo delivery.nextAttemptAt = true)

namespace Station

section

variable {policy : RetryPolicy} {event : Identifier} {site : Site} {turn : Turn}
  {new : List (Except DispatchError Unit)} {before after : Standing} {next now : Timestamp}

/-- What rests is due only when the time has come. -/
theorem reached_of_due (rests : before.RestsUntil next) {record : EventRecord}
    (stored : before.record = some record) (pending : record.status = .pending)
    (due : ∀ delivery ∈ before.delivery, delivery.isDue now = true) : next.upTo now = true := by
  obtain ⟨delivery, remembered, waits⟩ := rests record stored pending
  have isDue := due delivery remembered
  rw [Delivery.isDue, Bool.and_eq_true, Bool.not_eq_true'] at isDue
  rcases waits with parked | later
  · rw [isDue.1] at parked
    cases parked
  · exact Timestamp.upTo_trans later isDue.2

/-- A change that does not let the record begin anew leaves it to rest. The only one that touches
its time is a failure, and this happens at a run that comes after it. -/
theorem rests_change (sound : site.Sound) (undisturbed : ¬Restarts event site turn)
    (change : Change policy event site turn (site.standing event) new after)
    (rests : (site.standing event).RestsUntil next) : after.RestsUntil next := by
  generalize held : site.standing event = before at change rests
  cases change with
  | kept _ _ _ _ _ => exact rests
  | entered _ _ record member named _ => exact absurd (Or.inl ⟨record, member, named⟩) undisturbed
  | sent _ _ _ _ _ _ _ _ _ =>
    intro record stored pending
    obtain rfl := Option.some.inj stored
    cases pending
  | failed names patience now _ record stored pending due error delivery remembered =>
    -- the record was due, so its time had come, and the new time is not before this run
    intro _ _ _
    have reached := reached_of_due rests stored pending due
    have onwards := RetryPolicy.upTo_of_recordFailure? remembered
    exact ⟨delivery, rfl, Or.inr (Timestamp.upTo_trans reached onwards)⟩
  | removed _ _ _ _ _ _ =>
    intro record stored
    cases stored
  | requeued now _ delivery known parked =>
    exact absurd (restarts_of_parked sound now (held ▸ known) parked) undisturbed

/-- A leading run that tries a record that rests takes place when the time has come. -/
theorem reached_of_tried {names : CategoryNames} {patience : Duration}
    (change : Change policy event site (.dispatch names patience true now) before new after)
    (rests : before.RestsUntil next) (tried : new ≠ []) : next.upTo now = true := by
  cases change with
  | kept _ _ _ _ _ => exact absurd rfl tried
  | entered _ _ _ _ _ _ => exact absurd rfl tried
  | sent _ _ _ _ record stored pending due _ => exact reached_of_due rests stored pending due
  | failed _ _ _ _ record stored pending due _ _ _ => exact reached_of_due rests stored pending due

end

variable {station : Station} {site : Site} {event : Identifier} {next : Timestamp}

/-- A run that fails to deliver a record leaves it pending and remembers when it may be tried
next. -/
theorem waits_after_failure (sound : site.Sound) {names : CategoryNames} {patience : Duration}
    {now : Timestamp} (within : station.WithinCalendar site (.dispatch names patience true now))
    {error : DispatchError}
    (failed : station.tries event site (.dispatch names patience true now) = [.error error])
    {delivery : Delivery}
    (remembered : (station.perform site (.dispatch names patience true now)).store.deliveries.find?
      event = some delivery) :
    now.add? (station.policy.waitingSpan delivery.attempts) = some delivery.nextAttemptAt ∧
    ∃ record,
      (station.perform site (.dispatch names patience true now)).store.records.find? event =
        some record ∧
      record.status = .pending := by
  have change := change_perform event sound within
  rw [failed] at change
  change (Site.standing _ event).delivery = some delivery at remembered
  change _ ∧ ∃ record, (Site.standing _ event).record = some record ∧ _
  generalize (station.perform site (.dispatch names patience true now)).standing event = after
    at change remembered ⊢
  generalize site.standing event = before at change
  cases change with
  | failed _ _ _ _ record stored pending _ _ other counted =>
    obtain rfl := Option.some.inj remembered
    exact ⟨(RetryPolicy.of_recordFailure? counted).2.2.1, record, stored, pending⟩

/-- What rests is left to rest while the record does not begin anew. -/
theorem rests_run (sound : site.Sound) {turns : List Turn}
    (inCalendar : station.InCalendar site turns)
    (undisturbed : station.Undisturbed event site turns)
    (rests : (site.standing event).RestsUntil next) :
    ((station.run site turns).standing event).RestsUntil next :=
  invariant_run event (fun site turn => ¬Restarts event site turn)
    (fun _ _ standing => standing.RestsUntil next)
    (fun _ _ _ _ _ _ sound undisturbed change rests => rests_change sound undisturbed change rests)
    sound inCalendar undisturbed rests

/-- No run tries what rests before its time has come. -/
theorem reached_of_run (sound : site.Sound) {turns : List Turn} {names : CategoryNames}
    {patience : Duration} {isLeader : Bool} {later : Timestamp}
    (inCalendar : station.InCalendar site (turns ++ [.dispatch names patience isLeader later]))
    (undisturbed : station.Undisturbed event site turns)
    (rests : (site.standing event).RestsUntil next)
    (tried : station.tries event (station.run site turns)
      (.dispatch names patience isLeader later) ≠ []) : next.upTo later = true := by
  cases isLeader with
  | false => exact absurd rfl tried
  | true =>
    obtain ⟨inCalendar, last⟩ := (station.throughout_append ..).mp inCalendar
    have change := change_perform event (sound_run sound inCalendar) last.1
    exact reached_of_tried change (rests_run sound inCalendar undisturbed rests) tried

/-- A record waits after a failed delivery.

At a site whose store does not fail a leading run has tried the record at `now`, the delivery has
failed, and the record is not parked. Then there is a time for the next attempt. It lies behind
`now` by the delay that the policy sets after so many failures, or by a day if that delay is too
long to be added to a moment.
While the record does not begin anew, no run before that time tries it, at whatever times the other
runs take place and whether or not one of them has tried it again. So two failures in a row are at
least the waiting time apart.
The first leading run at that time or later tries the record. -/
theorem backoff_honoured (station : Station) (site : Site) (sound : site.Sound)
    (event : Identifier) (names : CategoryNames) (patience : Duration) (now : Timestamp)
    (within : station.WithinCalendar site (.dispatch names patience true now))
    (error : DispatchError)
    (failed : station.tries event site (.dispatch names patience true now) = [.error error])
    (delivery : Delivery)
    (remembered : (station.perform site (.dispatch names patience true now)).store.deliveries.find?
      event = some delivery)
    (unparked : delivery.parked = false) :
    now.add? (station.policy.waitingSpan delivery.attempts) = some delivery.nextAttemptAt ∧
    station.policy.waitingSpan delivery.attempts =
      (if station.policy.delayMillis delivery.attempts ≤ RetryPolicy.longestSpan then
        (station.policy.delayForAttempt delivery.attempts).nanos
      else (Duration.ofSeconds secondsPerDay).nanos) ∧
    (∀ turns names' patience' isLeader later,
      station.InCalendar (station.perform site (.dispatch names patience true now))
        (turns ++ [.dispatch names' patience' isLeader later]) →
      station.Undisturbed event (station.perform site (.dispatch names patience true now)) turns →
        (later.before delivery.nextAttemptAt = true →
          station.tries event (station.run site (.dispatch names patience true now :: turns))
            (.dispatch names' patience' isLeader later) = []) ∧
        (station.tries event (station.run site (.dispatch names patience true now :: turns))
            (.dispatch names' patience' isLeader later) ≠ [] →
          delivery.nextAttemptAt.upTo later = true ∧
          (now.isLeap = false → later.isLeap = false →
            station.policy.waitingSpan delivery.attempts ≤ later.nanosSince now))) ∧
    ∀ turns names' patience' later,
      station.InCalendar (station.perform site (.dispatch names patience true now))
        (turns ++ [.dispatch names' patience' true later]) →
      (∀ names patience moment, .dispatch names patience true moment ∈ turns →
        moment.before delivery.nextAttemptAt = true) →
      delivery.nextAttemptAt.upTo later = true →
        station.allTries event (station.perform site (.dispatch names patience true now)) turns =
          [] ∧
        ∃ reply, station.tries event
          (station.run site (.dispatch names patience true now :: turns))
            (.dispatch names' patience' true later) = [reply] := by
  have performedSound := sound_perform sound within
  obtain ⟨added, record, stored, pending⟩ := waits_after_failure sound within failed remembered
  have rests : ((station.perform site (.dispatch names patience true now)).standing
      event).RestsUntil delivery.nextAttemptAt := by
    intro _ _ _
    exact ⟨delivery, remembered, Or.inr (Timestamp.upTo_refl _)⟩
  refine ⟨added, station.policy.waitingSpan_eq _, ?_, ?_⟩
  · intro turns names' patience' isLeader later inCalendar undisturbed
    have onlyThen := reached_of_run performedSound inCalendar undisturbed rests
    constructor
    · intro early
      by_contra tried
      have tooEarly := (Timestamp.upTo_eq_false _ later).mpr early
      rw [onlyThen tried] at tooEarly
      cases tooEarly
    · intro tried
      have reached := onlyThen tried
      refine ⟨reached, ?_⟩
      intro plain laterPlain
      exact Timestamp.span_le_nanosSince plain laterPlain added reached
  · intro turns names' patience' later inCalendar earlier reached
    exact tried_first performedSound inCalendar stored pending remembered unparked earlier reached

/-! ## A record that the broker rejects -/

/-- A station that never parks a record and waits for as long after each failure. -/
def patient (delay : Duration) : Station := ⟨.plain, ⟨none, delay, delay, .fixed⟩⟩

/-- One record has come in, and the broker rejects it. -/
def rejecting : Site :=
  (patient .zero).run .empty [.disturb none [default] none, .save default]

/-- A run of the dispatcher that leads. -/
def attemptAt (now : Timestamp) : Turn := .dispatch (fun _ => none) .zero true now

/-- A run leads to no attempt beyond the calendar when the waiting time does not. -/
theorem inCalendar_attemptAt {delay : Duration} {now : Timestamp}
    (reaches : now.add? ((patient delay).policy.waitingSpan 1) ≠ none) (site : Site) :
    (patient delay).InCalendar site [attemptAt now] := by
  refine inCalendar_of_spans ?_ site
  intro names patience moment same attempt
  obtain ⟨_, _, _, rfl⟩ := Turn.dispatch.inj (List.mem_singleton.mp same)
  cases attempt with
  | zero =>
    rw [RetryPolicy.waitingSpan_zero, Timestamp.add?_zero]
    exact Option.some_ne_none moment
  | succ failures => exact reaches

/-- The first run remembers one failure, and the record is not parked. No delivery was known before,
so the failure counts as the first. -/
theorem rejected_first {delay : Duration}
    (within : (patient delay).WithinCalendar rejecting (attemptAt default)) :
    ∃ error delivery,
      (patient delay).tries default rejecting (attemptAt default) = [.error error] ∧
      ((patient delay).perform rejecting (attemptAt default)).store.deliveries.find? default =
        some delivery ∧
      delivery.attempts = 1 ∧ delivery.parked = false := by
  have pending : rejecting.pendingRecords = [default] := List.mergeSort_singleton default
  have member : default ∈ rejecting.pendingRecords := by
    rw [pending]
    exact List.mem_singleton_self _
  obtain ⟨error, failed⟩ : ∃ error, rejecting.treatment
      ((patient delay).sending (fun _ => none) .zero) default default = .failed error := ⟨_, rfl⟩
  obtain ⟨tried, delivery, remembered, first, unparked⟩ :=
    first_failure ⟨rfl, fun _ => rfl⟩ within member rfl failed
  exact ⟨error, delivery, tried, remembered, first, unparked⟩

/-- A station that waits for a minute after each failure. -/
def minutely : Station := patient (.ofSeconds 60)

/-- Half a minute after the start of 1970. -/
def halfMinute : Timestamp := ⟨30, 0, by decide⟩

/-- A minute after the start of 1970. -/
def oneMinute : Timestamp := ⟨60, 0, by decide⟩

/-- A record that has been rejected is not tried half a minute later, and is tried again after a
minute. -/
theorem rejected_waits_a_minute :
    minutely.tries default (minutely.run rejecting [attemptAt default]) (attemptAt halfMinute) =
        [] ∧
      ∃ reply, minutely.tries default (minutely.run rejecting [attemptAt default])
        (attemptAt oneMinute) = [reply] := by
  have span : minutely.policy.waitingSpan 1 = 60000000000 := by decide +kernel
  have minute : (default : Timestamp).add? 60000000000 = some oneMinute := by decide +kernel
  have within : minutely.WithinCalendar rejecting (attemptAt default) :=
    (inCalendar_attemptAt (by decide +kernel) rejecting).1
  obtain ⟨error, delivery, tried, remembered, first, unparked⟩ := rejected_first within
  obtain ⟨added, _, early, reached⟩ := backoff_honoured minutely rejecting ⟨rfl, fun _ => rfl⟩
    default (fun _ => none) .zero default within error tried delivery remembered unparked
  rw [first, span, minute] at added
  rw [← Option.some.inj added] at early reached
  constructor
  · exact (early [] (fun _ => none) .zero true halfMinute
      (inCalendar_attemptAt (by decide +kernel) _) trivial).1 (by decide)
  · refine (reached [] (fun _ => none) .zero oneMinute
      (inCalendar_attemptAt (by decide +kernel) _) ?_ (by decide)).2
    intro _ _ _ member
    cases member

/-- A station that waits for more than two hundred million years after each failure. -/
def patientForever : Station := patient (.ofSeconds (Nat.pow 10 16))

/-- A day after the start of 1970. -/
def oneDay : Timestamp := ⟨86400, 0, by decide⟩

/-- The delay itself is not waited for when it is too long to be added to a moment: a day after the
failure the record is tried again. -/
theorem long_delay_counts_as_day :
    ∃ error delivery,
      patientForever.WithinCalendar rejecting (attemptAt default) ∧
      patientForever.tries default rejecting (attemptAt default) = [.error error] ∧
      (patientForever.perform rejecting (attemptAt default)).store.deliveries.find? default =
        some delivery ∧
      delivery.parked = false ∧
      patientForever.WithinCalendar (patientForever.run rejecting [attemptAt default])
        (attemptAt oneDay) ∧
      oneDay.nanosSince default <
        (patientForever.policy.delayForAttempt delivery.attempts).nanos ∧
      ∃ reply, patientForever.tries default (patientForever.run rejecting [attemptAt default])
        (attemptAt oneDay) = [reply] := by
  have span : patientForever.policy.waitingSpan 1 = 86400000000000 := by decide +kernel
  have day : (default : Timestamp).add? 86400000000000 = some oneDay := by decide +kernel
  have shorter : oneDay.nanosSince default <
      (patientForever.policy.delayForAttempt 1).nanos := by decide +kernel
  have within : patientForever.WithinCalendar rejecting (attemptAt default) :=
    (inCalendar_attemptAt (by decide +kernel) rejecting).1
  have withinLater : patientForever.InCalendar
      (patientForever.perform rejecting (attemptAt default)) ([] ++ [attemptAt oneDay]) :=
    inCalendar_attemptAt (by decide +kernel) _
  have sound : (patientForever.perform rejecting (attemptAt default)).Sound :=
    sound_perform ⟨rfl, fun _ => rfl⟩ within
  obtain ⟨error, delivery, tried, remembered, first, unparked⟩ := rejected_first within
  obtain ⟨added, record, stored, pending⟩ :=
    waits_after_failure ⟨rfl, fun _ => rfl⟩ within tried remembered
  rw [first, span, day] at added
  have next : oneDay = delivery.nextAttemptAt := Option.some.inj added
  have again : ∃ reply, patientForever.tries default
      (patientForever.run rejecting [attemptAt default]) (attemptAt oneDay) = [reply] := by
    refine (tried_first sound withinLater stored pending remembered unparked ?_ ?_).2
    · intro _ _ _ member
      cases member
    · rw [← next]
      decide
  refine ⟨error, delivery, within, tried, remembered, unparked, withinLater.1, ?_, again⟩
  rw [first]
  exact shorter

end Station

end Outbox
