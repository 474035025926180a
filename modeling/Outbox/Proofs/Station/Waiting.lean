import Outbox.Proofs.Station.Basic

/-!
# Records that wait

A pending record with a remembered delivery stays as it is, and is not tried, for as long as it is
not due at any leading run and nobody requeues it while it is parked. Once a leading run finds it
due, the run tries it.
-/

namespace Outbox.Station

open Calendar

variable {station : Station} {event : Identifier} {site : Site}

/-- Whether a turn passes over a record of which a delivery is remembered: a leading run finds it
not due, and nobody lets it begin anew while it is parked. -/
def PassesOver (event : Identifier) (delivery : Delivery) (site : Site) (turn : Turn) : Prop :=
  (delivery.parked = true → ¬Restarts event site turn) ∧
    ∀ names patience now, turn = .dispatch names patience true now → delivery.isDue now = false

/-- A turn that passes over a pending record changes nothing about it and does not try it. Each
change that would needs a record that is due, sent or not there. -/
theorem kept_of_passesOver (sound : site.Sound) {policy : RetryPolicy} {turn : Turn}
    {record : EventRecord} {delivery : Delivery} {new : List (Except DispatchError Unit)}
    {after : Standing} (stored : (site.standing event).record = some record)
    (pending : record.status = .pending)
    (remembered : (site.standing event).delivery = some delivery)
    (passes : PassesOver event delivery site turn)
    (change : Change policy event site turn (site.standing event) new after) :
    after = site.standing event ∧ new = [] := by
  generalize held : site.standing event = before at *
  cases change with
  | kept _ _ _ _ _ => exact ⟨rfl, rfl⟩
  | entered _ _ _ _ _ absent =>
    rw [stored] at absent
    cases absent
  | sent names patience now _ _ _ _ due _ =>
    have notDue := passes.2 names patience now rfl
    rw [due delivery remembered] at notDue
    cases notDue
  | failed names patience now _ _ _ _ due _ _ _ =>
    have notDue := passes.2 names patience now rfl
    rw [due delivery remembered] at notDue
    cases notDue
  | removed _ _ _ other found sent =>
    obtain rfl := Option.some.inj (stored.symm.trans found)
    rw [sent] at pending
    cases pending
  | requeued now _ other known parked =>
    obtain rfl := Option.some.inj (remembered.symm.trans known)
    exact absurd (restarts_of_parked sound now (held ▸ remembered) parked) (passes.1 parked)

/-- A pending record stays as it is and is not tried throughout turns that pass over it. -/
theorem kept_throughout (sound : site.Sound) {turns : List Turn} {record : EventRecord}
    {delivery : Delivery} (inCalendar : station.InCalendar site turns)
    (stored : (site.standing event).record = some record) (pending : record.status = .pending)
    (remembered : (site.standing event).delivery = some delivery)
    (passes : station.Throughout (PassesOver event delivery) site turns) :
    (station.run site turns).standing event = site.standing event ∧
      station.allTries event site turns = [] := by
  refine invariant_run event (PassesOver event delivery)
    (fun _ tries standing => standing = site.standing event ∧ tries = [])
    ?_ sound inCalendar passes ⟨rfl, rfl⟩
  rintro other turn _ _ new after otherSound passes change ⟨same, rfl⟩
  rw [← same] at stored remembered
  obtain ⟨unchanged, rfl⟩ :=
    kept_of_passesOver otherSound stored pending remembered passes change
  exact ⟨unchanged.trans same, rfl⟩

/-- A leading run tries a pending record that is due, and it does so once. The reply is an
acknowledgement or an error. -/
theorem tries_due (sound : site.Sound) {names : CategoryNames} {patience : Duration}
    {now : Timestamp} (within : station.WithinCalendar site (.dispatch names patience true now))
    {record : EventRecord} (stored : (site.standing event).record = some record)
    (pending : record.status = .pending)
    (due : ∀ delivery, (site.standing event).delivery = some delivery → delivery.isDue now = true) :
    ∃ reply, station.tries event site (.dispatch names patience true now) = [reply] := by
  have change := change_perform event sound within
  generalize station.tries event site (.dispatch names patience true now) = new at change ⊢
  generalize site.standing event = before at change stored due
  generalize (station.perform site (.dispatch names patience true now)).standing event = after
    at change
  cases change with
  | kept _ _ _ waits _ =>
    obtain ⟨delivery, remembered, notDue⟩ := waits names patience now record rfl stored pending
    rw [due delivery remembered] at notDue
    cases notDue
  | entered _ _ _ member _ _ => cases member
  | sent _ _ _ _ _ _ _ _ _ => exact ⟨_, rfl⟩
  | failed _ _ _ _ _ _ _ _ _ _ _ => exact ⟨_, rfl⟩

/-- A pending record that is not parked is not tried while the leading runs take place before its
next attempt. The first leading run from then on tries it. -/
theorem tried_first (sound : site.Sound) {turns : List Turn} {names : CategoryNames}
    {patience : Duration} {later : Timestamp} {record : EventRecord} {delivery : Delivery}
    (inCalendar : station.InCalendar site (turns ++ [.dispatch names patience true later]))
    (stored : (site.standing event).record = some record) (pending : record.status = .pending)
    (remembered : (site.standing event).delivery = some delivery)
    (unparked : delivery.parked = false)
    (earlier : ∀ names patience moment, .dispatch names patience true moment ∈ turns →
      moment.before delivery.nextAttemptAt = true)
    (reached : delivery.nextAttemptAt.upTo later = true) :
    station.allTries event site turns = [] ∧
      ∃ reply, station.tries event (station.run site turns)
        (.dispatch names patience true later) = [reply] := by
  obtain ⟨inCalendar, last⟩ := (station.throughout_append ..).mp inCalendar
  have passes : station.Throughout (PassesOver event delivery) site turns := by
    refine throughout_of_forall ?_ site
    intro turn member other
    constructor
    · intro parked
      rw [unparked] at parked
      cases parked
    · rintro names patience moment rfl
      have tooEarly := (Timestamp.upTo_eq_false _ moment).mpr
        (earlier names patience moment member)
      simp [Delivery.isDue, tooEarly]
  obtain ⟨kept, untried⟩ := kept_throughout sound inCalendar stored pending remembered passes
  rw [← kept] at stored remembered
  refine ⟨untried, tries_due (sound_run sound inCalendar) last.1 stored pending ?_⟩
  intro known same
  obtain rfl := Option.some.inj (remembered.symm.trans same)
  simp [Delivery.isDue, unparked, reached]

/-- A run that fails to deliver a record for the first time remembers one failure. It parks the
record only if one attempt is all that the policy allows. -/
theorem first_failure (sound : site.Sound) {names : CategoryNames} {patience : Duration}
    {now : Timestamp} (within : station.WithinCalendar site (.dispatch names patience true now))
    {record : EventRecord} (member : record ∈ site.pendingRecords)
    (fresh : site.store.deliveries.find? record.id = none) {error : DispatchError}
    (failed : site.treatment (station.sending names patience) now record = .failed error) :
    station.tries record.id site (.dispatch names patience true now) = [.error error] ∧
    ∃ delivery,
      (station.perform site (.dispatch names patience true now)).store.deliveries.find? record.id =
        some delivery ∧
      delivery.attempts = 1 ∧ delivery.parked = station.policy.shouldPark 1 := by
  obtain ⟨report, after, completed, treated⟩ := Site.dispatch_treats sound within
  have performed : station.perform site (.dispatch names patience true now) = after :=
    congrArg Prod.snd completed
  constructor
  · have tried : station.tries record.id site (.dispatch names patience true now) =
        (site.treatment (station.sending names patience) now record).attempts :=
      (Site.attempts_tick sound within).1 record member
    rw [tried, failed, Treatment.attempts]
  · obtain ⟨delivery, remembers⟩ :=
      Option.ne_none_iff_exists'.mp (within record member error failed)
    have remembered := (treated.own record member).2
    rw [failed] at remembered
    rw [fresh] at remembers remembered
    obtain ⟨counted, _, _, parked⟩ := RetryPolicy.of_recordFailure? remembers
    have first : delivery.attempts = 1 := counted
    rw [first] at parked
    rw [performed]
    exact ⟨delivery, remembered.trans remembers, first, parked⟩

end Outbox.Station
