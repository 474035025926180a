import Outbox.Proofs.Station.Waiting

/-!
# The budget of attempts

A policy may limit how often a record is tried. Each failure is counted in what is remembered of the
record's deliveries, and the record is parked with the failure that reaches the limit. So what is
remembered tells at every time how much of the budget is spent, and while a record does not begin
anew the budget pays for all of its tries.
-/

namespace Outbox

open Calendar

/-- The failures that are remembered under an identifier. -/
def Standing.attempts (standing : Standing) : Nat :=
  (standing.delivery.map Delivery.attempts).getD 0

/-- What is remembered of deliveries belongs to a pending record, keeps to the limit, and says that
the record is parked when the limit is reached. -/
structure Standing.Budgeted (standing : Standing) (policy : RetryPolicy) : Prop where
  owned : ∀ delivery, standing.delivery = some delivery →
    ∃ record, standing.record = some record ∧ record.status = .pending
  parked : ∀ delivery, standing.delivery = some delivery →
    delivery.parked = policy.shouldPark delivery.attempts
  limited : ∀ most, policy.maxAttempts = some most → standing.attempts ≤ most

/-- Where nothing is remembered nothing is spent. -/
theorem Standing.budgeted_of_none {standing : Standing} (policy : RetryPolicy)
    (nothing : standing.delivery = none) : standing.Budgeted policy := by
  constructor
  · intro delivery remembered
    rw [nothing] at remembered
    cases remembered
  · intro delivery remembered
    rw [nothing] at remembered
    cases remembered
  · intro most _
    rw [attempts, nothing]
    exact Nat.zero_le most

namespace Station

section

variable {policy : RetryPolicy} {event : Identifier} {site : Site} {turn : Turn}
  {new : List (Except DispatchError Unit)} {before after : Standing} {most : Nat}

/-- A record that is due has not spent its budget. -/
theorem attempts_lt_of_due (budgeted : before.Budgeted policy) (sensible : policy.Sensible)
    (limit : policy.maxAttempts = some most) {now : Timestamp}
    (due : ∀ delivery ∈ before.delivery, delivery.isDue now = true) : before.attempts < most := by
  rw [Standing.attempts]
  cases remembered : before.delivery with
  | none => exact (sensible most limit).1
  | some delivery =>
    have unparked : delivery.parked = false := by
      have isDue := due delivery remembered
      rw [Delivery.isDue, Bool.and_eq_true, Bool.not_eq_true'] at isDue
      exact isDue.1
    have notReached := budgeted.parked delivery remembered
    rw [unparked, eq_comm, ← Bool.not_eq_true, RetryPolicy.shouldPark_iff limit] at notReached
    exact Nat.lt_of_not_le notReached

/-- A failure is counted once. -/
theorem attempts_of_failed (budgeted : before.Budgeted policy) (sensible : policy.Sensible)
    (limit : policy.maxAttempts = some most) {now : Timestamp}
    (due : ∀ delivery ∈ before.delivery, delivery.isDue now = true) {error : String}
    {delivery : Delivery}
    (remembered : policy.recordFailure? before.delivery event error now = some delivery) :
    delivery.attempts = before.attempts + 1 := by
  obtain ⟨counted, _⟩ := RetryPolicy.of_recordFailure? remembered
  have left := attempts_lt_of_due budgeted sensible limit due
  have countable := (sensible most limit).2
  change delivery.attempts = min (before.attempts + 1) RetryPolicy.mostAttempts at counted
  omega

/-- Every change keeps to the budget. Only a failed try adds to the attempts, and a record at the
limit is parked and hence not tried. -/
theorem budgeted_change (sensible : policy.Sensible)
    (change : Change policy event site turn before new after) (budgeted : before.Budgeted policy) :
    after.Budgeted policy := by
  cases change with
  | kept _ _ _ _ _ => exact budgeted
  | entered _ _ record _ _ absent =>
    constructor
    · intro delivery remembered
      obtain ⟨owner, stored, _⟩ := budgeted.owned delivery remembered
      rw [absent] at stored
      cases stored
    · exact budgeted.parked
    · exact budgeted.limited
  | sent _ _ _ _ _ _ _ _ _ => exact Standing.budgeted_of_none policy rfl
  | failed names patience now _ record stored pending due error delivery remembered =>
    constructor
    · intro _ _
      exact ⟨record, stored, pending⟩
    · intro other same
      obtain rfl := Option.some.inj same
      exact (RetryPolicy.of_recordFailure? remembered).2.2.2
    · intro most limit
      change delivery.attempts ≤ most
      rw [attempts_of_failed budgeted sensible limit due remembered]
      exact attempts_lt_of_due budgeted sensible limit due
  | removed _ _ _ _ _ _ => exact Standing.budgeted_of_none policy rfl
  | requeued now _ delivery known _ =>
    constructor
    · intro _ _
      exact budgeted.owned delivery known
    · intro other same
      obtain rfl := Option.some.inj same
      exact (RetryPolicy.shouldPark_zero sensible).symm
    · intro most _
      exact Nat.zero_le most

end

/-! ## Sites that a station reaches -/

/-- A site to which turns lead that begin with nothing. -/
def Reaches (station : Station) (site : Site) : Prop :=
  ∃ turns, station.InCalendar .empty turns ∧ station.run .empty turns = site

variable {station : Station} {site : Site} {event : Identifier}

/-- Nothing fails at a site that a station reaches from nothing. -/
theorem Reaches.sound (reached : station.Reaches site) : site.Sound := by
  obtain ⟨turns, inCalendar, rfl⟩ := reached
  exact sound_run ⟨rfl, fun _ => rfl⟩ inCalendar

/-- A reached site keeps to the budget under every identifier. -/
theorem Reaches.budgeted (reached : station.Reaches site) (sensible : station.policy.Sensible)
    (event : Identifier) : (site.standing event).Budgeted station.policy := by
  obtain ⟨turns, inCalendar, rfl⟩ := reached
  exact invariant_run event (fun _ _ => True)
    (fun _ _ standing => standing.Budgeted station.policy)
    (fun _ _ _ _ _ _ _ _ change budgeted => budgeted_change sensible change budgeted)
    ⟨rfl, fun _ => rfl⟩ inCalendar (throughout_of_forall (fun _ _ _ => trivial) .empty)
    (Standing.budgeted_of_none station.policy rfl)

/-! ## Tries between two beginnings -/

/-- What has been spent of a budget after some tries: no more than the limit, and while the record
is pending as much as is remembered. -/
structure Spent (policy : RetryPolicy) (most start : Nat) (tries : List (Except DispatchError Unit))
    (standing : Standing) : Prop where
  budgeted : standing.Budgeted policy
  limited : start + tries.length ≤ most
  remembered : ∀ record, standing.record = some record → record.status = .pending →
    standing.attempts = start + tries.length

/-- A change that does not let the record begin anew spends one attempt for each try. A record that
was sent is remembered no more, and has spent its last try. -/
theorem spent_change {policy : RetryPolicy} {turn : Turn}
    {new tries : List (Except DispatchError Unit)} {after : Standing} {most start : Nat}
    (sensible : policy.Sensible) (limit : policy.maxAttempts = some most) (sound : site.Sound)
    (undisturbed : ¬Restarts event site turn)
    (change : Change policy event site turn (site.standing event) new after)
    (spent : Spent policy most start tries (site.standing event)) :
    Spent policy most start (tries ++ new) after := by
  have budgeted := budgeted_change sensible change spent.budgeted
  generalize held : site.standing event = before at change spent
  cases change with
  | kept _ _ _ _ _ => rw [List.append_nil]; exact spent
  | entered _ _ record member named _ => exact absurd (Or.inl ⟨record, member, named⟩) undisturbed
  | sent names patience now _ record stored pending due envelope =>
    have counted := spent.remembered record stored pending
    have left := attempts_lt_of_due spent.budgeted sensible limit due
    constructor
    · exact budgeted
    · rw [List.length_append, List.length_singleton]
      omega
    · intro other same isPending
      obtain rfl := Option.some.inj same
      cases isPending
  | failed names patience now _ record stored pending due error delivery remembered =>
    have counted := spent.remembered record stored pending
    have left := attempts_lt_of_due spent.budgeted sensible limit due
    have next := attempts_of_failed spent.budgeted sensible limit due remembered
    constructor
    · exact budgeted
    · rw [List.length_append, List.length_singleton]
      omega
    · intro _ _ _
      rw [List.length_append, List.length_singleton]
      change delivery.attempts = _
      omega
  | removed span now _ record _ _ =>
    rw [List.append_nil]
    refine ⟨budgeted, spent.limited, ?_⟩
    intro _ stored
    cases stored
  | requeued now _ delivery known parked =>
    exact absurd (restarts_of_parked sound now (held ▸ known) parked) undisturbed

/-- While a record does not begin anew, its tries and the failures that were remembered before stay
within the limit. While it is pending, they are what is remembered. -/
theorem spent_run (sensible : station.policy.Sensible) {most : Nat}
    (limit : station.policy.maxAttempts = some most) (sound : site.Sound) {turns : List Turn}
    (budgeted : (site.standing event).Budgeted station.policy)
    (inCalendar : station.InCalendar site turns)
    (undisturbed : station.Undisturbed event site turns) :
    Spent station.policy most (site.standing event).attempts (station.allTries event site turns)
      ((station.run site turns).standing event) :=
  invariant_run event (fun site turn => ¬Restarts event site turn)
    (fun _ tries standing =>
      Spent station.policy most (site.standing event).attempts tries standing)
    (fun _ _ _ _ _ _ sound undisturbed change spent =>
      spent_change sensible limit sound undisturbed change spent)
    sound inCalendar undisturbed
    ⟨budgeted, budgeted.limited most limit, fun _ _ _ => rfl⟩

/-- When a record begins anew, nothing of its budget is spent. It has just come in, so that nothing
is remembered of it, or its requeue set the attempts to zero. -/
theorem attempts_restarted (sound : site.Sound) {turn : Turn}
    (within : station.WithinCalendar site turn)
    (budgeted : (site.standing event).Budgeted station.policy)
    (restarts : Restarts event site turn) :
    ((station.perform site turn).standing event).attempts = 0 := by
  have change := change_perform event sound within
  generalize station.tries event site turn = new at change
  generalize (station.perform site turn).standing event = after at change
  generalize held : site.standing event = before at change budgeted
  cases change with
  | kept _ _ foreign _ unparked =>
    rcases restarts with ⟨record, member, named⟩ | ⟨now, rfl, effective⟩
    · exact absurd named (foreign record member)
    · obtain ⟨delivery, known, parked⟩ := (requeue_ok_iff sound now).mp effective
      rw [unparked now delivery rfl (held ▸ known)] at parked
      cases parked
  | entered _ _ _ _ _ absent =>
    cases remembered : before.delivery with
    | none => rfl
    | some delivery =>
      obtain ⟨owner, stored, _⟩ := budgeted.owned delivery remembered
      rw [absent] at stored
      cases stored
  | sent _ _ _ _ _ _ _ _ _ => rfl
  | failed _ _ _ _ _ _ _ _ _ _ _ =>
    rcases restarts with ⟨_, member, _⟩ | ⟨_, same, _⟩
    · cases member
    · cases same
  | removed _ _ _ _ _ _ => rfl
  | requeued _ _ _ _ _ => rfl

/-! ## Requeues -/

/-- A requeue is answered with whether the record was parked. If it was, the record has no more
failures to its name and may be tried from that time on, and nothing else changes. If it was not,
nothing changes. -/
theorem requeue_effect (sound : site.Sound) (event : Identifier) (now : Timestamp) :
    (∀ delivery, site.store.deliveries.find? event = some delivery → delivery.parked = true →
      (site.call (.requeue event now)).1 = .ok true ∧
      (site.call (.requeue event now)).2.store.deliveries.find? event =
        some { delivery with attempts := 0, nextAttemptAt := now, parked := false }) ∧
    ((∀ delivery, site.store.deliveries.find? event = some delivery → delivery.parked = false) →
      (site.call (.requeue event now)).1 = .ok false ∧
      (site.call (.requeue event now)).2.store.deliveries = site.store.deliveries) ∧
    (site.call (.requeue event now)).2.store.records = site.store.records ∧
    (site.call (.requeue event now)).2.broker = site.broker ∧
    ∀ other, other ≠ event → (site.call (.requeue event now)).2.store.deliveries.find? other =
      site.store.deliveries.find? other := by
  rw [sound.requeue]
  cases known : (site.store.deliveries.find? event).filter Delivery.parked with
  | none =>
    rw [Option.filter_eq_none_iff] at known
    refine ⟨?_, fun _ => ⟨rfl, rfl⟩, rfl, rfl, fun _ _ => rfl⟩
    intro delivery remembered parked
    exact absurd parked (known delivery remembered)
  | some delivery =>
    obtain ⟨remembered, parked⟩ := Option.filter_eq_some_iff.mp known
    have named : delivery.event = event := Table.key_of_find? remembered
    refine ⟨?_, ?_, rfl, rfl, ?_⟩
    · intro other same _
      obtain rfl := Option.some.inj (remembered.symm.trans same)
      exact ⟨rfl, (Table.find?_put ..).trans (if_pos named.symm)⟩
    · intro unparked
      rw [unparked delivery remembered] at parked
      cases parked
    · intro other differs
      exact (Table.find?_put ..).trans (if_neg (named ▸ differs))

/-- A parked record stays as it is and is not tried while it is not requeued. -/
theorem parked_throughout (sound : site.Sound) {turns : List Turn} {delivery : Delivery}
    (budgeted : (site.standing event).Budgeted station.policy)
    (remembered : (site.standing event).delivery = some delivery) (parked : delivery.parked = true)
    (inCalendar : station.InCalendar site turns)
    (undisturbed : station.Undisturbed event site turns) :
    (station.run site turns).standing event = site.standing event ∧
      station.allTries event site turns = [] := by
  obtain ⟨record, stored, pending⟩ := budgeted.owned delivery remembered
  refine kept_throughout sound inCalendar stored pending remembered ?_
  refine throughout_mono ?_ undisturbed
  intro other turn undisturbed
  refine ⟨fun _ => undisturbed, ?_⟩
  intro names patience now _
  simp [Delivery.isDue, parked]

/-- A requeued record is not tried before the time of the requeue, and by the next leading run after
it. -/
theorem tried_after_requeue (sound : site.Sound) {now later : Timestamp} {turns : List Turn}
    {names : CategoryNames} {patience : Duration} {delivery : Delivery}
    (budgeted : (site.standing event).Budgeted station.policy)
    (remembered : (site.standing event).delivery = some delivery) (parked : delivery.parked = true)
    (inCalendar : station.InCalendar site
      (.requeue event now :: turns ++ [.dispatch names patience true later]))
    (earlier : ∀ names patience moment, .dispatch names patience true moment ∈ turns →
      moment.before now = true) (reached : now.upTo later = true) :
    station.allTries event site (.requeue event now :: turns) = [] ∧
      ∃ reply, station.tries event (station.run site (.requeue event now :: turns))
        (.dispatch names patience true later) = [reply] := by
  have requeuedSound : (station.perform site (.requeue event now)).Sound :=
    sound_perform sound inCalendar.1
  obtain ⟨record, stored, pending⟩ := budgeted.owned delivery remembered
  obtain ⟨effective, _, records, _⟩ := requeue_effect sound event now
  have stays :
      ((station.perform site (.requeue event now)).standing event).record = some record := by
    rw [← stored]
    exact congrArg (·.find? event) records
  have requeued : ((station.perform site (.requeue event now)).standing event).delivery =
      some { delivery with attempts := 0, nextAttemptAt := now, parked := false } :=
    (effective delivery remembered parked).2
  exact tried_first requeuedSound inCalendar.2 stays pending requeued rfl earlier reached

/-! ## The budget over whole histories -/

/-- What keeps to the budget belongs to a pending record and is parked exactly at the limit. Without
a limit it is never parked. -/
theorem of_budgeted {policy : RetryPolicy} {standing : Standing} {delivery : Delivery}
    (budgeted : standing.Budgeted policy) (remembered : standing.delivery = some delivery) :
    (∃ record, standing.record = some record ∧ record.status = .pending) ∧
      (∀ most, policy.maxAttempts = some most →
        delivery.attempts ≤ most ∧ (delivery.parked = true ↔ delivery.attempts = most)) ∧
      (policy.maxAttempts = none → delivery.parked = false) := by
  refine ⟨budgeted.owned delivery remembered, ?_, ?_⟩
  · intro most limit
    have within := budgeted.limited most limit
    rw [Standing.attempts, remembered] at within
    refine ⟨within, ?_⟩
    rw [budgeted.parked delivery remembered, RetryPolicy.shouldPark_iff limit]
    change delivery.attempts ≤ most at within
    omega
  · intro unlimited
    rw [budgeted.parked delivery remembered, RetryPolicy.shouldPark, unlimited]

/-- A record that begins anew is tried no more often than the limit says, and exactly as often when
it ends up parked. -/
theorem tries_after_restart {most : Nat} (sensible : station.policy.Sensible)
    (limit : station.policy.maxAttempts = some most) (sound : site.Sound) {turn : Turn}
    {turns : List Turn} (budgeted : (site.standing event).Budgeted station.policy)
    (inCalendar : station.InCalendar site (turn :: turns)) (restarts : Restarts event site turn)
    (undisturbed : station.Undisturbed event (station.perform site turn) turns) :
    (station.allTries event (station.perform site turn) turns).length ≤ most ∧
      ∀ delivery, ((station.run site (turn :: turns)).standing event).delivery = some delivery →
        delivery.parked = true →
          (station.allTries event (station.perform site turn) turns).length = most := by
  have none := attempts_restarted sound inCalendar.1 budgeted restarts
  have afresh := budgeted_change sensible (change_perform event sound inCalendar.1) budgeted
  have spent := spent_run sensible limit (sound_perform sound inCalendar.1) afresh inCalendar.2
    undisturbed
  rw [none] at spent
  refine ⟨by simpa using spent.limited, ?_⟩
  intro delivery remembered parked
  obtain ⟨⟨record, stored, pending⟩, each, _⟩ := of_budgeted spent.budgeted remembered
  have reached := (each most limit).2.mp parked
  have counted := spent.remembered record stored pending
  have failures : ((station.run (station.perform site turn) turns).standing event).attempts =
      delivery.attempts := congrArg (fun known => (known.map Delivery.attempts).getD 0) remembered
  omega

/-- How a limit of attempts governs what happens to a record.

The station has reached a site from nothing, through any turns at any times.
What is remembered of deliveries belongs to a pending record. With a limit the failures stay within
it, and the record is parked exactly when they have reached it. Without a limit no record is ever
parked.
Between the time at which a record comes in, or is requeued while it is parked, and the next such
time it is tried no more often than the limit says, and as often as the limit says if it ends up
parked. A parked record is not tried and stays as it is, with its delivery, until it is requeued.
A requeue is answered with whether the record was parked, and changes only what is remembered of it:
there are no failures any more, and the next attempt may be made from the time of the requeue on.
The next leading run from that time on tries the record. `requeue` restarts the record, so the limit
counts anew from there.
The limits that can be configured are such limits: zero stands for none. -/
theorem retry_budget (station : Station) (sensible : station.policy.Sensible) (site : Site)
    (reached : station.Reaches site) (event : Identifier) :
    (∀ delivery, site.store.deliveries.find? event = some delivery →
      (∃ record, site.store.records.find? event = some record ∧ record.status = .pending) ∧
      (∀ most, station.policy.maxAttempts = some most →
        delivery.attempts ≤ most ∧ (delivery.parked = true ↔ delivery.attempts = most)) ∧
      (station.policy.maxAttempts = none → delivery.parked = false)) ∧
    (∀ most, station.policy.maxAttempts = some most → ∀ turn turns,
      station.InCalendar site (turn :: turns) → Restarts event site turn →
      station.Undisturbed event (station.perform site turn) turns →
        (station.allTries event (station.perform site turn) turns).length ≤ most ∧
        ∀ delivery, (station.run site (turn :: turns)).store.deliveries.find? event =
            some delivery → delivery.parked = true →
          (station.allTries event (station.perform site turn) turns).length = most) ∧
    (∀ delivery, site.store.deliveries.find? event = some delivery → delivery.parked = true →
      (∀ turns, station.InCalendar site turns → station.Undisturbed event site turns →
        station.allTries event site turns = [] ∧
        (station.run site turns).standing event = site.standing event) ∧
      ∀ now turns names patience later,
        station.InCalendar site (.requeue event now :: turns ++
          [.dispatch names patience true later]) →
        (∀ names patience moment, .dispatch names patience true moment ∈ turns →
          moment.before now = true) →
        now.upTo later = true →
          station.allTries event site (.requeue event now :: turns) = [] ∧
          ∃ reply, station.tries event (station.run site (.requeue event now :: turns))
            (.dispatch names patience true later) = [reply]) ∧
    (∀ now,
      ((site.call (.requeue event now)).1 = .ok true ↔ ∃ delivery,
        site.store.deliveries.find? event = some delivery ∧ delivery.parked = true) ∧
      (site.call (.requeue event now)).2.store.records = site.store.records ∧
      (site.call (.requeue event now)).2.broker = site.broker ∧
      (∀ other, other ≠ event → (site.call (.requeue event now)).2.store.deliveries.find? other =
        site.store.deliveries.find? other) ∧
      ∀ delivery, (site.call (.requeue event now)).1 = .ok true →
        site.store.deliveries.find? event = some delivery →
          (site.call (.requeue event now)).2.store.deliveries.find? event =
            some { delivery with attempts := 0, nextAttemptAt := now, parked := false }) ∧
    ∀ lookup config, Config.ofLookup lookup = .ok config → config.retry.Sensible := by
  have sound := reached.sound
  have budgeted := reached.budgeted sensible event
  refine ⟨?_, ?_, ?_, ?_, ?_⟩
  · intro delivery remembered
    exact of_budgeted budgeted remembered
  · intro most limit turn turns inCalendar restarts undisturbed
    exact tries_after_restart sensible limit sound budgeted inCalendar restarts undisturbed
  · intro delivery remembered parked
    constructor
    · intro turns inCalendar undisturbed
      exact (parked_throughout sound budgeted remembered parked inCalendar undisturbed).symm
    · intro now turns names patience later inCalendar earlier reached
      exact tried_after_requeue sound budgeted remembered parked inCalendar earlier reached
  · intro now
    obtain ⟨effective, ineffective, records, broker, others⟩ := requeue_effect sound event now
    refine ⟨requeue_ok_iff sound now, records, broker, others, ?_⟩
    intro delivery answered remembered
    obtain ⟨other, same, parked⟩ := (requeue_ok_iff sound now).mp answered
    obtain rfl := Option.some.inj (remembered.symm.trans same)
    exact (effective delivery remembered parked).2
  · intro lookup config read
    exact Config.sensible_retry read

/-- One record comes in that the broker rejects, and the dispatcher runs once. -/
def badDay : List Turn :=
  [.disturb none [default] none, .save default, .dispatch (fun _ => none) .zero true default]

/-- The record is parked after its first and only attempt, and a requeue of it is accepted. The
policy allows one attempt, and the broker refuses the record. -/
theorem bad_day_parks :
    ∃ delivery, (strict.run .empty badDay).store.deliveries.find? default = some delivery ∧
      delivery.parked = true ∧ delivery.attempts = 1 ∧
      (Site.call (strict.run .empty badDay) (.requeue default default)).1 = .ok true := by
  have sensible : strict.policy.Sensible := by
    intro most limit
    obtain rfl := Option.some.inj limit
    decide
  have inCalendar : strict.InCalendar .empty badDay := inCalendar_of_zero rfl _ _
  let opened := strict.run .empty [.disturb none [default] none, .save default]
  have pending : opened.pendingRecords = [default] := List.mergeSort_singleton default
  have member : default ∈ opened.pendingRecords := by
    rw [pending]
    exact List.mem_singleton_self _
  obtain ⟨error, failed⟩ : ∃ error, opened.treatment (strict.sending (fun _ => none) .zero) default
      default = .failed error := ⟨_, rfl⟩
  obtain ⟨_, delivery, found, first, _⟩ :=
    first_failure ⟨rfl, fun _ => rfl⟩ inCalendar.2.2.1 member rfl failed
  obtain ⟨each, _, _, requeues, _⟩ :=
    retry_budget strict sensible _ ⟨badDay, inCalendar, rfl⟩ default
  have parked := ((each delivery found).2.1 1 rfl).2.mpr first
  exact ⟨delivery, found, parked, first, (requeues default).1.mpr ⟨delivery, found, parked⟩⟩

end Station

end Outbox
