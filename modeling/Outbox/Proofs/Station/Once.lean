import Outbox.Proofs.Station.Basic

/-!
# Exactly one envelope

While the store does not fail and the runs of the dispatcher do not overlap, a record is published
exactly once. What is held under an identifier then goes through four stages: nothing is known of
it, a record waits and is not published, the record is sent and published once, and the record is
gone but stays published. Every change keeps to this order, and only an identifier that is used
again could leave the last stage.
-/

namespace Outbox.Station

open Calendar

/-- The stages of what is held under an identifier, with the records that came in and the tries that
were made so far. -/
inductive Stage (event : Identifier) (arrived : List EventRecord)
    (tries : List (Except DispatchError Unit)) : Standing → Prop
  /-- No record came in. -/
  | unknown (foreign : ∀ record ∈ arrived, record.id ≠ event) :
      Stage event arrived tries ⟨none, none, []⟩
  /-- The record is pending and not published. If deliveries are remembered, the last one failed. -/
  | waiting (record : EventRecord) (member : record ∈ arrived) (named : record.id = event)
      (pending : record.status = .pending) (delivery : Option Delivery)
      (failed : ∀ known, delivery = some known → ∃ error,
        tries.getLast? = some (.error error) ∧ known.lastError = error.message) :
      Stage event arrived tries ⟨some record, delivery, []⟩
  /-- The record is sent and published once. -/
  | sent (record : EventRecord) (known : ∃ first ∈ arrived, first.id = event)
      (sent : record.status = .sent) (envelope : Envelope) :
      Stage event arrived tries ⟨some record, none, [envelope]⟩
  /-- The record is deleted, and was published once. -/
  | gone (known : ∃ first ∈ arrived, first.id = event) (envelope : Envelope) :
      Stage event arrived tries ⟨none, none, [envelope]⟩

/-- Whether records are pending and go by distinct identifiers. -/
structure Fresh (records : List EventRecord) : Prop where
  pending : ∀ record ∈ records, record.status = .pending
  distinct : (records.map EventRecord.id).Nodup

/-- Records that come in earlier go by identifiers of their own as well. -/
theorem Fresh.left {first second : List EventRecord} (fresh : Fresh (first ++ second)) :
    Fresh first := by
  refine ⟨fun record member => fresh.pending record (List.mem_append_left second member), ?_⟩
  exact fresh.distinct.sublist ((List.sublist_append_left first second).map EventRecord.id)

section

variable {policy : RetryPolicy} {event : Identifier} {site : Site} {turn : Turn}
  {arrived : List EventRecord} {tries new : List (Except DispatchError Unit)}
  {before after : Standing}

/-- Records under other identifiers change no stage. What is known to have arrived only grows. -/
theorem Stage.grow {more : List EventRecord} (stage : Stage event arrived tries before)
    (foreign : ∀ record ∈ more, record.id ≠ event) :
    Stage event (arrived ++ more) tries before := by
  have kept (known : ∃ first ∈ arrived, first.id = event) :
      ∃ first ∈ arrived ++ more, first.id = event := by
    obtain ⟨first, member, named⟩ := known
    exact ⟨first, List.mem_append_left more member, named⟩
  cases stage with
  | unknown before =>
    apply Stage.unknown
    intro record member
    rcases List.mem_append.mp member with earlier | later
    · exact before record earlier
    · exact foreign record later
  | waiting record member named pending delivery failed =>
    exact .waiting record (List.mem_append_left more member) named pending delivery failed
  | sent record known sent envelope => exact .sent record (kept known) sent envelope
  | gone known envelope => exact .gone (kept known) envelope

/-- Every change leads from one stage to the same one or the next one. No identifier arrives twice,
so a record that is gone does not come back. -/
theorem Stage.change (fresh : Fresh (arrived ++ inserted site turn))
    (change : Change policy event site turn before new after)
    (stage : Stage event arrived tries before) :
    Stage event (arrived ++ inserted site turn) (tries ++ new) after := by
  cases change with
  | kept _ _ foreign _ _ =>
    rw [List.append_nil]
    exact stage.grow foreign
  | entered _ _ record member named absent =>
    cases stage with
    | unknown _ =>
      refine .waiting record (List.mem_append_right arrived member) named
        (fresh.pending record (List.mem_append_right arrived member)) none ?_
      intro known remembered
      cases remembered
    | waiting _ _ _ _ _ _ => cases absent
    | sent _ _ _ _ => cases absent
    | gone known envelope =>
      -- the identifier would be used a second time
      obtain ⟨first, earlier, same⟩ := known
      have distinct := fresh.distinct
      rw [List.map_append] at distinct
      exact absurd (same.trans named.symm) (List.nodup_append.mp distinct |>.2.2 _
        (List.mem_map_of_mem earlier) _ (List.mem_map_of_mem member))
  | sent names patience now _ record stored pending due envelope =>
    cases stage with
    | unknown _ => cases stored
    | waiting first member named _ _ _ =>
      exact .sent _ ⟨first, List.mem_append_left _ member, named⟩ rfl envelope
    | sent _ _ sent _ =>
      obtain rfl := Option.some.inj stored
      rw [sent] at pending
      cases pending
    | gone _ _ => cases stored
  | failed names patience now _ record stored pending due error delivery remembered =>
    obtain ⟨_, message, _⟩ := RetryPolicy.of_recordFailure? remembered
    cases stage with
    | unknown _ => cases stored
    | waiting first member named isPending _ _ =>
      refine .waiting first (List.mem_append_left _ member) named isPending (some delivery) ?_
      intro known same
      obtain rfl := Option.some.inj same
      exact ⟨error, List.getLast?_concat .., message⟩
    | sent _ _ sent _ =>
      obtain rfl := Option.some.inj stored
      rw [sent] at pending
      cases pending
    | gone _ _ => cases stored
  | removed span now _ record stored sent =>
    rw [List.append_nil]
    cases stage with
    | unknown _ => cases stored
    | waiting _ _ _ pending _ _ =>
      obtain rfl := Option.some.inj stored
      rw [sent] at pending
      cases pending
    | sent _ known _ envelope =>
      obtain ⟨first, member, named⟩ := known
      exact .gone ⟨first, List.mem_append_left _ member, named⟩ envelope
    | gone _ _ => cases stored
  | requeued now _ delivery known parked =>
    rw [List.append_nil]
    cases stage with
    | unknown _ => cases known
    | waiting record member named pending _ failed =>
      refine .waiting record (List.mem_append_left _ member) named pending _ ?_
      intro other same
      obtain rfl := Option.some.inj same
      exact failed delivery known
    | sent _ _ _ _ => cases known
    | gone _ _ => cases known

end

/-! ## What the stages say -/

section

variable {event : Identifier} {arrived : List EventRecord}
  {tries : List (Except DispatchError Unit)} {standing : Standing}

/-- A stored record is published once if it is sent, and not at all while it is pending. -/
theorem Stage.of_record (stage : Stage event arrived tries standing) {record : EventRecord}
    (stored : standing.record = some record) :
    (record.status = .sent → standing.published.length = 1) ∧
      (record.status = .pending → standing.published.length = 0) := by
  cases stage with
  | unknown _ => cases stored
  | waiting _ _ _ isPending _ _ =>
    obtain rfl := Option.some.inj stored
    exact ⟨by simp [isPending], fun _ => rfl⟩
  | sent _ _ isSent _ =>
    obtain rfl := Option.some.inj stored
    exact ⟨fun _ => rfl, by simp [isSent]⟩
  | gone _ _ => cases stored

/-- A record that came in and is not stored any more was published once. -/
theorem Stage.of_gone (stage : Stage event arrived tries standing)
    (known : ∃ first ∈ arrived, first.id = event) (gone : standing.record = none) :
    standing.published.length = 1 := by
  cases stage with
  | unknown foreign =>
    obtain ⟨first, member, named⟩ := known
    exact absurd named (foreign first member)
  | waiting _ _ _ _ _ _ => cases gone
  | sent _ _ _ _ => cases gone
  | gone _ _ => rfl

/-- Where no record came in nothing is published. -/
theorem Stage.of_unknown (stage : Stage event arrived tries standing)
    (foreign : ∀ record ∈ arrived, record.id ≠ event) : standing.published.length = 0 := by
  have unknown : ¬∃ first ∈ arrived, first.id = event := by
    rintro ⟨first, member, named⟩
    exact foreign first member named
  cases stage with
  | unknown _ => rfl
  | waiting _ _ _ _ _ _ => rfl
  | sent _ known _ _ => exact absurd known unknown
  | gone known _ => exact absurd known unknown

/-- What is remembered belongs to a pending record whose last try failed. -/
theorem Stage.of_delivery (stage : Stage event arrived tries standing) {delivery : Delivery}
    (remembered : standing.delivery = some delivery) :
    ∃ record error, standing.record = some record ∧ record.status = .pending ∧
      tries.getLast? = some (.error error) ∧ delivery.lastError = error.message := by
  cases stage with
  | unknown _ => cases remembered
  | waiting record _ _ isPending _ failed =>
    obtain ⟨error, last, message⟩ := failed delivery remembered
    exact ⟨record, error, rfl, isPending, last, message⟩
  | sent _ _ _ _ => cases remembered
  | gone _ _ => cases remembered

end

/-! ## Whole histories -/

/-- At every time what is held under an identifier is in one of the stages, as long as records come
in pending and no identifier is used twice. -/
theorem stage_run (station : Station) (turns : List Turn)
    (inCalendar : station.InCalendar .empty turns)
    (fresh : Fresh (station.insertions .empty turns)) (event : Identifier) :
    Stage event (station.insertions .empty turns) (station.allTries event .empty turns)
      ((station.run .empty turns).standing event) := by
  have guarded := invariant_run event (fun _ _ => True)
    (fun arrived tries standing => Fresh arrived → Stage event arrived tries standing)
    (fun site turn arrived tries new after _ _ change stage fresh =>
      Stage.change fresh change (stage fresh.left))
    ⟨rfl, fun _ => rfl⟩ inCalendar (throughout_of_forall (fun _ _ _ => trivial) .empty)
    (fun _ => .unknown (by simp))
  exact guarded fresh

/-- The number of envelopes of a record is the number of those that are held under its
identifier. -/
theorem countFor_eq (site : Site) (event : Identifier) :
    site.broker.countFor event = (site.standing event).published.length :=
  List.countP_eq_length_filter

/-- Every record is published exactly once.

A station starts with nothing. Whatever turns are taken, as long as every record comes in pending
and under an identifier of its own and no attempt lies beyond the calendar, the following holds
after each of them.
A record that is sent has exactly one envelope, and so has a record that came in and is not stored
any more. A pending record has none, and neither has an identifier under which nothing came in.
What is remembered of deliveries belongs to a stored pending record whose last try failed, and keeps
the error of that try. A failed try publishes nothing. -/
theorem published_exactly_once (station : Station) (turns : List Turn)
    (inCalendar : station.InCalendar .empty turns)
    (pending : ∀ record ∈ station.insertions .empty turns, record.status = .pending)
    (distinct : ((station.insertions .empty turns).map EventRecord.id).Nodup) :
    (∀ event record, (station.run .empty turns).store.records.find? event = some record →
      (record.status = .sent → (station.run .empty turns).broker.countFor event = 1) ∧
      (record.status = .pending → (station.run .empty turns).broker.countFor event = 0)) ∧
    (∀ record ∈ station.insertions .empty turns,
      (station.run .empty turns).store.records.find? record.id = none →
        (station.run .empty turns).broker.countFor record.id = 1) ∧
    (∀ event, (∀ record ∈ station.insertions .empty turns, record.id ≠ event) →
      (station.run .empty turns).broker.countFor event = 0) ∧
    (∀ event delivery, (station.run .empty turns).store.deliveries.find? event = some delivery →
      ∃ record error, (station.run .empty turns).store.records.find? event = some record ∧
        record.status = .pending ∧
        (station.allTries event .empty turns).getLast? = some (.error error) ∧
        delivery.lastError = error.message) ∧
    (∀ (site : Site) (sending : Sending) (record : EventRecord) (error : DispatchError),
      (site.answer sending (.deliver record)).1 = .error error →
        (site.answer sending (.deliver record)).2.broker.published = site.broker.published) := by
  have stages := stage_run station turns inCalendar ⟨pending, distinct⟩
  refine ⟨?_, ?_, ?_, ?_, ?_⟩
  · intro event record stored
    rw [countFor_eq]
    exact (stages event).of_record stored
  · intro record member gone
    rw [countFor_eq]
    exact (stages record.id).of_gone ⟨record, member, rfl⟩ gone
  · intro event foreign
    rw [countFor_eq]
    exact (stages event).of_unknown foreign
  · intro event delivery remembered
    exact (stages event).of_delivery remembered
  · intro site sending record error refused
    rw [site.answer_refused sending record refused]

/-! ## A day at a station -/

/-- The dispatcher runs. -/
def delivers : Turn := .dispatch (fun _ => none) .zero true default

/-- The strict station's site after a run of the dispatcher has gone through some records. -/
def delivered (site : Site) (records : List EventRecord) : Site :=
  ((Run.through strict.policy default records site.store.deliveries
    { Report.empty with considered := records.length }).execute
      (Site.answer (strict.sending (fun _ => none) .zero)) site.loaded).2

/-- The dispatcher goes through what is pending. Sorting the pending records is done apart from
going through them, since nothing evaluates both. -/
theorem perform_delivers {site : Site} (sound : site.Sound) {records : List EventRecord}
    (pending : site.pendingRecords = records) :
    strict.perform site delivers = delivered site records := by
  subst pending
  exact congrArg Prod.snd (sound.tick ..).1

/-- Three records come in, one of them on its own and two together. The first one is offered a
second time, and the broker is to reject the second one. -/
def morning : List Turn :=
  [.save (.numbered 1),
    .commit ((UnitOfWork.begin.insert (.numbered 2)).insert (.numbered 3)),
    .save (.numbered 1),
    .disturb none [(EventRecord.numbered 2).id] none]

/-- What has been sent is removed, and what has been parked is to be tried again. Two more records
come in, the first of which is now the one to be rejected. -/
def noon : List Turn :=
  [.retain true 0 ⟨300, 0, by decide⟩,
    .requeue (EventRecord.numbered 2).id default,
    .disturb none [(EventRecord.numbered 4).id] none,
    .commit ((UnitOfWork.begin.insert (.numbered 4)).insert (.numbered 5))]

/-- A day with two runs of the dispatcher, and a last record that comes in after them. -/
def day : List Turn :=
  morning ++ delivers :: noon ++ [delivers, .save (.numbered 6)]

/-- The site before the second run. -/
def beforeSecond : Site :=
  strict.run (delivered (strict.run .empty morning) [.numbered 1, .numbered 2, .numbered 3]) noon

/-- The first run goes through the three records of the morning. -/
theorem first_delivers :
    strict.perform (strict.run .empty morning) delivers =
      delivered (strict.run .empty morning) [.numbered 1, .numbered 2, .numbered 3] := by
  apply perform_delivers ⟨rfl, fun _ => rfl⟩
  cbv

/-- The second run goes through the record that was rejected and the two new ones. -/
theorem second_delivers :
    strict.perform beforeSecond delivers =
      delivered beforeSecond [.numbered 2, .numbered 4, .numbered 5] := by
  apply perform_delivers ⟨rfl, fun _ => rfl⟩
  have waiting : beforeSecond.store.records.rows.filter (fun record => record.status = .pending) =
      [.numbered 2, .numbered 4, .numbered 5] := by
    rfl
  rw [Site.pendingRecords, waiting]
  cbv

/-- The site at the end of the day. -/
theorem run_day :
    strict.run .empty day =
      strict.perform (delivered beforeSecond [.numbered 2, .numbered 4, .numbered 5])
        (.save (.numbered 6)) := by
  rw [← second_delivers, beforeSecond, ← first_delivers]
  rfl

/-- Six records come in, each of them once. -/
theorem insertions_day :
    strict.insertions .empty day =
      [.numbered 1, .numbered 2, .numbered 3, .numbered 4, .numbered 5, .numbered 6] := by
  have parts : strict.insertions .empty day = strict.insertions .empty morning ++
      (strict.insertions (strict.perform (strict.run .empty morning) delivers) noon ++
        strict.insertions (strict.perform (strict.run (strict.perform (strict.run .empty morning)
          delivers) noon) delivers) [.save (.numbered 6)]) := by
    rw [insertions, day, List.append_assoc, gathered_append, List.cons_append, gathered,
      gathered_append]
    rfl
  rw [parts, first_delivers]
  change _ ++ (_ ++ strict.insertions (strict.perform beforeSecond delivers) _) = _
  rw [second_delivers]
  rfl

/-- At the end of the day the first and the third record are gone, the second one has been sent
after its failure, and the fifth one right away. All four have been published once. The fourth one
has failed, the last one has not been tried, and nothing of them or of a seventh one is published.
-/
theorem day_publishes_once :
    strict.insertions .empty day =
        [.numbered 1, .numbered 2, .numbered 3, .numbered 4, .numbered 5, .numbered 6] ∧
      (strict.run .empty day).store.records.rows =
        [{ EventRecord.numbered 2 with status := .sent }, .numbered 4,
          { EventRecord.numbered 5 with status := .sent }, .numbered 6] ∧
      (∀ number ∈ [1, 2, 3, 5],
        (strict.run .empty day).broker.countFor (EventRecord.numbered number).id = 1) ∧
      (∀ number ∈ [4, 6, 7],
        (strict.run .empty day).broker.countFor (EventRecord.numbered number).id = 0) ∧
      ∃ delivery error,
        (strict.run .empty day).store.deliveries.find? (EventRecord.numbered 4).id =
          some delivery ∧
        (strict.allTries (EventRecord.numbered 4).id .empty day).getLast? = some (.error error) ∧
        delivery.lastError = error.message := by
  have rows : (strict.run .empty day).store.records.rows =
      [{ EventRecord.numbered 2 with status := .sent }, .numbered 4,
        { EventRecord.numbered 5 with status := .sent }, .numbered 6] := by
    rw [run_day]
    rfl
  obtain ⟨delivery, failed⟩ : ∃ delivery, (strict.run .empty day).store.deliveries.find?
      (EventRecord.numbered 4).id = some delivery := by
    rw [run_day]
    exact ⟨_, rfl⟩
  obtain ⟨stored, gone, unknown, remembered, _⟩ :=
    published_exactly_once strict day (inCalendar_of_zero rfl _ _)
      (by rw [insertions_day]; decide) (by rw [insertions_day]; decide)
  rw [insertions_day] at gone unknown
  have once (number : Fin 100)
      (sent : (strict.run .empty day).store.records.find? (EventRecord.numbered number).id =
        some { EventRecord.numbered number with status := .sent }) :
      (strict.run .empty day).broker.countFor (EventRecord.numbered number).id = 1 :=
    (stored _ _ sent).1 rfl
  have never (number : Fin 100) (waits : (strict.run .empty day).store.records.find?
      (EventRecord.numbered number).id = some (.numbered number)) :
      (strict.run .empty day).broker.countFor (EventRecord.numbered number).id = 0 :=
    (stored _ _ waits).2 rfl
  simp only [Table.find?, rows] at once never gone
  refine ⟨insertions_day, rows, ?_, ?_, ?_⟩
  · simp only [List.forall_mem_cons]
    exact ⟨gone (.numbered 1) (by simp) rfl, once 2 rfl, gone (.numbered 3) (by simp) rfl,
      once 5 rfl, List.forall_mem_nil _⟩
  · simp only [List.forall_mem_cons]
    exact ⟨never 4 rfl, never 6 rfl, unknown (EventRecord.numbered 7).id (by decide),
      List.forall_mem_nil _⟩
  · obtain ⟨_, error, _, _, last, message⟩ := remembered _ _ failed
    exact ⟨delivery, error, failed, last, message⟩

end Outbox.Station
