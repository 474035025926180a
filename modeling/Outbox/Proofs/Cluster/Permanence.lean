import Mathlib.Data.List.Permutation
import Outbox.Proofs.Cluster.Works

/-!
# Records are permanent

Once a record is in the store, nobody loses it and nobody writes another one over it. It can become
sent, once, and then a leading retention job can remove it when it is old enough. Nothing else
happens to it, whatever producers, dispatchers, operators and retention jobs do in whatever order,
whichever clocks they go by and whatever fails in between.

A move is checked once, against the effects that it can have on the records. Two inductions over
moves then follow a stored record forward to its removal and backward to its entry.
-/

namespace Outbox

open Calendar

namespace EventRecord

/-- What a stored record can be later: the same record, or the record as sent if it was pending. All
of its other fields stay as they are. -/
def Continues (record later : EventRecord) : Prop :=
  later = record ∨
    record.status = .pending ∧ ∃ moment, later = { record with status := .sent, updated := moment }

/-- Every record continues itself. -/
theorem Continues.refl (record : EventRecord) : record.Continues record := Or.inl rfl

/-- A record becomes sent at most once, so continuing twice is continuing. -/
theorem Continues.trans {record later last : EventRecord} (first : record.Continues later)
    (second : later.Continues last) : record.Continues last := by
  rcases first with rfl | ⟨pending, moment, rfl⟩
  · exact second
  · rcases second with rfl | ⟨sentPending, _⟩
    · exact Or.inr ⟨pending, moment, rfl⟩
    · cases sentPending

end EventRecord

namespace Cluster

/-- Whether the record under an identifier is stored after every one of some moves, and continues
the given one each time. -/
def Stays (cluster : Cluster) (event : Identifier) (record : EventRecord)
    (moves : List Move) : Prop :=
  ∀ done, done <+: moves →
    ∃ later, (cluster.run done).records.find? event = some later ∧ record.Continues later

/-- Whether a move removes a record as expired: the move is a retention job that leads, and the
record was sent and has not changed for longer than the job keeps it. -/
def Expires (record : EventRecord) (move : Move) : Prop :=
  ∃ span now cutoff, move = .retain true span now ∧
    now.add? (-span) = some cutoff ∧ record.status = .sent ∧
    record.updated.before cutoff = true

/-! ## Single moves -/

/-- A move that has a listed effect keeps a stored record or removes it as expired. A record that
comes in cannot take the place of a stored one, because it is stored only under a new identifier. -/
theorem RecordStep.fate {before after : Cluster} {move : Move} {event : Identifier}
    {record : EventRecord} (step : RecordStep before after move)
    (stored : before.records.find? event = some record) :
    (∃ later, after.records.find? event = some later ∧ record.Continues later) ∨
      Expires record move ∧ after.records.find? event = none := by
  cases step with
  | kept _ records =>
    left
    exact ⟨record, records ▸ stored, .refl record⟩
  | entered _ fresh records =>
    left
    refine ⟨record, ?_, .refl record⟩
    rw [records]
    exact Table.find?_putAll_of_known fresh stored
  | published _ _ _ reported _ _ changed _ found pending records =>
    left
    rw [records, Table.find?_put]
    by_cases same : event = changed.id
    · have reportedSame : changed.id = reported := Table.key_of_find? found
      rw [same, reportedSame, found] at stored
      obtain rfl := Option.some.inj stored
      exact ⟨_, if_pos same, Or.inr ⟨pending, _, rfl⟩⟩
    · exact ⟨record, (if_neg same).trans stored, .refl record⟩
  | expired span now cutoff reached records =>
    rw [records, Table.find?_filter, stored]
    by_cases doomed : MemoryStore.expired .sent cutoff record = true
    · right
      have sentBefore : record.status = .sent ∧ record.updated.before cutoff = true := by
        simpa [MemoryStore.expired] using doomed
      exact ⟨⟨span, now, cutoff, rfl, reached, sentBefore.1, sentBefore.2⟩, by simp [doomed]⟩
    · left
      exact ⟨record, by simp [doomed], .refl record⟩

/-- A record that is stored after a move and was not before is one that the move brought in, and the
last one under its identifier. -/
theorem RecordStep.origin {before after : Cluster} {move : Move} {event : Identifier}
    {record : EventRecord} (step : RecordStep before after move)
    (absent : before.records.find? event = none)
    (stored : after.records.find? event = some record) :
    (before.arriving move).reverse.find? (fun row => row.id = event) = some record := by
  cases step with
  | kept _ records =>
    rw [records, absent] at stored
    cases stored
  | entered _ _ records =>
    rw [records, Table.find?_putAll, absent, Option.or_none] at stored
    exact stored
  | published _ _ _ reported _ _ changed _ found _ records =>
    have reportedSame : changed.id = reported := Table.key_of_find? found
    have differs : event ≠ changed.id := by
      intro same
      rw [same, reportedSame, found] at absent
      cases absent
    rw [records, Table.find?_put] at stored
    have kept := (if_neg differs).symm.trans stored
    rw [absent] at kept
    cases kept
  | expired _ _ _ _ records =>
    rw [records, Table.find?_filter, absent] at stored
    cases stored

/-- A pending record is still stored after any move, whatever its age. -/
theorem pending_survives (cluster : Cluster) (move : Move) {event : Identifier}
    {record : EventRecord} (stored : cluster.records.find? event = some record)
    (pending : record.status = .pending) :
    ∃ later, (cluster.perform move).records.find? event = some later ∧
      record.Continues later := by
  rcases (recordStep_perform cluster move).fate stored with survives | ⟨expires, _⟩
  · exact survives
  · obtain ⟨_, _, _, _, _, sent, _⟩ := expires
    rw [pending] at sent
    cases sent

/-! ## Runs -/

/-- A record that continues a given one and stays, stays for the given one as well. -/
theorem Stays.of_continues {cluster : Cluster} {event : Identifier} {record later : EventRecord}
    {moves : List Move} (stays : cluster.Stays event later moves)
    (continues : record.Continues later) : cluster.Stays event record moves := by
  intro done initial
  obtain ⟨last, found, lastContinues⟩ := stays done initial
  exact ⟨last, found, continues.trans lastContinues⟩

/-- A stored record stays when nothing moves. -/
theorem Stays.nil {cluster : Cluster} {event : Identifier} {record : EventRecord}
    (stored : cluster.records.find? event = some record) : cluster.Stays event record [] := by
  intro done initial
  rw [List.prefix_nil.mp initial]
  exact ⟨record, stored, .refl record⟩

/-- A stored record that stays after one more move at the beginning. -/
theorem Stays.cons {cluster : Cluster} {event : Identifier} {record : EventRecord} {move : Move}
    {moves : List Move} (stored : cluster.records.find? event = some record)
    (stays : (cluster.perform move).Stays event record moves) :
    cluster.Stays event record (move :: moves) := by
  intro done initial
  cases done with
  | nil => exact ⟨record, stored, .refl record⟩
  | cons first rest =>
    obtain ⟨rfl, restInitial⟩ := List.cons_prefix_cons.mp initial
    rw [run_cons]
    exact stays rest restInitial

/-- A stored record stays through any moves, or stays up to the move that removes it as expired.

Induct over the moves and follow the record as it is after the first one. -/
theorem stays_or_expires (cluster : Cluster) (moves : List Move) {event : Identifier}
    {record : EventRecord} (stored : cluster.records.find? event = some record) :
    cluster.Stays event record moves ∨
      ∃ done move rest last, moves = done ++ move :: rest ∧ cluster.Stays event record done ∧
        (cluster.run done).records.find? event = some last ∧ record.Continues last ∧
        Expires last move ∧ (cluster.run (done ++ [move])).records.find? event = none := by
  induction moves generalizing cluster record with
  | nil => exact Or.inl (.nil stored)
  | cons move moves inductionHypothesis =>
    rcases (recordStep_perform cluster move).fate stored with
      ⟨later, found, continues⟩ | ⟨expires, gone⟩
    · rcases inductionHypothesis (cluster.perform move) found with
        stays | ⟨done, removal, rest, last, split, stays, lastFound, lastContinues, expires, gone⟩
      · left
        exact .cons stored (stays.of_continues continues)
      · right
        refine ⟨move :: done, removal, rest, last, ?_, ?_, lastFound, ?_, expires, gone⟩
        · rw [split, List.cons_append]
        · exact .cons stored (stays.of_continues continues)
        · exact continues.trans lastContinues
    · right
      exact ⟨[], move, moves, record, rfl, .nil stored, stored, .refl record, expires, gone⟩

/-- A stored record has come in with one of the moves so far, when nothing was stored under its
identifier, and has stayed since.

Induct over the moves from the last one backward: either the record was already there before the
last move, and then that move has kept it, or it came in with it. -/
theorem entered_and_stayed (dispatchers : List Dispatcher) (moves : List Move)
    {event : Identifier} {record : EventRecord}
    (stored : ((opened dispatchers).run moves).records.find? event = some record) :
    ∃ earlier entry since origin, moves = earlier ++ entry :: since ∧
      ((opened dispatchers).run earlier).records.find? event = none ∧
      (((opened dispatchers).run earlier).arriving entry).reverse.find?
        (fun row => row.id = event) = some origin ∧
      ((opened dispatchers).run (earlier ++ [entry])).Stays event origin since ∧
      origin.Continues record := by
  induction moves using List.reverseRecOn generalizing record with
  | nil => simp [run, opened, records, Site.empty, MemoryStore.empty] at stored
  | append_singleton moves move inductionHypothesis =>
    rw [run_append] at stored
    have step := recordStep_perform ((opened dispatchers).run moves) move
    cases former : ((opened dispatchers).run moves).records.find? event with
    | none =>
      refine ⟨moves, move, [], record, rfl, former, step.origin former stored, ?_, .refl record⟩
      apply Stays.nil
      rw [run_append]
      exact stored
    | some previous =>
      obtain ⟨earlier, entry, since, origin, split, absent, brought, stays, continues⟩ :=
        inductionHypothesis former
      have kept : previous.Continues record := by
        rcases step.fate former with ⟨later, found, continues⟩ | ⟨_, gone⟩
        · have same : record = later := Option.some.inj (stored.symm.trans found)
          exact same ▸ continues
        · have impossible := stored.symm.trans gone
          cases impossible
      refine ⟨earlier, entry, since ++ [move], origin, ?_, absent, brought, ?_, ?_⟩
      · rw [split, List.append_assoc, List.cons_append]
      · intro done initial
        rcases List.prefix_concat_iff.mp initial with whole | shorter
        · subst whole
          refine ⟨record, ?_, continues.trans kept⟩
          have joined : earlier ++ [entry] ++ (since ++ [move]) = moves ++ [move] := by
            rw [split]
            simp
          rw [← run_append, joined, run_append]
          exact stored
        · exact stays done shorter
      · exact continues.trans kept

/-! ## The life of a record -/

/-- The life of a stored record, backward and forward, in every run of a cluster.

It came in with a save or with the commit of a unit of work, when nothing was stored under its
identifier, and was the last of the records under its identifier that came in together. Since then
it has always been stored, the same in all fields or as sent.

From now on it stays in that way until a leading retention job removes it, and then it was sent and
had not changed for longer than that job keeps it. So a pending record survives every move. -/
theorem record_permanent (dispatchers : List Dispatcher) (before during : List Move)
    (event : Identifier) (record : EventRecord)
    (stored : ((opened dispatchers).run before).records.find? event = some record) :
    (∃ earlier entry since origin, before = earlier ++ entry :: since ∧
      ((opened dispatchers).run earlier).records.find? event = none ∧
      (((opened dispatchers).run earlier).arriving entry).reverse.find?
        (fun row => row.id = event) = some origin ∧
      (entry = .save origin ∨
        ∃ work, entry = .commit work ∧ Move.insert work origin ∈ earlier) ∧
      ((opened dispatchers).run (earlier ++ [entry])).Stays event origin since ∧
      origin.Continues record) ∧
    (((opened dispatchers).run before).Stays event record during ∨
      ∃ done move rest last, during = done ++ move :: rest ∧
        ((opened dispatchers).run before).Stays event record done ∧
        ((opened dispatchers).run (before ++ done)).records.find? event = some last ∧
        record.Continues last ∧ Expires last move) ∧
    (record.status = .pending → ∀ move, ∃ later,
      ((opened dispatchers).run (before ++ [move])).records.find? event = some later ∧
        record.Continues later) := by
  refine ⟨?_, ?_, ?_⟩
  · obtain ⟨earlier, entry, since, origin, split, absent, brought, stays, continues⟩ :=
      entered_and_stayed dispatchers before stored
    have arrives : origin ∈ ((opened dispatchers).run earlier).arriving entry :=
      List.mem_reverse.mp (List.mem_of_find?_eq_some brought)
    exact ⟨earlier, entry, since, origin, split, absent, brought,
      arriving_was_supplied dispatchers earlier entry arrives, stays, continues⟩
  · rcases stays_or_expires ((opened dispatchers).run before) during stored with
      stays | ⟨done, move, rest, last, split, stays, found, continues, expires, _⟩
    · exact Or.inl stays
    · right
      refine ⟨done, move, rest, last, split, stays, ?_, continues, expires⟩
      rw [run_append]
      exact found
  · intro pending move
    rw [run_append]
    exact pending_survives _ move stored pending

/-- A dispatcher that publishes snapshots of products as they are and tries again at once. -/
def plainDispatcher : Dispatcher where
  sender := .plain
  policy := .immediate
  patience := .zero

/-- A record comes in, and a dispatcher sends it. While it does, two more records come in
together. -/
def firstSent : List Move :=
  let ask : Move := .advance 0 fun _ => none
  [.save (.numbered 1), .start 0 0 true default, ask,
    .begin 5, .insert 5 (.numbered 2), .insert 5 (.numbered 3), .commit 5, ask, ask, ask]

/-- Another record comes in, and a job removes what has been sent. -/
def firstExpired : List Move :=
  [.save (.numbered 4), .retain true 0 ⟨180, 0, by decide⟩]

/-- The first record has been sent, and when it is gone a job has removed it as expired. The third
one is as it came in with the second one, and no single move can remove it. -/
theorem records_kept_until_expired :
    ((opened [plainDispatcher]).run firstSent).records.rows.map EventRecord.status =
        [.sent, .pending, .pending] ∧
      (∃ done move rest last, firstExpired = done ++ move :: rest ∧
        EventRecord.Continues { EventRecord.numbered 1 with status := .sent } last ∧
        Expires last move) ∧
      (∃ earlier entry since origin, firstSent = earlier ++ entry :: since ∧
        (entry = .save origin ∨
          ∃ work, entry = .commit work ∧ Move.insert work origin ∈ earlier) ∧
        origin.Continues (.numbered 3)) ∧
      ∀ move, ∃ later, ((opened [plainDispatcher]).run (firstSent ++ [move])).records.find?
        (EventRecord.numbered 3).id = some later ∧ EventRecord.Continues (.numbered 3) later := by
  have first : ((opened [plainDispatcher]).run firstSent).records.find?
      (EventRecord.numbered 1).id = some { EventRecord.numbered 1 with status := .sent } := by cbv
  have third : ((opened [plainDispatcher]).run firstSent).records.find?
      (EventRecord.numbered 3).id = some (.numbered 3) := by cbv
  have gone : (((opened [plainDispatcher]).run firstSent).run firstExpired).records.find?
      (EventRecord.numbered 1).id = none := by decide +kernel
  obtain ⟨_, fate, _⟩ :=
    record_permanent [plainDispatcher] firstSent firstExpired _ _ first
  obtain ⟨⟨earlier, entry, since, origin, split, _, _, brought, _, continues⟩, _, survives⟩ :=
    record_permanent [plainDispatcher] firstSent firstExpired _ _ third
  refine ⟨by decide +kernel, ?_, ⟨earlier, entry, since, origin, split, brought, continues⟩,
    survives rfl⟩
  rcases fate with stays | ⟨done, move, rest, last, cut, _, _, continued, expires⟩
  · obtain ⟨later, found, _⟩ := stays firstExpired (List.prefix_refl _)
    rw [gone] at found
    cases found
  · exact ⟨done, move, rest, last, cut, continued, expires⟩

end Cluster

end Outbox
