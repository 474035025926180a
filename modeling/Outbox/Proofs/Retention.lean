import Outbox.Proofs.Calendar
import Outbox.Proofs.Store.Content
import Outbox.Retention

/-!
# Retention runs

A retention run of the leader deletes the records that were sent before its cutoff and what is
remembered of their deliveries, and leaves everything else. Outside of leap seconds the cutoff moves
on with the time of the run, so a later run deletes at least what an earlier one would have deleted.
Two runs in a row therefore leave the store that the second one alone would have left, and together
they count the records that it would have counted.
-/

namespace Outbox.MemoryStore

open Calendar

variable {store : MemoryStore} {span : Int} {now cutoff : Timestamp}

/-- A retention run of the leader on a store in memory, which keeps sent records for a span of
nanoseconds. -/
def retain (store : MemoryStore) (span : Int) (now : Timestamp) : RetentionOutcome × MemoryStore :=
  Retention.tickKeeping (fun cutoff => store.call (.deleteWhere .sent cutoff)) store true span now

/-! ## One run -/

/-- The records that were sent before a cutoff. -/
def doomed (store : MemoryStore) (cutoff : Timestamp) : Table EventRecord.id :=
  store.records.filter (expired .sent cutoff)

/-- The store without the records that were sent before a cutoff and without what is remembered of
their deliveries. -/
def purged (store : MemoryStore) (cutoff : Timestamp) : MemoryStore := { store with
  records := store.records.filter fun record => !expired .sent cutoff record
  deliveries := store.deliveries.filter fun delivery =>
    !(store.doomed cutoff).contains delivery.event }

/-- A run that reaches its store and its cutoff deletes what was sent before the cutoff, and counts
it. -/
theorem retain_of_available (available : store.available = true)
    (reached : now.add? (-span) = some cutoff) :
    store.retain span now = (.deleted (store.doomed cutoff).size, store.purged cutoff) := by
  have deleted : store.call (.deleteWhere .sent cutoff) =
      (.ok (store.doomed cutoff).size, store.purged cutoff) := by
    rw [call, deleteWhere_of_available available]
    rfl
  simp only [retain, Retention.tickKeeping, reached, deleted, Bool.not_true, Bool.false_eq_true,
    if_false]

/-- A run that does not reach its store says so and leaves it alone. -/
theorem retain_of_unavailable (unavailable : store.available = false)
    (reached : now.add? (-span) = some cutoff) :
    store.retain span now = (.failed outage, store) := by
  simp only [retain, Retention.tickKeeping, reached, call_of_unavailable unavailable, Bool.not_true,
    Bool.false_eq_true, if_false]

/-- A run that deletes has found its store available and its cutoff in the calendar. Everything else
that a run can report leaves the store alone. -/
theorem retain_deleted {after : MemoryStore} {count : Nat}
    (deleted : store.retain span now = (.deleted count, after)) :
    store.available = true ∧ ∃ cutoff, now.add? (-span) = some cutoff ∧
      count = (store.doomed cutoff).size ∧ after = store.purged cutoff := by
  cases reached : now.add? (-span) with
  | none =>
    simp only [retain, Retention.tickKeeping, reached] at deleted
    cases deleted
  | some cutoff =>
    cases available : store.available with
    | false =>
      rw [retain_of_unavailable available reached] at deleted
      cases deleted
    | true =>
      rw [retain_of_available available reached] at deleted
      cases deleted
      exact ⟨rfl, cutoff, rfl, rfl, rfl⟩

/-! ## What is left -/

/-- A record was sent before a moment. -/
def SentBefore (cutoff : Timestamp) (record : EventRecord) : Prop :=
  record.status = .sent ∧ record.updated.before cutoff = true

/-- A record expires exactly when it was sent before the cutoff. -/
theorem expired_sent_iff (cutoff : Timestamp) (record : EventRecord) :
    expired .sent cutoff record = true ↔ SentBefore cutoff record := by
  rw [expired, Bool.and_eq_true, decide_eq_true_eq, SentBefore]

/-- A run with a cutoff has left a store behind: without the records that were sent before the
cutoff, without the deliveries of exactly these, and otherwise as it was. -/
structure Cleared (cutoff : Timestamp) (store after : MemoryStore) : Prop where
  record : ∀ id record, after.records.find? id = some record ↔
    store.records.find? id = some record ∧ ¬ SentBefore cutoff record
  delivery : ∀ event delivery, after.deliveries.find? event = some delivery ↔
    store.deliveries.find? event = some delivery ∧
      ∀ record, store.records.find? event = some record → ¬ SentBefore cutoff record
  available : after.available = store.available

/-- What a run leaves behind is described by what is found there under each identifier. -/
theorem cleared_purged (store : MemoryStore) (cutoff : Timestamp) :
    Cleared cutoff store (store.purged cutoff) where
  record id record := by
    rw [purged, Table.find?_filter, Option.filter_eq_some_iff, ← expired_sent_iff,
      Bool.not_eq_true', Bool.not_eq_true]
  delivery event delivery := by
    rw [purged, Table.find?_filter, Option.filter_eq_some_iff, doomed]
    refine and_congr_right fun remembered => ?_
    have named : delivery.event = event := Table.key_of_find? remembered
    rw [named, Table.contains_filter, Bool.not_eq_true', Option.any_eq_false]
    refine forall₂_congr fun record found => ?_
    rw [← expired_sent_iff, Bool.not_eq_true]
  available := rfl

/-! ## Two runs -/

/-- A later cutoff dooms every record that an earlier one dooms. -/
theorem expired_of_upTo {earlier later : Timestamp} (inOrder : earlier.upTo later = true)
    {record : EventRecord} (old : expired .sent earlier record = true) :
    expired .sent later record = true := by
  rw [expired_sent_iff] at *
  exact ⟨old.1, Timestamp.before_of_upTo old.2 inOrder⟩

/-- What an earlier cutoff has taken out of a store makes no difference to a later one, which would
have taken it out as well. This also goes for the deliveries, which leave with their records. -/
theorem purged_purged {earlier later : Timestamp} (inOrder : earlier.upTo later = true)
    (store : MemoryStore) : (store.purged earlier).purged later = store.purged later := by
  have kept (record : EventRecord) :
      (!expired .sent later record && !expired .sent earlier record) =
        !expired .sent later record := by
    cases old : expired .sent earlier record with
    | false => exact Bool.and_true _
    | true => rw [expired_of_upTo inOrder old]; rfl
  have left (event : Identifier) :
      (!((store.purged earlier).doomed later).contains event &&
        !(store.doomed earlier).contains event) = !(store.doomed later).contains event := by
    rw [doomed, doomed, doomed, purged, Table.contains_filter, Table.contains_filter,
      Table.contains_filter, Table.find?_filter]
    cases store.records.find? event with
    | none => rfl
    | some record =>
      cases old : expired .sent earlier record with
      | false => simp [old]
      | true => simp [old, expired_of_upTo inOrder old]
  have records : ((store.purged earlier).purged later).records = (store.purged later).records := by
    change (store.records.filter _).filter _ = _
    rw [Table.filter_filter]
    exact Table.filter_congr fun record _ => kept record
  have deliveries :
      ((store.purged earlier).purged later).deliveries = (store.purged later).deliveries := by
    change (store.deliveries.filter _).filter _ = _
    rw [Table.filter_filter]
    exact Table.filter_congr fun delivery _ => left delivery.event
  exact congrArg₂ (fun records deliveries =>
    ({ records, deliveries, available := store.available } : MemoryStore)) records deliveries

/-- Every record is either doomed or left. -/
theorem size_purged_add (store : MemoryStore) (cutoff : Timestamp) :
    (store.purged cutoff).records.size + (store.doomed cutoff).size = store.records.size :=
  Table.size_filter_add store.records (expired .sent cutoff)

/-- Two runs in a row doom as many records as the later one alone. -/
theorem size_doomed_add {earlier later : Timestamp} (inOrder : earlier.upTo later = true)
    (store : MemoryStore) :
    (store.doomed earlier).size + ((store.purged earlier).doomed later).size =
      (store.doomed later).size := by
  have first := store.size_purged_add earlier
  have second := (store.purged earlier).size_purged_add later
  have alone := store.size_purged_add later
  rw [purged_purged inOrder] at second
  omega

/-! ## Retention -/

/-- A retention run of the leader deletes exactly the records that were sent before its cutoff, with
exactly their deliveries, counts them, and changes nothing else. On an unavailable store it fails
and changes nothing at all. Outside of leap seconds two runs in a row, each of which deletes, leave
what the later one alone leaves, and their counts add up to its count. -/
theorem retention_exact (store : MemoryStore) (span : Int) {now cutoff : Timestamp}
    (reached : now.add? (-span) = some cutoff) :
    (store.available = true → ∃ count after,
      store.retain span now = (.deleted count, after) ∧ Cleared cutoff store after ∧
        after.records.size + count = store.records.size) ∧
    (store.available = false → store.retain span now = (.failed outage, store)) ∧
    ∀ (later : Timestamp) (first second : Nat) (between after : MemoryStore),
      now.isLeap = false → later.isLeap = false → now.upTo later = true →
      store.retain span now = (.deleted first, between) →
      between.retain span later = (.deleted second, after) →
        store.retain span later = (.deleted (first + second), after) := by
  refine ⟨?_, ?_, ?_⟩
  · intro available
    exact ⟨_, _, retain_of_available available reached, cleared_purged store cutoff,
      store.size_purged_add cutoff⟩
  · intro unavailable
    exact retain_of_unavailable unavailable reached
  · intro later first second between after plain laterPlain inOrder deleted laterDeleted
    obtain ⟨available, former, former_reached, rfl, rfl⟩ := retain_deleted deleted
    obtain ⟨-, latter, latter_reached, rfl, rfl⟩ := retain_deleted laterDeleted
    have moved : former.upTo latter = true :=
      Timestamp.upTo_of_both_add? plain laterPlain inOrder former_reached latter_reached
    rw [retain_of_available available latter_reached, purged_purged moved, size_doomed_add moved]

/-- The moment some seconds after the start of 1970. -/
def atSecond (number : Fin 59) : Timestamp :=
  ⟨number, 0, by
    obtain ⟨number, below⟩ := number
    simp only [IsMoment, firstSecond, lastSecond, nanosPerSecond]
    omega⟩

/-- A store with three records that were sent at the seconds 0, 10 and 20 and one that has been
pending since second 0. It remembers deliveries of the first one and of the pending one. -/
def shelf : MemoryStore :=
  let sent (number : Nat) (moment : Fin 59) : EventRecord := { (default : EventRecord) with
    id := .ofNumber number
    status := .sent
    updated := atSecond moment }
  let pending : EventRecord := { (default : EventRecord) with id := .ofNumber 4 }
  let delivery (number : Nat) : Delivery := { (default : Delivery) with event := .ofNumber number }
  { records := .ofList [sent 1 0, sent 2 10, sent 3 20, pending]
    deliveries := .ofList [delivery 1, delivery 4]
    available := true }

/-- With ten seconds to keep, a run at second 15 deletes the first record and its delivery, and one
at second 30 the second record. The third one was sent at the very cutoff and stays, as does the
pending one with its delivery. -/
theorem shelf_cleared :
    let tenSeconds : Int := 10 * nanosPerSecond
    ∃ between after, shelf.retain tenSeconds (atSecond 15) = (.deleted 1, between) ∧
      Cleared (atSecond 5) shelf between ∧
      between.retain tenSeconds (atSecond 30) = (.deleted 1, after) ∧
      shelf.retain tenSeconds (atSecond 30) = (.deleted 2, after) ∧
      after.records.rows.map EventRecord.id = [.ofNumber 3, .ofNumber 4] ∧
      after.deliveries.rows.map Delivery.event = [.ofNumber 4] := by
  intro tenSeconds
  have reached : (atSecond 15).add? (-tenSeconds) = some (atSecond 5) := rfl
  obtain ⟨deletes, -, twice⟩ := retention_exact shelf tenSeconds reached
  have first : shelf.retain tenSeconds (atSecond 15) =
      (.deleted 1, shelf.purged (atSecond 5)) := rfl
  obtain ⟨count, between, deleted, cleared, -⟩ := deletes rfl
  rw [first] at deleted
  cases deleted
  have second : (shelf.purged (atSecond 5)).retain tenSeconds (atSecond 30) =
      (.deleted 1, (shelf.purged (atSecond 5)).purged (atSecond 20)) := rfl
  have together := twice (atSecond 30) 1 1 _ _ rfl rfl rfl first second
  exact ⟨_, _, first, cleared, second, together, rfl, rfl⟩

end Outbox.MemoryStore
