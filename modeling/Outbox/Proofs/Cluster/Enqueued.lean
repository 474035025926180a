import Outbox.Proofs.Cluster.Office
import Outbox.Supplier.Snapshot

/-!
# Enqueued records are faithful

An event is enqueued exactly when it lacks nothing, and then one record says what the event said and
what its object was at that moment. Whatever happens from then on, to the object too, the record is
staged and stored as it was enqueued, and a dispatcher with the same handlers finds one for it.
-/

namespace Outbox

open Calendar

/-- Every record tells of the same event as itself. -/
theorem EventRecord.SameEvent.refl (record : EventRecord) : record.SameEvent record := by
  rw [SameEvent]

/-- Records of one event have one kind. -/
theorem EventRecord.SameEvent.aggregateType {record other : EventRecord}
    (same : record.SameEvent other) : other.aggregateType = record.aggregateType := by
  rw [SameEvent] at same
  rw [same]

/-- What comes of enqueuing an event in a unit of work: when it is accepted, what is staged then,
which error refuses it otherwise, and that its record will not miss a handler. -/
structure UnitOfWork.EnqueuesExactly (work : UnitOfWork) (registry : Registry)
    (request : EnqueueRequest) (id : Identifier) (now : Timestamp) : Prop where
  accepted_iff : (∃ record grown, work.enqueue registry request id now = .ok (record, grown)) ↔
    Text.trim request.eventName ≠ "" ∧
      (∃ handler ∈ registry.handlers, handler.tag = request.aggregateType) ∧
      ∃ payload, request.payload = .ok payload
  staged : ∀ {record grown}, work.enqueue registry request id now = .ok (record, grown) →
    grown.staged = work.staged ++ [record] ∧
      ∃ payload, request.payload = .ok payload ∧ record = request.recordOf payload id now
  refused : ∀ {error}, work.enqueue registry request id now = .error error →
    request.Lacks registry error
  /-- Whoever sends the record with the same handlers, now or when it has become sent, never misses
  one. -/
  handled : ∀ {record grown}, work.enqueue registry request id now = .ok (record, grown) →
    ∀ {later}, record.SameEvent later → ∀ {sending : Sending}, sending.sender.registry = registry →
      ∀ (site : Site) (missing : RegistryError),
        (site.answer sending (.deliver later)).1 ≠ .error (.missingHandler missing)

/-- Whatever is asked for, it is either refused and stages nothing, or stages the one record that
the request, the identifier and the moment determine. -/
theorem UnitOfWork.enqueuesExactly (work : UnitOfWork) (registry : Registry)
    (request : EnqueueRequest) (id : Identifier) (now : Timestamp) :
    work.EnqueuesExactly registry request id now := by
  constructor
  · constructor
    · rintro ⟨record, grown, enqueued⟩
      obtain ⟨named, handled, payload, snapshot, _⟩ :=
        EnqueueRequest.of_record_ok (enqueue_ok_iff.mp enqueued).1
      exact ⟨named, handled, payload, snapshot⟩
    · rintro ⟨named, handled, payload, snapshot⟩
      rcases request.record_cases registry id now with
        ⟨_, _, _, _, made⟩ | ⟨error, _, lacks⟩
      · exact ⟨_, _, enqueue_ok_iff.mpr ⟨made, rfl⟩⟩
      · exfalso
        cases lacks with
        | name blank => exact named blank
        | handler _ unhandled =>
          obtain ⟨handler, member, tagged⟩ := handled
          exact unhandled handler member tagged
        | snapshot _ _ reason failed =>
          rw [snapshot] at failed
          cases failed
  · intro record grown enqueued
    obtain ⟨made, rfl⟩ := enqueue_ok_iff.mp enqueued
    obtain ⟨_, _, payload, snapshot, same⟩ := EnqueueRequest.of_record_ok made
    exact ⟨rfl, payload, snapshot, same⟩
  · intro error refused
    rcases request.record_cases registry id now with ⟨_, _, _, _, made⟩ | ⟨reason, failed, lacks⟩
    · rw [enqueue_error_iff.mp refused] at made
      cases made
    · rw [enqueue_error_iff.mp refused] at failed
      cases failed
      exact lacks
  · intro record grown enqueued later same sending alike site missing
    obtain ⟨_, handled, payload, _, rfl⟩ :=
      EnqueueRequest.of_record_ok (enqueue_ok_iff.mp enqueued).1
    apply site.answer_deliver_handled
    rw [alike, same.aggregateType]
    exact handled

namespace Office

variable {Object : Type} (serialize : Object → Except String Json)

/-! ## Where records come from -/

/-- The acts that supply a record: it is saved or inserted as it is, or enqueued as the record of an
event about an object. -/
inductive Act.Supplies (objects : Nat → Object) (record : EventRecord) : Act Object → Prop
  | saved : Supplies objects record (.elsewhere (.save record))
  | inserted (work : Nat) : Supplies objects record (.elsewhere (.insert work record))
  | enqueued (work : Nat) (registry : Registry) (notice : Notice) (id : Identifier)
      (now : Timestamp)
      (made : Office.record serialize objects registry notice id now = .ok record) :
      Supplies objects record (.enqueue work registry notice id now)

/-- Whether one of the acts supplies a record, with the objects as they are then. -/
def Supplied (office : Office Object) (acts : List (Act Object)) (record : EventRecord) : Prop :=
  ∃ earlier act later, acts = earlier ++ act :: later ∧
    act.Supplies serialize (office.run serialize earlier).objects record

/-- The handlers with which an act enqueues. -/
def Act.registry? : Act Object → Option Registry
  | .enqueue _ registry _ _ _ => some registry
  | _ => none

/-- The moves that carry a record into a unit of work or into the store. -/
inductive Carries (record : EventRecord) : Cluster.Move → Prop
  | save : Carries record (.save record)
  | insert (work : Nat) : Carries record (.insert work record)

/-- A record that is carried in is one that the acts supply. -/
theorem supplied_of_carried {office : Office Object} {acts : List (Act Object)}
    {record : EventRecord} {move : Cluster.Move}
    (member : move ∈ moves serialize office.objects acts) (carries : Carries record move) :
    office.Supplied serialize acts record := by
  obtain ⟨earlier, act, later, split, made⟩ := mem_moves serialize member
  refine ⟨earlier, act, later, split, ?_⟩
  rcases Act.moves_cases serialize made with
    rfl | ⟨work, registry, notice, id, now, other, rfl, rfl, recorded⟩
  · cases carries with
    | save => exact .saved
    | insert work => exact .inserted work
  · cases carries
    exact .enqueued work registry notice id now recorded

/-- A stored record continues one that was carried in. -/
theorem carried_of_stored (dispatchers : List Dispatcher) (moves : List Cluster.Move)
    {event : Identifier} {record : EventRecord}
    (stored : ((Cluster.opened dispatchers).run moves).records.find? event = some record) :
    ∃ origin, origin.Continues record ∧ ∃ move ∈ moves, Carries origin move := by
  obtain ⟨earlier, entry, since, origin, rfl, _, brought, _, continues⟩ :=
    Cluster.entered_and_stayed dispatchers moves stored
  have arrives : origin ∈ ((Cluster.opened dispatchers).run earlier).arriving entry :=
    List.mem_reverse.mp (List.mem_of_find?_eq_some brought)
  refine ⟨origin, continues, ?_⟩
  rcases Cluster.arriving_was_supplied dispatchers earlier entry arrives with
    rfl | ⟨work, _, inserted⟩
  · exact ⟨_, List.mem_append_right _ List.mem_cons_self, .save⟩
  · exact ⟨_, List.mem_append_left _ inserted, .insert work⟩

/-! ## What becomes of a stored record -/

/-- Whether the record under an identifier is stored after every one of some acts, and continues
the given one each time. -/
def Stays (office : Office Object) (event : Identifier) (record : EventRecord)
    (acts : List (Act Object)) : Prop :=
  ∀ done, done <+: acts → ∃ later,
    (office.run serialize done).cluster.records.find? event = some later ∧ record.Continues later

/-- A stored record stays when nothing is done. -/
theorem Stays.nil {office : Office Object} {event : Identifier} {record : EventRecord}
    (stored : office.cluster.records.find? event = some record) :
    office.Stays serialize event record [] := by
  intro done initial
  rw [List.prefix_nil.mp initial]
  exact ⟨record, stored, .refl record⟩

/-- A stored record stays when what continues it after an act stays from then on. -/
theorem Stays.cons {office : Office Object} {event : Identifier} {record later : EventRecord}
    {act : Act Object} {acts : List (Act Object)}
    (stored : office.cluster.records.find? event = some record)
    (continues : record.Continues later)
    (stays : (office.perform serialize act).Stays serialize event later acts) :
    office.Stays serialize event record (act :: acts) := by
  intro done initial
  cases done with
  | nil => exact ⟨record, stored, .refl record⟩
  | cons first rest =>
    obtain ⟨rfl, restInitial⟩ := List.cons_prefix_cons.mp initial
    obtain ⟨last, found, lastContinues⟩ := stays rest restInitial
    exact ⟨last, found, continues.trans lastContinues⟩

/-- An act keeps a stored record, unless it removes it as expired. Nothing that happens to the
objects can reach it. -/
theorem fate_perform (office : Office Object) (act : Act Object) {event : Identifier}
    {record : EventRecord} (stored : office.cluster.records.find? event = some record) :
    (∃ later, (office.perform serialize act).cluster.records.find? event = some later ∧
        record.Continues later) ∨
      ∃ move, act = .elsewhere move ∧ Cluster.Expires record move := by
  cases act with
  | change subject object => exact .inl ⟨record, stored, .refl record⟩
  | elsewhere move =>
    rcases (Cluster.recordStep_perform office.cluster move).fate stored with kept | ⟨expires, _⟩
    · exact .inl kept
    · exact .inr ⟨move, rfl, expires⟩
  | enqueue work registry notice id now =>
    left
    refine ⟨record, ?_, .refl record⟩
    rw [perform_eq, Act.moves]
    cases Office.record serialize office.objects registry notice id now with
    | error error => exact stored
    | ok made => exact stored

/-- A stored record stays through any acts, or stays up to the retention job that removes it as
expired.

Induct over the acts and follow the record as it is after the first one. -/
theorem stays_or_expires (office : Office Object) (acts : List (Act Object)) {event : Identifier}
    {record : EventRecord} (stored : office.cluster.records.find? event = some record) :
    office.Stays serialize event record acts ∨
      ∃ done move rest last, acts = done ++ .elsewhere move :: rest ∧
        office.Stays serialize event record done ∧
        (office.run serialize done).cluster.records.find? event = some last ∧
        record.Continues last ∧ Cluster.Expires last move := by
  induction acts generalizing office record with
  | nil => exact .inl (.nil serialize stored)
  | cons act acts inductionHypothesis =>
    rcases office.fate_perform serialize act stored with
      ⟨later, found, continues⟩ | ⟨move, rfl, expires⟩
    · rcases inductionHypothesis _ found with
        stays | ⟨done, removal, rest, last, rfl, stays, lastFound, lastContinues, expires⟩
      · exact .inl (.cons serialize stored continues stays)
      · right
        exact ⟨act :: done, removal, rest, last, rfl, .cons serialize stored continues stays,
          lastFound, continues.trans lastContinues, expires⟩
    · right
      exact ⟨[], move, acts, record, rfl, .nil serialize stored, stored, .refl record, expires⟩

/-! ## Enqueued records -/

/-- What acts leave of what is staged and stored. -/
structure Keeps (office : Office Object) (acts : List (Act Object)) : Prop where
  /-- A refused event may as well not have been enqueued. -/
  refused : ∀ {before work registry notice id now after error},
    acts = before ++ .enqueue work registry notice id now :: after →
    Office.record serialize (office.run serialize before).objects registry notice id now =
        .error error →
      office.run serialize acts = office.run serialize (before ++ after)
  /-- While a unit of work is neither begun nor ended, it stages the records that are enqueued or
  inserted, in order, after what it has staged, and nothing else happens to it. -/
  staged : ∀ {work unit}, office.cluster.works work = some unit →
    (∀ act ∈ acts, act.bounds work = false) →
      (office.run serialize acts).cluster.works work =
        some ⟨unit.staged ++ stagedIn serialize work office.objects acts⟩
  /-- Before a commit the store and everything else are as if nothing had been staged. -/
  uncommitted : ∀ {work}, .elsewhere (.commit work) ∉ acts →
    Cluster.AgreesBut work (office.run serialize acts).cluster
      (office.run serialize (acts.filter fun act => !act.isOf work)).cluster
  /-- After the last snapshot of an object its changes make no difference. -/
  unread : ∀ {subject}, (∀ act ∈ acts, act.reads subject = false) →
    (office.run serialize (acts.filter fun act => !act.changes subject)).cluster =
      (office.run serialize acts).cluster
  /-- A stored record stays as it is, or as sent, until a retention job removes it as expired. -/
  stored : ∀ {event record}, office.cluster.records.find? event = some record →
    office.Stays serialize event record acts ∨
      ∃ done move rest last, acts = done ++ .elsewhere move :: rest ∧
        office.Stays serialize event record done ∧
        (office.run serialize done).cluster.records.find? event = some last ∧
        record.Continues last ∧ Cluster.Expires last move

/-- What is staged, stored and delivered after acts at an office where nothing had happened. -/
structure Traces (dispatchers : List Dispatcher) (objects : Nat → Object)
    (acts : List (Act Object)) : Prop where
  staged : ∀ {work unit},
    ((opened dispatchers objects).run serialize acts).cluster.works work = some unit →
      ∀ record ∈ unit.staged, (opened dispatchers objects).Supplied serialize acts record
  stored : ∀ {event record},
    ((opened dispatchers objects).run serialize acts).cluster.records.find? event = some record →
      ∃ origin, (opened dispatchers objects).Supplied serialize acts origin ∧
        origin.Continues record
  /-- A record that a run is about to deliver was supplied by one of the acts. If it was enqueued
  with the handlers of the dispatcher, then the dispatcher does not miss one. -/
  delivered : ∀ {number dispatcher record next},
    ((opened dispatchers objects).run serialize acts).cluster.tasks number =
        some ⟨dispatcher, .ask (.deliver record) next⟩ →
      ∃ earlier act later origin, acts = earlier ++ act :: later ∧
        act.Supplies serialize ((opened dispatchers objects).run serialize earlier).objects origin ∧
        origin.SameEvent record ∧
        (act.registry? = some dispatcher.sender.registry → ∀ names missing,
          (((opened dispatchers objects).run serialize acts).cluster.site.answer
            (dispatcher.sending names) (.deliver record)).1 ≠ .error (.missingHandler missing))

/-- A refused event leaves the office as it was. -/
theorem perform_refused (office : Office Object) {work : Nat} {registry : Registry}
    {notice : Notice} {id : Identifier} {now : Timestamp} {error : EnqueueError}
    (refused : Office.record serialize office.objects registry notice id now = .error error) :
    office.perform serialize (.enqueue work registry notice id now) = office := by
  rw [perform_eq, Act.moves, refused]
  rfl

/-- All of this holds of every office after any acts. Each part is a law of clusters, carried over
along the moves that the acts amount to. -/
theorem keeps (office : Office Object) (acts : List (Act Object)) :
    office.Keeps serialize acts where
  refused split refused := by
    rw [split, run_append, run_append, run_cons, perform_refused serialize _ refused]
  staged := works_run serialize
  uncommitted := run_without serialize office
  unread := run_unread serialize office
  stored := stays_or_expires serialize office acts

/-- All of this holds of every office at which nothing had happened before the acts. What the office
does to its cluster are moves, so it follows from what is shown of these. -/
theorem traces (dispatchers : List Dispatcher) (objects : Nat → Object)
    (acts : List (Act Object)) : Traces serialize dispatchers objects acts := by
  have run : ((opened dispatchers objects).run serialize acts).cluster =
      (Cluster.opened dispatchers).run (moves serialize objects acts) :=
    cluster_run serialize (opened dispatchers objects) acts
  constructor
  · intro work unit found record member
    rw [run] at found
    exact supplied_of_carried serialize
      (Cluster.staged_was_inserted dispatchers _ found record member) (.insert work)
  · intro event record stored
    rw [run] at stored
    obtain ⟨origin, continues, move, member, carries⟩ := carried_of_stored dispatchers _ stored
    exact ⟨origin, supplied_of_carried serialize member carries, continues⟩
  · intro number dispatcher record next waiting
    rw [run] at waiting
    -- What a run delivers it has loaded, so it was stored at some time before.
    obtain ⟨_, loaded, _, orderly, seen, _⟩ :=
      Cluster.tasksAccounted_run dispatchers _ number _ waiting
    obtain ⟨done, initial, found⟩ := seen record orderly.1
    obtain ⟨origin, continues, move, member, carries⟩ := carried_of_stored dispatchers done found
    have supplied : (opened dispatchers objects).Supplied serialize acts origin :=
      supplied_of_carried serialize (initial.subset member) carries
    obtain ⟨earlier, act, later, split, supplies⟩ := supplied
    have same : origin.SameEvent record :=
      (EventRecord.SameEvent.refl origin).of_continues continues
    refine ⟨earlier, act, later, origin, split, supplies, same, ?_⟩
    intro alike names missing
    cases supplies with
    | saved => cases alike
    | inserted work => cases alike
    | enqueued work registry notice id now made =>
      have alike : registry = dispatcher.sender.registry := Option.some.inj alike
      obtain ⟨_, handled, payload, _, rfl⟩ := EnqueueRequest.of_record_ok made
      apply Site.answer_deliver_handled
      rw [same.aggregateType]
      exact alike ▸ handled

/-- Enqueuing is checked, faithful and leaves no trace when it fails.

In every unit of work an event is enqueued exactly when its name is not blank, its kind has a
handler and its object has a snapshot, and then a single record, pending and created and updated at
once, is staged after what was staged before; otherwise it is refused for the first thing that it
lacks.

In every office, whatever its producers and all others do, a unit of work stages what is enqueued in
it and nothing else, and the store and all the rest do not notice before it is committed. Changes of
an object make no difference to anything after its last snapshot, and a stored record stays as it
is, but for becoming sent, until it expires.

So whatever is staged or stored was supplied as it is, with the object as it was then, and whoever
delivers an enqueued record with the handlers with which it was enqueued does not miss one. -/
theorem enqueued_for_good :
    (∀ (work : UnitOfWork) (registry : Registry) (request : EnqueueRequest) (id : Identifier)
      (now : Timestamp), work.EnqueuesExactly registry request id now) ∧
    (∀ (office : Office Object) (acts : List (Act Object)), office.Keeps serialize acts) ∧
    ∀ (dispatchers : List Dispatcher) (objects : Nat → Object) (acts : List (Act Object)),
      Traces serialize dispatchers objects acts := by
  refine ⟨?_, ?_, ?_⟩
  · intro work registry request id now
    exact work.enqueuesExactly registry request id now
  · intro office acts
    exact office.keeps serialize acts
  · intro dispatchers objects acts
    exact traces serialize dispatchers objects acts

/-- The news that a product, which is the first object, has a new name. -/
def renamed : Notice where
  aggregateType := .product
  aggregate := .ofNumber 12
  byUser := .ofNumber 13
  eventName := " renamed"
  extraMetadata := .ofList [("traceId", .string "abc")]
  subject := 0

/-- The product under its new name. -/
def bread : Json := .object [("name", .string "Bread")]

/-- An office with an open unit of work, where all objects are JSON and the same. -/
def bakery : Office Json :=
  (opened [] fun _ => bread).perform .ok (.elsewhere (.begin 0))

/-- The news are enqueued, the product is dropped, and an event without a name is refused. -/
def breadActs : List (Act Json) :=
  [.enqueue 0 Sender.plain.registry renamed (.ofNumber 11) default,
    .change 0 .null,
    .enqueue 0 Sender.plain.registry { renamed with eventName := "\t " } (.ofNumber 14) default]

/-- The record of the product as it was when the news were enqueued. -/
def breadRecord : EventRecord :=
  (renamed.request (.ok bread)).recordOf bread (.ofNumber 11) default

/-- The unit of work has staged the product as it was, this is what is stored with a commit, and no
delivery of it lacks a handler. -/
theorem bread_enqueued_for_good :
    bakery.cluster.works 0 = some .begin ∧ (∀ act ∈ breadActs, act.bounds 0 = false) ∧
      (bakery.run .ok breadActs).cluster.works 0 = some ⟨[breadRecord]⟩ ∧
      ((bakery.run .ok breadActs).perform .ok (.elsewhere (.commit 0))).cluster.records.find?
        breadRecord.id = some breadRecord ∧
      ∀ (site : Site) (names : CategoryNames) (missing : RegistryError),
        (site.answer ⟨.plain, names, default⟩ (.deliver breadRecord)).1 ≠
          .error (.missingHandler missing) := by
  obtain ⟨exactly, keeps, _⟩ := enqueued_for_good (.ok : Json → Except String Json)
  have within : ∀ act ∈ breadActs, act.bounds 0 = false := by simp [breadActs, Act.bounds]
  have begun : bakery.cluster.works 0 = some .begin := rfl
  have staged := (keeps bakery breadActs).staged begun within
  have enqueued : UnitOfWork.begin.enqueue Sender.plain.registry (renamed.request (.ok bread))
      (.ofNumber 11) default = .ok (breadRecord, ⟨[breadRecord]⟩) := rfl
  refine ⟨begun, within, staged, rfl, ?_⟩
  intro site names missing
  exact (exactly .begin _ _ _ _).handled enqueued (.refl breadRecord) rfl site missing

end Office

end Outbox
