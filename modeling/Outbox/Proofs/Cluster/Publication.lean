import Mathlib.Data.List.Permutation
import Outbox.Proofs.Cluster.Permanence

/-!
# Sent records were published

When a record is stored as sent, the broker has accepted its message. This holds in every state that
a cluster can reach: several runs may be under way at once and work on records that others have
changed since, a run may be broken off anywhere, any call of the store and any delivery may fail,
and the store may remove records in between.

The state alone does not say why a record became sent, so the invariant `Accounted` speaks about the
moves that led to it. It accounts for every stored record that is sent, and for what every run under
way has loaded and delivered so far: each of these records was once stored, and each acknowledged
one was delivered in one of the moves.
-/

namespace Outbox

open Calendar

/-- Whether two records stand for the same event, so that they differ at most in their status and in
the moment of their last change. -/
def EventRecord.SameEvent (record other : EventRecord) : Prop :=
  other = { record with status := other.status, updated := other.updated }

/-- A record that continues another one stands for the same event. -/
theorem EventRecord.SameEvent.of_continues {record origin other : EventRecord}
    (same : record.SameEvent origin) (continues : origin.Continues other) :
    record.SameEvent other := by
  rw [SameEvent] at same ⊢
  rcases continues with rfl | ⟨_, moment, rfl⟩
  · exact same
  · rw [same]

namespace Cluster

/-- Whether records come in only as pending with a move. -/
def Move.AdmitsPending : Move → Prop
  | .save record => record.status = .pending
  | .insert _ record => record.status = .pending
  | _ => True

/-- Whether a record was stored at the beginning, after one of the moves or at the end. -/
def Seen (dispatchers : List Dispatcher) (moves : List Move) (record : EventRecord) : Prop :=
  ∃ done, done <+: moves ∧
    ((opened dispatchers).run done).records.find? record.id = some record

/-- Whether the next request of a run is to deliver a record, and the delivery succeeds with an
envelope under the category names of the moment. -/
structure Delivers (cluster : Cluster) (number : Nat) (names : CategoryNames)
    (dispatcher : Dispatcher) (record : EventRecord) (envelope : Envelope) : Prop where
  waiting : ∃ next, cluster.tasks number = some ⟨dispatcher, .ask (.deliver record) next⟩
  accepted : cluster.site.verdict (dispatcher.sending names) record = .ok envelope

/-- Whether one of the moves has delivered a record. -/
def Delivered (dispatchers : List Dispatcher) (moves : List Move) (record : EventRecord) : Prop :=
  ∃ earlier number names later dispatcher envelope,
    moves = earlier ++ .advance number names :: later ∧ dispatcher ∈ dispatchers ∧
    ((opened dispatchers).run earlier).Delivers number names dispatcher record envelope

/-- Whether a run under way belongs to a dispatcher of the cluster, goes on in an orderly way with
what it has loaded and delivered so far, and was answered truly. -/
def TaskAccounted (dispatchers : List Dispatcher) (moves : List Move) (task : Task) : Prop :=
  task.dispatcher ∈ dispatchers ∧ ∃ loaded acknowledged, task.run.Orderly loaded acknowledged ∧
    (∀ record ∈ loaded, Seen dispatchers moves record) ∧
    ∀ record ∈ acknowledged, Seen dispatchers moves record ∧ Delivered dispatchers moves record

/-- Whether every run under way is accounted for. -/
def TasksAccounted (dispatchers : List Dispatcher) (moves : List Move) : Prop :=
  ∀ number task, ((opened dispatchers).run moves).tasks number = some task →
    TaskAccounted dispatchers moves task

/-- What the moves so far account for: every run under way, and every stored record that is sent.
Such a record need not be the one that was delivered, but one under its identifier was. -/
structure Accounted (dispatchers : List Dispatcher) (moves : List Move) : Prop where
  tasks : ∀ number task, ((opened dispatchers).run moves).tasks number = some task →
    TaskAccounted dispatchers moves task
  sent : ∀ event record, ((opened dispatchers).run moves).records.find? event = some record →
    record.status = .sent → ∃ delivered, delivered.id = event ∧
      Seen dispatchers moves delivered ∧ Delivered dispatchers moves delivered

section

variable {dispatchers : List Dispatcher} {moves : List Move}

/-! ## What stays true with more moves -/

/-- A record that has come in has come in, whatever happens later. -/
theorem Seen.append {record : EventRecord} (seen : Seen dispatchers moves record)
    (more : List Move) : Seen dispatchers (moves ++ more) record := by
  obtain ⟨done, initial, found⟩ := seen
  exact ⟨done, initial.trans (List.prefix_append moves more), found⟩

/-- A record that has been delivered has been delivered, whatever happens later. -/
theorem Delivered.append {record : EventRecord} (delivered : Delivered dispatchers moves record)
    (more : List Move) : Delivered dispatchers (moves ++ more) record := by
  obtain ⟨earlier, number, names, later, dispatcher, envelope, rfl, member, delivers⟩ := delivered
  refine ⟨earlier, number, names, later ++ more, dispatcher, envelope, ?_, member, delivers⟩
  rw [List.append_assoc, List.cons_append]

/-- What a run owes is accounted for by earlier moves, and later ones take nothing away from it. -/
theorem TaskAccounted.append {task : Task} (accounted : TaskAccounted dispatchers moves task)
    (more : List Move) : TaskAccounted dispatchers (moves ++ more) task := by
  obtain ⟨member, loaded, acknowledged, orderly, loadedSeen, accountedFor⟩ := accounted
  refine ⟨member, loaded, acknowledged, orderly, ?_, ?_⟩
  · intro record inside
    exact (loadedSeen record inside).append more
  · intro record inside
    obtain ⟨seen, delivered⟩ := accountedFor record inside
    exact ⟨seen.append more, delivered.append more⟩

/-- A record that is stored now has been seen. -/
theorem Seen.of_stored {record : EventRecord}
    (stored : ((opened dispatchers).run moves).records.find? record.id = some record) :
    Seen dispatchers moves record :=
  ⟨moves, List.prefix_rfl, stored⟩

/-! ## Runs under way -/

/-- A cluster keeps its dispatchers. -/
theorem dispatchers_perform (cluster : Cluster) (move : Move) :
    (cluster.perform move).dispatchers = cluster.dispatchers := by
  cases move with
  | start number dispatcher isLeader now =>
    rw [perform]
    cases cluster.dispatchers[dispatcher]? <;> rfl
  | advance number names =>
    rw [perform]
    rcases cluster.tasks number with _ | ⟨dispatcher, _ | ⟨request, next⟩⟩ <;> rfl
  | commit work =>
    rw [perform]
    cases cluster.works work <;> rfl
  | _ => rfl

/-- No move changes who the dispatchers are. -/
theorem dispatchers_run (cluster : Cluster) (moves : List Move) :
    (cluster.run moves).dispatchers = cluster.dispatchers := by
  induction moves generalizing cluster with
  | nil => rfl
  | cons move moves inductionHypothesis =>
    rw [run_cons, inductionHypothesis, dispatchers_perform]

/-- A run under way was under way before a move, has just begun, or has just been answered. In the
last case it is what followed the answer. -/
theorem task_perform (cluster : Cluster) (move : Move) {number : Nat} {task : Task}
    (found : (cluster.perform move).tasks number = some task) :
    cluster.tasks number = some task ∨
      (task.dispatcher ∈ cluster.dispatchers ∧
        ∃ isLeader now, task.run = Run.tick task.dispatcher.policy isLeader now) ∨
      ∃ names request next, move = .advance number names ∧
        cluster.tasks number = some ⟨task.dispatcher, .ask request next⟩ ∧
        task.run = next (cluster.site.answer (task.dispatcher.sending names) request).1 := by
  cases move with
  | start other index isLeader now =>
    rw [perform] at found
    cases known : cluster.dispatchers[index]? with
    | none =>
      rw [known] at found
      exact Or.inl found
    | some dispatcher =>
      simp only [known] at found
      by_cases same : number = other
      · rw [same, Function.update_self] at found
        obtain rfl := Option.some.inj found
        exact Or.inr (Or.inl ⟨List.mem_of_getElem? known, isLeader, now, rfl⟩)
      · rw [Function.update_of_ne same] at found
        exact Or.inl found
  | advance other names =>
    rw [perform] at found
    rcases waiting : cluster.tasks other with _ | ⟨dispatcher, outcome | ⟨request, next⟩⟩
    · rw [waiting] at found
      exact Or.inl found
    · rw [waiting] at found
      exact Or.inl found
    · simp only [waiting, resume] at found
      by_cases same : number = other
      · subst same
        rw [Function.update_self] at found
        obtain rfl := Option.some.inj found
        exact Or.inr (Or.inr ⟨names, request, next, rfl, waiting, rfl⟩)
      · rw [Function.update_of_ne same] at found
        exact Or.inl found
  | commit work =>
    rw [perform] at found
    left
    cases staged : cluster.works work with
    | none => simpa [staged] using found
    | some unit => simpa [staged] using found
  | _ => exact Or.inl found

/-- The records that a run loads are stored at that moment. From then on the run holds copies of
them. -/
theorem stored_of_loads (site : Site) (sending : Sending) (request : Request) (record : EventRecord)
    (loaded : record ∈ request.loads (site.answer sending request).1) :
    site.store.records.find? record.id = some record := by
  cases request with
  | loadPending =>
    change record ∈ Request.loads .loadPending (site.call (.findByStatus .pending)).1 at loaded
    rcases site.call_cases (.findByStatus .pending) with
      ⟨error, faults, failed⟩ | ⟨faults, answered⟩
    · rw [failed] at loaded
      cases loaded
    · rw [answered] at loaded
      change record ∈ Request.loads .loadPending (site.store.findByStatus .pending) at loaded
      cases found : site.store.findByStatus .pending with
      | error error =>
        rw [found] at loaded
        cases loaded
      | ok records =>
        rw [found] at loaded
        have member := (MemoryStore.mem_of_findByStatus found record).mp loaded
        exact Table.find?_of_mem member.1
  | _ => cases loaded

/-- The record that an answer acknowledges is the one that was to be delivered, and its delivery was
accepted. -/
theorem verdict_of_acknowledges (site : Site) (sending : Sending) (request : Request)
    (record : EventRecord)
    (acknowledged : record ∈ request.acknowledges (site.answer sending request).1) :
    request = .deliver record ∧ ∃ envelope, site.verdict sending record = .ok envelope := by
  cases request with
  | deliver other =>
    rw [Site.answer_deliver] at acknowledged
    cases decided : site.verdict sending other with
    | error error =>
      rw [decided] at acknowledged
      cases acknowledged
    | ok envelope =>
      rw [decided] at acknowledged
      have same : record = other := List.mem_singleton.mp acknowledged
      rw [same]
      exact ⟨rfl, envelope, decided⟩
  | _ => cases acknowledged

/-- A run that has just been answered is accounted for: what it has just loaded is stored, and what
has just been acknowledged was delivered by this move. -/
theorem taskAccounted_advance (accounted : TasksAccounted dispatchers moves) {number : Nat}
    {names : CategoryNames} {dispatcher : Dispatcher} {request : Request}
    {next : request.Answer → Run}
    (waiting : ((opened dispatchers).run moves).tasks number =
      some ⟨dispatcher, .ask request next⟩) :
    TaskAccounted dispatchers (moves ++ [.advance number names])
      ⟨dispatcher, next (((opened dispatchers).run moves).site.answer
        (dispatcher.sending names) request).1⟩ := by
  obtain ⟨member, loaded, acknowledged, orderly, loadedSeen, accountedFor⟩ :=
    accounted number _ waiting
  refine ⟨member, _, _, Run.orderly_resume orderly _, ?_, ?_⟩
  · intro record inside
    rcases List.mem_append.mp inside with earlier | latest
    · exact (loadedSeen record earlier).append _
    · exact (Seen.of_stored (stored_of_loads _ _ request record latest)).append _
  · intro record inside
    rcases List.mem_append.mp inside with earlier | latest
    · obtain ⟨seen, delivered⟩ := accountedFor record earlier
      exact ⟨seen.append _, delivered.append _⟩
    · obtain ⟨rfl, envelope, accepted⟩ := verdict_of_acknowledges _ _ request record latest
      -- The record that a run delivers is one that it has loaded.
      have grounded : record ∈ loaded := orderly.1
      exact ⟨(loadedSeen record grounded).append _, moves, number, names, [], dispatcher, envelope,
        rfl, member, ⟨next, waiting⟩, accepted⟩

/-- Every run under way stays accounted for. -/
theorem TasksAccounted.perform (accounted : TasksAccounted dispatchers moves) (move : Move) :
    TasksAccounted dispatchers (moves ++ [move]) := by
  intro number task found
  rw [run_append] at found
  rcases task_perform ((opened dispatchers).run moves) move found with
    before | ⟨member, isLeader, now, begun⟩ | ⟨names, request, next, rfl, waiting, resumed⟩
  · exact (accounted number task before).append [move]
  · refine ⟨?_, [], [], ?_, ?_, ?_⟩
    · rw [dispatchers_run] at member
      exact member
    · rw [begun]
      exact Run.orderly_tick _ isLeader now
    · intro record inside
      cases inside
    · intro record inside
      cases inside
  · obtain ⟨dispatcher, run⟩ := task
    have same : run = _ := resumed
    rw [same]
    exact taskAccounted_advance accounted waiting

/-- Every run under way is accounted for, whatever producers supply.

Induct over the moves from the last one backward. -/
theorem tasksAccounted_run (dispatchers : List Dispatcher) (moves : List Move) :
    TasksAccounted dispatchers moves := by
  induction moves using List.reverseRecOn with
  | nil =>
    intro number task found
    cases found
  | append_singleton moves move inductionHypothesis => exact inductionHypothesis.perform move

/-! ## Sent records -/

/-- What a move brings in is pending when every producer supplies pending records only. -/
theorem pending_of_arriving (admits : ∀ move ∈ moves, move.AdmitsPending) {move : Move}
    (admitsNow : move.AdmitsPending) {record : EventRecord}
    (arrives : record ∈ ((opened dispatchers).run moves).arriving move) :
    record.status = .pending := by
  rcases arriving_was_supplied dispatchers moves move arrives with rfl | ⟨work, _, inserted⟩
  · exact admitsNow
  · exact admits _ inserted

/-- Every stored record that is sent stays accounted for. It was sent before, or a run has just
reported it: then the run is orderly, so the record that it reports was acknowledged. -/
theorem accounted_sent (accounted : Accounted dispatchers moves)
    (admits : ∀ move ∈ moves, move.AdmitsPending) {move : Move} (admitsNow : move.AdmitsPending)
    (event : Identifier) (record : EventRecord)
    (stored : ((opened dispatchers).run (moves ++ [move])).records.find? event = some record)
    (sent : record.status = .sent) :
    ∃ delivered, delivered.id = event ∧ Seen dispatchers (moves ++ [move]) delivered ∧
      Delivered dispatchers (moves ++ [move]) delivered := by
  have formerly : ((opened dispatchers).run moves).records.find? event = some record →
      ∃ delivered, delivered.id = event ∧ Seen dispatchers (moves ++ [move]) delivered ∧
        Delivered dispatchers (moves ++ [move]) delivered := by
    intro before
    obtain ⟨former, same, seen, delivered⟩ := accounted.sent event record before sent
    exact ⟨former, same, seen.append _, delivered.append _⟩
  rw [run_append] at stored
  change (((opened dispatchers).run moves).perform move).records.find? event = some record
    at stored
  have step := recordStep_perform ((opened dispatchers).run moves) move
  cases step with
  | kept _ records =>
    rw [records] at stored
    exact formerly stored
  | entered _ _ records =>
    rw [records, Table.find?_putAll] at stored
    rcases Option.or_eq_some_iff.mp stored with arrived | ⟨_, before⟩
    · have arrives : record ∈ ((opened dispatchers).run moves).arriving move :=
        List.mem_reverse.mp (List.mem_of_find?_eq_some arrived)
      have pending : record.status = .pending := pending_of_arriving admits admitsNow arrives
      rw [pending] at sent
      cases sent
    · exact formerly before
  | published number names dispatcher reported moment next changed waiting found _ records =>
    rw [records, Table.find?_put] at stored
    have reportedSame : changed.id = reported := Table.key_of_find? found
    by_cases same : event = changed.id
    · obtain ⟨_, loaded, acknowledged, orderly, _, accountedFor⟩ :=
        accounted.tasks number _ waiting
      obtain ⟨delivered, inside, named⟩ := orderly.1
      obtain ⟨seen, wasDelivered⟩ := accountedFor delivered inside
      have named' : delivered.id = event := named.trans (reportedSame.symm.trans same.symm)
      exact ⟨delivered, named', seen.append _, wasDelivered.append _⟩
    · exact formerly ((if_neg same).symm.trans stored)
  | expired _ _ _ _ records =>
    rw [records, Table.find?_filter] at stored
    exact formerly (Option.filter_eq_some_iff.mp stored).1

/-- Everything is accounted for in every run of a cluster in which records come in as pending.

Induct over the moves from the last one backward. -/
theorem accounted_run (dispatchers : List Dispatcher) (moves : List Move)
    (admits : ∀ move ∈ moves, move.AdmitsPending) : Accounted dispatchers moves := by
  induction moves using List.reverseRecOn with
  | nil =>
    constructor
    · exact tasksAccounted_run dispatchers []
    · intro event record stored
      cases stored
  | append_singleton moves move inductionHypothesis =>
    have earlierAdmit : ∀ other ∈ moves, other.AdmitsPending := by
      intro other member
      exact admits other (List.mem_append_left _ member)
    have accounted := inductionHypothesis earlierAdmit
    constructor
    · exact tasksAccounted_run dispatchers (moves ++ [move])
    · exact accounted_sent accounted earlierAdmit
        (admits move (List.mem_append_right _ List.mem_cons_self))

end

/-! ## Published envelopes -/

/-- A delivery publishes its envelope at once. -/
theorem Delivers.published {cluster : Cluster} {number : Nat} {names : CategoryNames}
    {dispatcher : Dispatcher} {record : EventRecord} {envelope : Envelope}
    (delivers : cluster.Delivers number names dispatcher record envelope) :
    (cluster.perform (.advance number names)).published = cluster.published ++ [envelope] := by
  obtain ⟨⟨next, waiting⟩, accepted⟩ := delivers
  rw [perform, waiting]
  change (cluster.site.answer (dispatcher.sending names) (.deliver record)).2.broker.published = _
  rw [Site.answer_deliver, accepted]
  rfl

/-- No move takes a published envelope back. Only a run that delivers a record adds one. -/
theorem published_perform (cluster : Cluster) (move : Move) :
    cluster.published <+: (cluster.perform move).published := by
  have same {other : Cluster} (equal : other.site.broker = cluster.site.broker) :
      cluster.published <+: other.published := by
    have unchanged : other.published = cluster.published :=
      congrArg MemoryBroker.published equal
    exact unchanged ▸ List.prefix_rfl
  cases move with
  | start number dispatcher isLeader now =>
    rw [perform]
    cases cluster.dispatchers[dispatcher]? <;> exact same rfl
  | advance number names =>
    rw [perform]
    rcases waiting : cluster.tasks number with _ | ⟨dispatcher, _ | ⟨request, next⟩⟩
    · exact same rfl
    · exact same rfl
    · cases request with
      | deliver record =>
        cases decided : cluster.site.verdict (dispatcher.sending names) record with
        | error error =>
          apply same
          change (cluster.site.answer _ (.deliver record)).2.broker = _
          rw [Site.answer_deliver, decided]
        | ok envelope =>
          have grown := Delivers.published ⟨⟨next, waiting⟩, decided⟩
          rw [perform, waiting] at grown
          change cluster.published <+: (cluster.resume _ _ _ _ _).published
          rw [grown]
          exact List.prefix_append _ _
      | _ => exact same (Site.broker_call _ _)
  | retain isLeader span now =>
    apply same
    change (cluster.site.retainKeeping isLeader span now).2.broker = _
    rcases cluster.site.retainKeeping_cases isLeader span now with idle | ⟨_, cutoff, _, deleting⟩
    · rw [idle]
    · rw [deleting]
      exact Site.broker_call _ _
  | save record => exact same (Site.broker_call _ _)
  | requeue event now => exact same (Site.broker_call _ _)
  | commit work =>
    rw [perform]
    cases cluster.works work <;> exact same rfl
  | disturb faults available outage failing latency =>
    change cluster.published <+: cluster.published
    exact List.prefix_rfl
  | begin work => exact same rfl
  | insert work record => exact same rfl
  | abandon work => exact same rfl

/-- What is published stays published, in its order. Moves only add to the end. -/
theorem published_run (cluster : Cluster) (moves : List Move) :
    cluster.published <+: (cluster.run moves).published := by
  induction moves generalizing cluster with
  | nil => exact List.prefix_rfl
  | cons move moves inductionHypothesis =>
    exact (published_perform cluster move).trans (inductionHypothesis (cluster.perform move))

/-- Every record that is ever stored under an identifier stands for one event when producers supply
only that event under it. -/
theorem sameEvent_of_supplied (dispatchers : List Dispatcher) (moves : List Move)
    (event : Identifier) (record : EventRecord)
    (supplied : ∀ origin, origin.id = event →
      Move.save origin ∈ moves ∨ (∃ work, Move.insert work origin ∈ moves) →
      record.SameEvent origin)
    (other : EventRecord) (seen : Seen dispatchers moves other) (named : other.id = event) :
    record.SameEvent other := by
  obtain ⟨done, ⟨rest, rfl⟩, found⟩ := seen
  obtain ⟨earlier, entry, since, origin, rfl, _, brought, _, continues⟩ :=
    entered_and_stayed dispatchers done found
  have originNamed : origin.id = other.id := by simpa using List.find?_some brought
  have arrives : origin ∈ ((opened dispatchers).run earlier).arriving entry :=
    List.mem_reverse.mp (List.mem_of_find?_eq_some brought)
  have fromProducer : Move.save origin ∈ earlier ++ entry :: since ++ rest ∨
      ∃ work, Move.insert work origin ∈ earlier ++ entry :: since ++ rest := by
    rcases arriving_was_supplied dispatchers earlier entry arrives with rfl | ⟨work, _, inserted⟩
    · left
      simp
    · right
      exact ⟨work, by simp [inserted]⟩
  exact (supplied origin (originNamed.trans named) fromProducer).of_continues continues

/-- One of the moves was a delivery of a record by one of the dispatchers. It put an envelope at the
end of what was published, where the envelope has been since. The envelope holds the identifier, the
event name and the metadata of the record, and what the handler of that dispatcher makes of its
payload under the category names of that moment. -/
def PublishedAs (dispatchers : List Dispatcher) (moves : List Move) (record : EventRecord)
    (envelope : Envelope) : Prop :=
  ∃ earlier number names later dispatcher handler prepared,
    moves = earlier ++ .advance number names :: later ∧ dispatcher ∈ dispatchers ∧
    ((opened dispatchers).run (earlier ++ [.advance number names])).published =
      ((opened dispatchers).run earlier).published ++ [envelope] ∧
    envelope ∈ ((opened dispatchers).run moves).published ∧
    dispatcher.sender.registry.resolve record.aggregateType = .ok handler ∧
    handler.prepare names record.payload = .ok prepared ∧
    envelope = {
      routingKey := prepared.partitionKey
      eventName := record.eventName
      payload := prepared.payload
      metadata := mergeMetadata dispatcher.sender.producer prepared.version record.extraMetadata
      eventId := record.id }

/-- What has been delivered was published, as the envelope that was made of it then. Later category
names make no difference to it. -/
theorem Delivered.publishedAs {dispatchers : List Dispatcher} {moves : List Move}
    {record : EventRecord} (delivered : Delivered dispatchers moves record) :
    ∃ envelope, PublishedAs dispatchers moves record envelope := by
  obtain ⟨earlier, number, names, later, dispatcher, envelope, split, member, delivers⟩ := delivered
  have made := ((Site.verdict_ok_iff _ _ _ _).mp delivers.accepted).1
  obtain ⟨handler, prepared, resolved, accepted, filled⟩ :=
    (dispatcher.sender.envelope_ok_iff names record envelope).mp made
  have grown : ((opened dispatchers).run (earlier ++ [.advance number names])).published =
      ((opened dispatchers).run earlier).published ++ [envelope] := by
    rw [run_append]
    exact delivers.published
  have inside : envelope ∈ ((opened dispatchers).run moves).published := by
    have kept := published_run
      ((opened dispatchers).run (earlier ++ [.advance number names])) later
    rw [← run_append, List.append_assoc, List.singleton_append, ← split, grown] at kept
    exact kept.mem (List.mem_append_right _ List.mem_cons_self)
  exact ⟨envelope, earlier, number, names, later, dispatcher, handler, prepared, split, member,
    grown, inside, resolved, accepted, filled⟩

/-- Records that stand for the same event are published as the same envelopes. -/
theorem PublishedAs.of_sameEvent {dispatchers : List Dispatcher} {moves : List Move}
    {record other : EventRecord} {envelope : Envelope}
    (published : PublishedAs dispatchers moves other envelope) (same : record.SameEvent other) :
    PublishedAs dispatchers moves record envelope := by
  rw [EventRecord.SameEvent] at same
  rw [same] at published
  exact published

/-- A record that is stored as sent has been published, in every state of every cluster in which
records come in as pending.

What was published under its identifier is some record that was once stored under it. When all of
these stand for one event, it is the record itself.

The identifier has to name one event for as long as anything is remembered of it: a run that has
loaded a record may deliver it after retention has removed it, and then report whatever record has
taken its identifier. -/
theorem sent_was_published (dispatchers : List Dispatcher) (moves : List Move)
    (event : Identifier) (record : EventRecord)
    (admits : ∀ move ∈ moves, move.AdmitsPending)
    (stored : ((opened dispatchers).run moves).records.find? event = some record)
    (sent : record.status = .sent) :
    (∃ origin envelope, origin.id = event ∧ Seen dispatchers moves origin ∧
      PublishedAs dispatchers moves origin envelope) ∧
    ((∀ other, Seen dispatchers moves other → other.id = event → record.SameEvent other) →
      ∃ envelope, PublishedAs dispatchers moves record envelope) := by
  obtain ⟨origin, named, seen, delivered⟩ :=
    (accounted_run dispatchers moves admits).sent event record stored sent
  obtain ⟨envelope, published⟩ := delivered.publishedAs
  constructor
  · exact ⟨origin, envelope, named, seen, published⟩
  · intro oneEvent
    exact ⟨envelope, published.of_sameEvent (oneEvent origin seen named)⟩

/-- Three records come in, two of them together, and two runs load them all. Both deliver the first
one before the second run reports it as sent. The first run fails to report it once more, and the
second one has just delivered the second record. -/
def overlappingRuns : List Move :=
  let ask (number : Nat) : Move := .advance number fun _ => none
  [.save (.numbered 1), .begin 5, .insert 5 (.numbered 2), .insert 5 (.numbered 3), .commit 5,
    .start 0 0 true default, ask 0, ask 0, .start 1 0 true default, ask 1, ask 1,
    ask 0, ask 1, ask 1, ask 0, ask 1]

/-- The first of the records is sent and was published as what it is, even twice. The second one was
published and still counts as pending, as does the third one. -/
theorem first_record_published :
    ((opened [plainDispatcher]).run overlappingRuns).records.rows.map EventRecord.status =
        [.sent, .pending, .pending] ∧
      ((opened [plainDispatcher]).run overlappingRuns).published.map Envelope.eventId =
        [⟨1, by decide⟩, ⟨1, by decide⟩, ⟨2, by decide⟩] ∧
      ∃ envelope, PublishedAs [plainDispatcher] overlappingRuns
        { EventRecord.numbered 1 with status := .sent } envelope := by
  have stored : ((opened [plainDispatcher]).run overlappingRuns).records.find? ⟨1, by decide⟩ =
      some { EventRecord.numbered 1 with status := .sent } := by cbv
  have admits : ∀ move ∈ overlappingRuns, move.AdmitsPending := by
    simp [overlappingRuns, Move.AdmitsPending, EventRecord.numbered]
  have oneEvent : ∀ other, Seen [plainDispatcher] overlappingRuns other →
      other.id = ⟨1, by decide⟩ →
        EventRecord.SameEvent { EventRecord.numbered 1 with status := .sent } other := by
    apply sameEvent_of_supplied
    intro origin named supplied
    have known : origin = .numbered 1 ∨
        ∃ work, work = 5 ∧ origin = .numbered 2 ∨ work = 5 ∧ origin = .numbered 3 := by
      simpa [overlappingRuns] using supplied
    rcases known with rfl | ⟨_, ⟨_, rfl⟩ | ⟨_, rfl⟩⟩
    · rfl
    · exact absurd named (by decide)
    · exact absurd named (by decide)
  refine ⟨by cbv, by cbv, ?_⟩
  exact (sent_was_published [plainDispatcher] overlappingRuns _ _ admits stored rfl).2 oneEvent

/-- Two runs load a record, the second one delivers and reports it, retention removes it two minutes
later, and another record comes in under its identifier. The first run then delivers what it has
loaded and reports the other record, which nobody has delivered. -/
def reusedIdentifier : List Move :=
  let ask (number : Nat) : Move := .advance number fun _ => none
  let later : Timestamp := ⟨120, 0, by decide⟩
  [.save (.numbered 1), .start 0 0 true default, ask 0, ask 0,
    .start 1 0 true default, ask 1, ask 1, ask 1, ask 1,
    .retain true 0 later, .save { EventRecord.numbered 1 with eventName := "approved" },
    ask 0, ask 0]

/-- Records come in as pending only, and dispatchers alone change what becomes of them. Yet a record
is stored as sent, and no envelope under its identifier carries its event name. -/
theorem reused_identifier_not_published :
    (∀ move ∈ reusedIdentifier, move.AdmitsPending) ∧
      ∃ record, ((opened [plainDispatcher]).run reusedIdentifier).records.find? ⟨1, by decide⟩ =
          some record ∧
        record.status = .sent ∧
        ¬ ∃ envelope ∈ ((opened [plainDispatcher]).run reusedIdentifier).published,
          envelope.eventId = record.id ∧ envelope.eventName = record.eventName := by
  have held : (((opened [plainDispatcher]).run reusedIdentifier).records.find?
      ⟨1, by decide⟩).map (fun record => (record.status, record.eventName)) =
        some (.sent, "approved") := by decide +kernel
  have named : ((opened [plainDispatcher]).run reusedIdentifier).published.map
      Envelope.eventName = ["renamed", "renamed"] := by decide +kernel
  obtain ⟨record, stored, same⟩ := Option.map_eq_some_iff.mp held
  obtain ⟨sent, approved⟩ := Prod.mk.inj same
  refine ⟨?_, record, stored, sent, ?_⟩
  · simp [reusedIdentifier, Move.AdmitsPending, EventRecord.numbered]
  · rintro ⟨envelope, inside, _, called⟩
    have listed := List.mem_map_of_mem (f := Envelope.eventName) inside
    rw [named, called, approved] at listed
    simp at listed

end Cluster

end Outbox
