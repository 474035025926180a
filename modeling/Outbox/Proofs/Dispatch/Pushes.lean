import Mathlib.Data.List.Permutation
import Outbox.Database.Site
import Outbox.Proofs.Dispatch.Exchange
import Outbox.Proofs.Envelope
import Outbox.Proofs.Site

/-!
# What a dispatcher pushes

A dispatcher works with a store, a broker and the category names of the moment. At a `Workplace` all
three may do anything: every request may fail, and the broker may take an envelope, reject it or not
answer in time. What the dispatcher hands to the broker is nevertheless its own: an envelope that
its sender has made, under the name of this sender. A broker that notes what it is handed sees no
other one, and neither of the two kinds of sites comes to hold another one.
-/

namespace Outbox

open Calendar

/-- What a dispatcher works with. The store answers all requests but deliveries, for which envelopes
are pushed to the broker. -/
structure Workplace (World : Type) where
  ask : World → (request : Request) → request.Answer × World
  push : World → Envelope → Except PushError Unit × World
  names : World → CategoryNames

/-- An envelope names its sender as the producer. -/
theorem Sender.producer?_of_envelope {sender : Sender} {names : CategoryNames}
    {record : EventRecord} {envelope : Envelope}
    (made : sender.envelope names record = .ok envelope) :
    envelope.producer? = some sender.producer := by
  obtain ⟨handler, prepared, _, _, rfl⟩ := (sender.envelope_ok_iff names record envelope).mp made
  exact Envelope.producer?_of_merged rfl

namespace Workplace

variable {World : Type}

/-- The answers that a run gets when a sender carries out its deliveries. -/
def answer (workplace : Workplace World) (sender : Sender) (world : World) :
    (request : Request) → request.Answer × World
  | .deliver record =>
    match sender.envelope (workplace.names world) record with
    | .error error => (.error error, world)
    | .ok envelope =>
      let (reply, world) := workplace.push world envelope
      (reply.mapError .push, world)
  | request => workplace.ask world request

/-- The workplace with a note of every envelope that is handed to the broker, whatever the broker
does with it. -/
def noting (workplace : Workplace World) : Workplace (World × List Envelope) where
  ask noted request :=
    let (reply, world) := workplace.ask noted.1 request
    (reply, world, noted.2)
  push noted envelope :=
    let (reply, world) := workplace.push noted.1 envelope
    (reply, world, noted.2 ++ [envelope])
  names noted := workplace.names noted.1

variable (workplace : Workplace World) (sender : Sender)

/-- A delivery for which there is no envelope does not reach the broker. -/
theorem answer_of_error {world : World} {record : EventRecord} {error : DispatchError}
    (failed : sender.envelope (workplace.names world) record = .error error) :
    workplace.answer sender world (.deliver record) = (.error error, world) := by
  rw [answer, failed]

/-- A delivery pushes the envelope that its sender makes. -/
theorem answer_of_ok {world : World} {record : EventRecord} {envelope : Envelope}
    (made : sender.envelope (workplace.names world) record = .ok envelope) :
    workplace.answer sender world (.deliver record) =
      ((workplace.push world envelope).1.mapError .push, (workplace.push world envelope).2) := by
  rw [answer, made]
  rfl

/-- Taking notes changes nothing else. -/
theorem answer_noting (noted : World × List Envelope) (request : Request) :
    (workplace.noting.answer sender noted request).1 =
        (workplace.answer sender noted.1 request).1 ∧
      (workplace.noting.answer sender noted request).2.1 =
        (workplace.answer sender noted.1 request).2 := by
  cases request with
  | deliver record =>
    cases made : sender.envelope (workplace.names noted.1) record with
    | error error =>
      rw [answer_of_error workplace sender made, answer_of_error workplace.noting sender made]
      exact ⟨rfl, rfl⟩
    | ok envelope =>
      rw [answer_of_ok workplace sender made, answer_of_ok workplace.noting sender made]
      exact ⟨rfl, rfl⟩
  | _ => exact ⟨rfl, rfl⟩

/-- A run with notes ends as the run without them. -/
theorem execute_noting (run : Run) (noted : World × List Envelope) :
    let ended := run.execute (workplace.noting.answer sender) noted
    (ended.1, ended.2.1) = run.execute (workplace.answer sender) noted.1 := by
  induction run generalizing noted with
  | done outcome => rfl
  | ask request resume inductionHypothesis =>
    obtain ⟨reply, world⟩ := answer_noting workplace sender noted request
    rw [Run.execute_ask, Run.execute_ask, ← reply, ← world]
    exact inductionHypothesis _ _

/-- What the store keeps, and what the broker keeps whenever it is handed an envelope of the sender,
is kept by a whole run. -/
theorem kept_by_execute (keeps : World → Prop)
    (asked : ∀ world request, (∀ record, request ≠ .deliver record) → keeps world →
      keeps (workplace.ask world request).2)
    (pushed : ∀ world names record envelope, sender.envelope names record = .ok envelope →
      keeps world → keeps (workplace.push world envelope).2)
    (run : Run) {world : World} (kept : keeps world) :
    keeps (run.execute (workplace.answer sender) world).2 := by
  induction run generalizing world with
  | done outcome => exact kept
  | ask request resume inductionHypothesis =>
    rw [Run.execute_ask]
    apply inductionHypothesis
    cases request with
    | deliver record =>
      cases made : sender.envelope (workplace.names world) record with
      | error error =>
        rw [answer_of_error workplace sender made]
        exact kept
      | ok envelope =>
        rw [answer_of_ok workplace sender made]
        exact pushed world _ record envelope made kept
    | _ => exact asked world _ (fun _ => Request.noConfusion) kept

/-- Whether some envelopes of a world are those that its broker has accepted: nothing else adds any,
and a push adds the envelope that is pushed or none. -/
structure Publishes (published : World → List Envelope) : Prop where
  asked : ∀ world request, (∀ record, request ≠ .deliver record) →
    published (workplace.ask world request).2 = published world
  pushed : ∀ world envelope, published (workplace.push world envelope).2 = published world ∨
    published (workplace.push world envelope).2 = published world ++ [envelope]

/-- What the broker comes to accept in a run names the sender as its producer. It is enough to look
at the pushes, since no other request adds to what is published. -/
theorem Publishes.execute {published : World → List Envelope}
    (publishes : workplace.Publishes published) (run : Run) (world : World) :
    ∀ envelope ∈ published (run.execute (workplace.answer sender) world).2,
      envelope ∈ published world ∨ envelope.producer? = some sender.producer := by
  apply workplace.kept_by_execute sender fun after => ∀ envelope ∈ published after,
    envelope ∈ published world ∨ envelope.producer? = some sender.producer
  · intro between request isAsked kept
    rw [publishes.asked between request isAsked]
    exact kept
  · intro between names record pushed made kept envelope member
    rcases publishes.pushed between pushed with same | grown
    · exact kept envelope (same ▸ member)
    · rw [grown] at member
      rcases List.mem_append.mp member with before | new
      · exact kept envelope before
      · rw [List.mem_singleton.mp new]
        exact .inr (Sender.producer?_of_envelope made)
  · exact fun envelope member => .inl member

/-- Every envelope that is noted in a run names the sender as its producer. -/
theorem noted_execute (run : Run) (world : World) :
    ∀ envelope ∈ (run.execute (workplace.noting.answer sender) (world, [])).2.2,
      envelope.producer? = some sender.producer := by
  have publishes : workplace.noting.Publishes Prod.snd :=
    ⟨fun _ _ _ => rfl, fun _ _ => .inr rfl⟩
  intro envelope noted
  rcases publishes.execute workplace.noting sender run (world, []) envelope noted with
    before | named
  · cases before
  · exact named

end Workplace

/-! ## Sites as workplaces -/

/-- A site in memory as a workplace. -/
def Site.workplace (sending : Sending) : Workplace Site where
  ask := Site.answer sending
  push site envelope :=
    match site.push sending.patience envelope with
    | .ok next => (.ok (), next)
    | .error error => (.error error, site)
  names _ := sending.names

/-- A site in memory answers as a workplace does that makes envelopes and pushes them. -/
theorem Site.answer_eq_workplace (sending : Sending) :
    Site.answer sending = (Site.workplace sending).answer sending.sender := by
  funext site request
  cases request with
  | deliver record =>
    cases made : sending.sender.envelope sending.names record with
    | error error =>
      rw [Workplace.answer_of_error (Site.workplace sending) sending.sender made, Site.answer, made]
    | ok envelope =>
      rw [Workplace.answer_of_ok (Site.workplace sending) sending.sender made, Site.answer, made]
      dsimp only [Site.workplace]
      cases site.push sending.patience envelope <;> rfl
  | _ => rfl

/-- A site with a database as a workplace. -/
def Database.Site.workplace (sending : Sending) : Workplace Database.Site where
  ask := Database.Site.answer sending
  push site envelope :=
    match site.broker.push sending.patience envelope with
    | .ok broker => (.ok (), { site with broker })
    | .error error => (.error error, site)
  names _ := sending.names

/-- A site with a database answers as a workplace does that makes envelopes and pushes them. So what
is shown of workplaces holds of it. -/
theorem Database.Site.answer_eq_workplace (sending : Sending) :
    Database.Site.answer sending =
      (Database.Site.workplace sending).answer sending.sender := by
  funext site request
  cases request with
  | deliver record =>
    cases made : sending.sender.envelope sending.names record with
    | error error =>
      rw [Workplace.answer_of_error (Database.Site.workplace sending) sending.sender made,
        Database.Site.answer, Sender.deliver, made]
      rfl
    | ok envelope =>
      rw [Workplace.answer_of_ok (Database.Site.workplace sending) sending.sender made,
        Database.Site.answer, Sender.deliver, made]
      dsimp only [Database.Site.workplace, ok_bind]
      cases site.broker.push sending.patience envelope <;> rfl
  | _ => rfl

/-- A push that is accepted publishes the envelope. -/
theorem MemoryBroker.published_of_push {broker next : MemoryBroker} {patience : Duration}
    {envelope : Envelope} (accepted : broker.push patience envelope = .ok next) :
    next.published = broker.published ++ [envelope] := by
  rw [push] at accepted
  split at accepted
  · rw [send] at accepted
    split at accepted
    · cases accepted
    · rw [← Except.ok.inj accepted]
  · cases accepted

/-- A site in memory publishes what is pushed there, and nothing with any other request. -/
theorem Site.publishes (sending : Sending) :
    (Site.workplace sending).Publishes fun site => site.broker.published where
  asked site request isAsked := by
    cases request with
    | deliver record => exact absurd rfl (isAsked record)
    | _ => exact congrArg MemoryBroker.published (site.broker_call _)
  pushed site envelope := by
    dsimp only [Site.workplace]
    cases accepted : site.push sending.patience envelope with
    | error error => exact .inl rfl
    | ok next =>
      right
      rw [((Site.push_ok_iff ..).mp accepted).2]
      rfl

/-- A site with a database publishes what is pushed there, and nothing with any other request. -/
theorem Database.Site.publishes (sending : Sending) :
    (Database.Site.workplace sending).Publishes fun site => site.broker.published where
  asked site request isAsked := by
    cases request with
    | deliver record => exact absurd rfl (isAsked record)
    | _ => rfl
  pushed site envelope := by
    dsimp only [Database.Site.workplace]
    cases accepted : site.broker.push sending.patience envelope with
    | error error => exact .inl rfl
    | ok next => exact .inr (MemoryBroker.published_of_push accepted)

/-- What a dispatch run publishes at a site in memory names the sender as its producer. -/
theorem Site.published_dispatch (site : Site) (sending : Sending) (policy : RetryPolicy)
    (isLeader : Bool) (now : Timestamp) :
    ∀ envelope ∈ (site.dispatch sending policy isLeader now).2.broker.published,
      envelope ∈ site.broker.published ∨ envelope.producer? = some sending.sender.producer := by
  rw [Site.dispatch, Site.answer_eq_workplace]
  exact (Site.publishes sending).execute _ _ _ site

/-- What a dispatch run publishes at a site with a database names the sender as its producer. -/
theorem Database.Site.published_dispatch (site : Database.Site) (sending : Sending)
    (policy : RetryPolicy) (isLeader : Bool) (now : Timestamp) :
    ∀ envelope ∈ (site.dispatch sending policy isLeader now).2.broker.published,
      envelope ∈ site.broker.published ∨ envelope.producer? = some sending.sender.producer := by
  rw [Database.Site.dispatch, Database.Site.answer_eq_workplace]
  exact (Database.Site.publishes sending).execute _ _ _ site

/-! ## The producer -/

/-- Nobody can publish under another name, and nothing of a record's metadata is lost but what would
do so.

Merged metadata have the keys of the record and the two reserved ones. The reserved ones hold the
producer and the version that were given, and each other key holds what the record has there. So
merging again changes nothing, and merging after somebody else has done so is merging for the first
time. Whatever its surroundings do, every envelope that a run hands to a broker names the sender of
the run as its producer, also when the broker does not accept it; and so does every envelope that
has been published after a dispatch at one of the two kinds of sites and was not before. -/
theorem producer_not_spoofed (producer : String) (version : Nat) (extra : Metadata) :
    let merged := mergeMetadata producer version extra
    (∀ key, key ∈ merged.entries.map Prod.fst ↔
      key ∈ extra.entries.map Prod.fst ∨ key = "producerId" ∨ key = "dtoVersion") ∧
    merged.find? "producerId" = some (.string producer) ∧
    merged.find? "dtoVersion" = some (.count version) ∧
    (∀ key, key ≠ "producerId" → key ≠ "dtoVersion" → merged.find? key = extra.find? key) ∧
    mergeMetadata producer version merged = merged ∧
    (∀ other otherVersion,
      mergeMetadata producer version (mergeMetadata other otherVersion extra) = merged) ∧
    (∀ (World : Type) (workplace : Workplace World) (sender : Sender) (run : Run) (world : World),
      let ended := run.execute (workplace.noting.answer sender) (world, [])
      (ended.1, ended.2.1) = run.execute (workplace.answer sender) world ∧
        ∀ envelope ∈ ended.2.2, envelope.producer? = some sender.producer) ∧
    (∀ (site : Site) sending policy isLeader now,
      ∀ envelope ∈ (site.dispatch sending policy isLeader now).2.broker.published,
        envelope ∈ site.broker.published ∨ envelope.producer? = some sending.sender.producer) ∧
    ∀ (site : Database.Site) sending policy isLeader now,
      ∀ envelope ∈ (site.dispatch sending policy isLeader now).2.broker.published,
        envelope ∈ site.broker.published ∨
          envelope.producer? = some sending.sender.producer := by
  refine ⟨mem_keys_mergeMetadata producer version extra, ?_, ?_, ?_,
    mergeMetadata_mergeMetadata .., fun other otherVersion => mergeMetadata_mergeMetadata ..,
    ?_, Site.published_dispatch, Database.Site.published_dispatch⟩
  · rw [find?_mergeMetadata, if_pos rfl]
  · rw [find?_mergeMetadata, if_neg (by decide), if_pos rfl]
  · intro key notProducer notVersion
    rw [find?_mergeMetadata, if_neg notProducer, if_neg notVersion]
  · intro World workplace sender run world
    exact ⟨workplace.execute_noting sender run (world, []),
      workplace.noted_execute sender run world⟩

/-- Metadata by which a record would pass as another producer's. -/
def borrowed : Metadata :=
  .ofList [("producerId", .string "somebody else"), ("dtoVersion", .count 99),
    ("source", .string "import")]

/-- A site with such a record. -/
def pretending : Site := { Site.empty with
  store := { MemoryStore.empty with
    records := .ofList [{ (default : EventRecord) with extraMetadata := borrowed }] } }

/-- How that site sends. -/
def registering : Sending := ⟨{ Sender.plain with producer := "registry" }, fun _ => none, .zero⟩

/-- What becomes of a run at that site, and the envelopes that it hands to the broker. -/
def registeredRun : TickOutcome × Site × List Envelope :=
  (Run.tick .default true default).execute
    ((Site.workplace registering).noting.answer registering.sender) (pretending, [])

/-- The record is pushed and published under the name of the registry, and keeps its source. Only
the two members that the registry fills in are replaced. -/
theorem borrowed_name_unused :
    (let merged := mergeMetadata "registry" 2 borrowed
     merged.find? "producerId" = some (.string "registry") ∧
      merged.find? "source" = some (.string "import")) ∧
    (∃ envelope ∈ registeredRun.2.2,
      envelope.eventId = default ∧ envelope.producer? = some "registry") ∧
    ∃ envelope ∈ (pretending.dispatch registering .default true default).2.broker.published,
      envelope.eventId = default ∧ envelope.producer? = some "registry" := by
  obtain ⟨-, named, -, others, -, -, pushed, dispatched, -⟩ :=
    producer_not_spoofed "registry" 2 borrowed
  have source : borrowed.find? "source" = some (.string "import") := by cbv
  have noted : registeredRun.2.2.map Envelope.eventId = [default] := by cbv
  have published : (pretending.dispatch registering .default true default).2.broker.published.map
      Envelope.eventId = [default] := by cbv
  refine ⟨⟨named, (others "source" (by decide) (by decide)).trans source⟩, ?_, ?_⟩
  · obtain ⟨envelope, member, event⟩ := List.mem_map.mp (noted ▸ List.mem_singleton_self default)
    exact ⟨envelope, member, event,
      (pushed Site (Site.workplace registering) registering.sender _ pretending).2 envelope member⟩
  · obtain ⟨envelope, member, event⟩ :=
      List.mem_map.mp (published ▸ List.mem_singleton_self default)
    refine ⟨envelope, member, event, ?_⟩
    rcases dispatched pretending registering .default true default envelope member with before | now
    · cases before
    · exact now

end Outbox
