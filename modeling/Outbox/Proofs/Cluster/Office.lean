import Outbox.Proofs.Cluster.Publication
import Outbox.Proofs.Cluster.Transactions
import Outbox.Proofs.Enqueue

/-!
# Producers and their objects

Producers enqueue events about objects that they go on changing, whatever else happens in the
cluster. The snapshot of an object is taken when the event is enqueued, and the record has no tie to
the object from then on: an office does to its cluster what the moves do that stage these snapshots,
and where a change of an object comes between two of them makes no difference. So what the cluster
keeps of a record it keeps of an enqueued event.
-/

namespace Outbox

open Calendar

/-- An event about an object of which no snapshot has been taken yet. -/
structure Notice where
  aggregateType : AggregateType
  aggregate : Identifier
  byUser : Identifier
  eventName : String
  extraMetadata : Metadata
  /-- The number of the object. -/
  subject : Nat

/-- The event with a snapshot, or with the reason why there is none. -/
def Notice.request (notice : Notice) (payload : Except String Json) : EnqueueRequest where
  aggregateType := notice.aggregateType
  aggregate := notice.aggregate
  byUser := notice.byUser
  eventName := notice.eventName
  payload
  extraMetadata := notice.extraMetadata

/-- A cluster with the objects of its producers, which go by numbers. -/
structure Office (Object : Type) where
  cluster : Cluster
  objects : Nat → Object

namespace Office

/-- What a producer does, or anybody else. -/
inductive Act (Object : Type)
  /-- An object becomes another one. -/
  | change (subject : Nat) (object : Object)
  /-- An event is enqueued in a unit of work, under a new identifier and from a moment on. -/
  | enqueue (work : Nat) (registry : Registry) (notice : Notice) (id : Identifier)
    (now : Timestamp)
  /-- Anything else that somebody in the cluster does. -/
  | elsewhere (move : Cluster.Move)

variable {Object : Type}

namespace Act

/-- The objects after an act. -/
def objects (objects : Nat → Object) : Act Object → Nat → Object
  | change subject object => Function.update objects subject object
  | _ => objects

/-- Whether an act changes an object. -/
def changes (subject : Nat) : Act Object → Bool
  | change other _ => other = subject
  | _ => false

/-- Whether an act takes a snapshot of an object. -/
def reads (subject : Nat) : Act Object → Bool
  | enqueue _ _ notice _ _ => notice.subject = subject
  | _ => false

/-- Whether an act is one of a unit of work. -/
def isOf (work : Nat) : Act Object → Bool
  | change .. => false
  | enqueue other .. => other = work
  | elsewhere move => move.isOf work

/-- Whether an act begins a unit of work or ends it. -/
def bounds (work : Nat) : Act Object → Bool
  | elsewhere (.begin other) => other = work
  | elsewhere (.commit other) => other = work
  | elsewhere (.abandon other) => other = work
  | _ => false

end Act

variable (serialize : Object → Except String Json)

/-- The office after an act. -/
def perform (office : Office Object) : Act Object → Office Object
  | .change subject object =>
    { office with objects := Function.update office.objects subject object }
  | .enqueue work registry notice id now =>
    match office.cluster.works work with
    | none => office
    | some unit =>
      let request := notice.request (serialize (office.objects notice.subject))
      match unit.enqueue registry request id now with
      | .error _ => office
      | .ok (_, grown) =>
        let works := Function.update office.cluster.works work (some grown)
        { office with cluster := { office.cluster with works } }
  | .elsewhere move => { office with cluster := office.cluster.perform move }

/-- The office after acts one after the other. -/
def run (office : Office Object) (acts : List (Act Object)) : Office Object :=
  acts.foldl (perform serialize) office

/-- An office at which nothing has happened yet. -/
def opened (dispatchers : List Dispatcher) (objects : Nat → Object) : Office Object :=
  ⟨.opened dispatchers, objects⟩

/-! ## Acts as moves -/

/-- The record of an event about an object as it is now. -/
def record (objects : Nat → Object) (registry : Registry) (notice : Notice) (id : Identifier)
    (now : Timestamp) : Except EnqueueError EventRecord :=
  (notice.request (serialize (objects notice.subject))).record registry id now

/-- What an act does to the cluster. -/
def Act.moves (objects : Nat → Object) : Act Object → List Cluster.Move
  | .change .. => []
  | .enqueue work registry notice id now =>
    match Office.record serialize objects registry notice id now with
    | .error _ => []
    | .ok record => [.insert work record]
  | .elsewhere move => [move]

/-- What acts do to the cluster one after the other. -/
def moves : (Nat → Object) → List (Act Object) → List Cluster.Move
  | _, [] => []
  | objects, act :: acts => act.moves serialize objects ++ moves (act.objects objects) acts

/-- The first one of some acts is done first. -/
theorem run_cons (office : Office Object) (act : Act Object) (acts : List (Act Object)) :
    office.run serialize (act :: acts) = (office.perform serialize act).run serialize acts :=
  rfl

/-- Acts that are cut in two lead to where the first ones and then the others lead. -/
theorem run_append (office : Office Object) (first second : List (Act Object)) :
    office.run serialize (first ++ second) =
      (office.run serialize first).run serialize second :=
  List.foldl_append

/-- An act makes its moves at the cluster and its change to the objects. The two do not depend on
each other but for the snapshot that is enqueued. -/
theorem perform_eq (office : Office Object) (act : Act Object) :
    office.perform serialize act =
      ⟨office.cluster.run (act.moves serialize office.objects), act.objects office.objects⟩ := by
  cases act with
  | change subject object => rfl
  | elsewhere move => rfl
  | enqueue work registry notice id now =>
    rw [perform, Act.moves, record]
    cases unit? : office.cluster.works work with
    | none =>
      -- Where no unit of work is open, an insertion finds none either.
      have unchanged (record : EventRecord) :
          office.cluster.run [.insert work record] = office.cluster := by
        change office.cluster.perform (.insert work record) = office.cluster
        rw [Cluster.perform, unit?, Option.map_none, ← unit?, Function.update_eq_self]
      cases (notice.request (serialize (office.objects notice.subject))).record registry id now with
      | error error => rfl
      | ok record => exact congrArg (Office.mk · office.objects) (unchanged record).symm
    | some unit =>
      simp only [UnitOfWork.enqueue]
      cases (notice.request (serialize (office.objects notice.subject))).record registry id now with
      | error error => rfl
      | ok record =>
        change _ = Office.mk (office.cluster.perform (.insert work record)) office.objects
        rw [Cluster.perform, unit?]
        rfl

/-- A move of an act is what somebody else does, or it stages the record of an event. -/
theorem Act.moves_cases {objects : Nat → Object} {act : Act Object} {move : Cluster.Move}
    (made : move ∈ act.moves serialize objects) :
    act = .elsewhere move ∨ ∃ work registry notice id now record,
      act = .enqueue work registry notice id now ∧ move = .insert work record ∧
        Office.record serialize objects registry notice id now = .ok record := by
  cases act with
  | change subject object => cases made
  | elsewhere other =>
    rw [List.mem_singleton.mp made]
    exact .inl rfl
  | enqueue work registry notice id now =>
    rw [moves] at made
    split at made
    · cases made
    · next record recorded =>
      have staged : move = .insert work record := List.mem_singleton.mp made
      exact .inr ⟨work, registry, notice, id, now, record, rfl, staged, recorded⟩

/-- A move of an act is one of a unit of work when the act is. -/
theorem Act.isOf_of_mem {objects : Nat → Object} {act : Act Object} {move : Cluster.Move}
    (made : move ∈ act.moves serialize objects) (work : Nat) : move.isOf work = act.isOf work := by
  rcases moves_cases serialize made with rfl | ⟨_, _, _, _, _, _, rfl, rfl, _⟩
  · rfl
  · rfl

/-- Acts make their moves at the cluster one after the other. -/
theorem cluster_run (office : Office Object) (acts : List (Act Object)) :
    (office.run serialize acts).cluster =
      office.cluster.run (moves serialize office.objects acts) := by
  induction acts generalizing office with
  | nil => rfl
  | cons act acts inductionHypothesis =>
    rw [run_cons, inductionHypothesis, perform_eq, moves, Cluster.run_append]

/-- A move that acts make is made by one of them, with the objects as they are then. -/
theorem mem_moves {office : Office Object} {acts : List (Act Object)} {move : Cluster.Move}
    (member : move ∈ moves serialize office.objects acts) :
    ∃ earlier act later, acts = earlier ++ act :: later ∧
      move ∈ act.moves serialize (office.run serialize earlier).objects := by
  induction acts generalizing office with
  | nil => cases member
  | cons act acts inductionHypothesis =>
    rw [moves] at member
    rcases List.mem_append.mp member with first | others
    · exact ⟨[], act, acts, rfl, first⟩
    · have after : (office.perform serialize act).objects = act.objects office.objects := by
        rw [perform_eq]
      rw [← after] at others
      obtain ⟨earlier, maker, later, rfl, made⟩ := inductionHypothesis others
      exact ⟨act :: earlier, maker, later, rfl, made⟩

/-! ## What is staged -/

/-- The record that an act stages in a unit of work. -/
def Act.stagedIn? (objects : Nat → Object) (work : Nat) : Act Object → Option EventRecord
  | .change .. => none
  | .enqueue other registry notice id now =>
    if other = work then (Office.record serialize objects registry notice id now).toOption else none
  | .elsewhere move => move.stagedIn? work

/-- The records that acts stage in a unit of work one after the other. -/
def stagedIn (work : Nat) : (Nat → Object) → List (Act Object) → List EventRecord
  | _, [] => []
  | objects, act :: acts =>
    (act.stagedIn? serialize objects work).toList ++ stagedIn work (act.objects objects) acts

/-- The moves of an office stage in a unit of work just the records that its acts stage there, in
the same order. -/
theorem filterMap_moves (objects : Nat → Object) (acts : List (Act Object)) (work : Nat) :
    (moves serialize objects acts).filterMap (Cluster.Move.stagedIn? work) =
      stagedIn serialize work objects acts := by
  induction acts generalizing objects with
  | nil => rfl
  | cons act acts inductionHypothesis =>
    have first : (act.moves serialize objects).filterMap (Cluster.Move.stagedIn? work) =
        (act.stagedIn? serialize objects work).toList := by
      cases act with
      | change subject object => rfl
      | elsewhere move =>
        rw [Act.moves, Act.stagedIn?]
        cases staged : move.stagedIn? work <;> simp [staged]
      | enqueue other registry notice id now =>
        rw [Act.moves, Act.stagedIn?]
        cases record serialize objects registry notice id now with
        | error error => simp [Except.toOption]
        | ok made =>
          by_cases same : other = work <;>
            simp [Cluster.Move.stagedIn?, Except.toOption, same]
    rw [moves, List.filterMap_append, first, inductionHypothesis, stagedIn]

/-- A unit of work that is neither begun nor ended stages what acts stage in it, in order. Refused
events stage nothing. -/
theorem works_run {office : Office Object} {acts : List (Act Object)} {work : Nat}
    {unit : UnitOfWork} (found : office.cluster.works work = some unit)
    (within : ∀ act ∈ acts, act.bounds work = false) :
    (office.run serialize acts).cluster.works work =
      some ⟨unit.staged ++ stagedIn serialize work office.objects acts⟩ := by
  rw [cluster_run, ← filterMap_moves]
  apply Cluster.works_run found
  intro move member own
  obtain ⟨earlier, act, later, rfl, made⟩ := mem_moves serialize member
  have inside := within act (List.mem_append_right _ List.mem_cons_self)
  rcases Act.moves_cases serialize made with rfl | ⟨other, _, _, _, _, record, rfl, rfl, _⟩
  · cases move with
    | insert other record =>
      obtain rfl := of_decide_eq_true own
      exact ⟨record, rfl⟩
    | begin other => exact absurd (own.symm.trans inside) Bool.noConfusion
    | commit other => exact absurd (own.symm.trans inside) Bool.noConfusion
    | abandon other => exact absurd (own.symm.trans inside) Bool.noConfusion
    | _ => cases own
  · obtain rfl := of_decide_eq_true own
    exact ⟨record, rfl⟩

/-- Acts without those of a unit of work make the moves without those of the unit of work. The
objects are the same on both sides, since no such act changes one. -/
theorem moves_without (objects : Nat → Object) (acts : List (Act Object)) (work : Nat) :
    moves serialize objects (acts.filter fun act => !act.isOf work) =
      (moves serialize objects acts).filter fun move => !move.isOf work := by
  induction acts generalizing objects with
  | nil => rfl
  | cons act acts inductionHypothesis =>
    rw [moves, List.filter_append, ← inductionHypothesis]
    cases own : act.isOf work with
    | true =>
      have unchanged : act.objects objects = objects := by
        cases act with
        | change subject object => cases own
        | _ => rfl
      have nothing : (act.moves serialize objects).filter (fun move => !move.isOf work) = [] := by
        apply List.filter_eq_nil_iff.mpr
        intro move made
        simp [Act.isOf_of_mem serialize made, own]
      rw [List.filter_cons_of_neg (by simp [own]), unchanged, nothing, List.nil_append]
    | false =>
      have everything : (act.moves serialize objects).filter (fun move => !move.isOf work) =
          act.moves serialize objects := by
        apply List.filter_eq_self.mpr
        intro move made
        simp [Act.isOf_of_mem serialize made, own]
      rw [List.filter_cons_of_pos (by simp [own]), moves, everything]

/-- What is enqueued in a unit of work is nowhere else before a commit: without the acts of the unit
of work the store, the broker, the runs under way and the other units of work are the same. -/
theorem run_without (office : Office Object) {acts : List (Act Object)} {work : Nat}
    (uncommitted : .elsewhere (.commit work) ∉ acts) :
    Cluster.AgreesBut work (office.run serialize acts).cluster
      (office.run serialize (acts.filter fun act => !act.isOf work)).cluster := by
  rw [cluster_run, cluster_run, moves_without]
  apply Cluster.run_without _ (.refl work office.cluster)
  intro done rest split
  have member : Cluster.Move.commit work ∈ moves serialize office.objects acts := by
    rw [split]
    exact List.mem_append_right _ List.mem_cons_self
  obtain ⟨earlier, act, later, rfl, made⟩ := mem_moves serialize member
  rcases Act.moves_cases serialize made with rfl | ⟨_, _, _, _, _, _, _, inserted, _⟩
  · exact absurd (List.mem_append_right _ List.mem_cons_self) uncommitted
  · cases inserted

/-! ## Changes of objects -/

/-- Objects of which no snapshot is taken may change or not: the same moves are made.

Induct over the acts. The two memories of objects go on to agree but for the one that may change. -/
theorem moves_unread {objects others : Nat → Object} {acts : List (Act Object)} {subject : Nat}
    (alike : ∀ number, number ≠ subject → others number = objects number)
    (unread : ∀ act ∈ acts, act.reads subject = false) :
    moves serialize others (acts.filter fun act => !act.changes subject) =
      moves serialize objects acts := by
  induction acts generalizing objects others with
  | nil => rfl
  | cons act acts inductionHypothesis =>
    obtain ⟨unreadNow, unreadLater⟩ := List.forall_mem_cons.mp unread
    rw [moves]
    cases act with
    | change other object =>
      by_cases same : other = subject
      · rw [List.filter_cons_of_neg (by simp [Act.changes, same])]
        refine inductionHypothesis ?_ unreadLater
        intro number apart
        rw [Act.objects, same, Function.update_of_ne apart]
        exact alike number apart
      · rw [List.filter_cons_of_pos (by simp [Act.changes, same]), moves]
        refine congrArg ([] ++ ·) (inductionHypothesis ?_ unreadLater)
        intro number apart
        by_cases changed : number = other
        · rw [Act.objects, Act.objects, changed, Function.update_self, Function.update_self]
        · rw [Act.objects, Act.objects, Function.update_of_ne changed,
            Function.update_of_ne changed]
          exact alike number apart
    | elsewhere move =>
      rw [List.filter_cons_of_pos rfl, moves]
      exact congrArg ([move] ++ ·) (inductionHypothesis alike unreadLater)
    | enqueue work registry notice id now =>
      rw [List.filter_cons_of_pos rfl, moves]
      have read : others notice.subject = objects notice.subject :=
        alike _ (of_decide_eq_false unreadNow)
      have first : (Act.enqueue work registry notice id now).moves serialize others =
          (Act.enqueue work registry notice id now).moves serialize objects := by
        rw [Act.moves, Act.moves, record, record, read]
      rw [first]
      exact congrArg (_ ++ ·) (inductionHypothesis alike unreadLater)

/-- Changes of an object make no difference to the cluster from its last snapshot on. -/
theorem run_unread (office : Office Object) {acts : List (Act Object)} {subject : Nat}
    (unread : ∀ act ∈ acts, act.reads subject = false) :
    (office.run serialize (acts.filter fun act => !act.changes subject)).cluster =
      (office.run serialize acts).cluster := by
  rw [cluster_run, cluster_run, moves_unread serialize (fun _ _ => rfl) unread]

end Office

end Outbox
