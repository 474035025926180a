import Outbox.Proofs.Cluster.Works
import Outbox.Proofs.Store.Batch

/-!
# Units of work are atomic and isolated

Any number of units of work race for the same store, next to records that are saved on their own and
while the store comes and goes. As long as nothing is dispatched or deleted, what the store holds is
the list of what it has accepted so far, in order. A unit of work whose commit is refused adds none
of its records, and one whose commit is accepted adds all of them.

What a unit of work has staged is seen by nobody before that. `Cluster.run_without` says so for
every way in which a cluster can go on, dispatch runs included: leaving out all moves of a unit of
work that brings nothing in makes no difference to the store, the broker or any run under way.
-/

namespace Outbox

namespace Cluster

/-- Whether a move neither carries on a dispatch run nor deletes anything, so that records can only
come in with it. -/
def Move.Supplies : Move → Prop
  | .advance .. | .retain .. => False
  | _ => True

/-- Whether a move is one of a unit of work. -/
def Move.isOf (work : Nat) : Move → Bool
  | .begin other | .insert other _ | .commit other | .abandon other => other = work
  | _ => false

/-- The record that a move stages in a unit of work. -/
def Move.stagedIn? (work : Nat) : Move → Option EventRecord
  | .insert other record => if other = work then some record else none
  | _ => none

/-- The records that a move brings into the store: the ones that arrive with it, unless they are
refused. -/
def admitted (cluster : Cluster) : Move → List EventRecord
  | .save record => if (cluster.site.call (.save record)).1.isOk then [record] else []
  | .commit work =>
    match cluster.works work with
    | some unit => if (unit.commit cluster.site.store).isOk then unit.staged else []
    | none => []
  | _ => []

/-- The records that moves bring into the store one after the other. -/
def admissions : Cluster → List Move → List EventRecord
  | _, [] => []
  | cluster, move :: moves => cluster.admitted move ++ (cluster.perform move).admissions moves

/-- Whether a move puts what is admitted with it into the store, where none of it was before, and
changes the records in no other way. -/
structure PutsAdmitted (cluster : Cluster) (move : Move) : Prop where
  fresh : ∀ record ∈ cluster.admitted move, cluster.records.find? record.id = none
  records : (cluster.perform move).records = cluster.records.putAll (cluster.admitted move)

/-- Whether the records that arrive with any one of some moves have distinct identifiers. -/
def DistinctBatches : Cluster → List Move → Prop
  | _, [] => True
  | cluster, move :: moves => ((cluster.arriving move).map EventRecord.id).Nodup ∧
    (cluster.perform move).DistinctBatches moves

/-- What a commit of an open unit of work can do: it is refused when the store is unavailable or one
of its identifiers is taken, and then it changes nothing at the site. Otherwise it is answered with
the records in the order in which they were staged, and they are listed after the ones that were
there. -/
structure CommitsAtomically (cluster : Cluster) (work : Nat) (unit : UnitOfWork) : Prop where
  refused_iff : (∃ error, unit.commit cluster.site.store = .error error) ↔
    cluster.site.store.available = false ∨
      ∃ record ∈ unit.staged, ∃ stored ∈ cluster.records.rows, stored.id = record.id
  refused : ∀ error, unit.commit cluster.site.store = .error error →
    (cluster.perform (.commit work)).site = cluster.site
  accepted : ∀ answer store, unit.commit cluster.site.store = .ok (answer, store) →
    answer = unit.staged ∧
      (cluster.perform (.commit work)).records.rows = cluster.records.rows ++ unit.staged

/-- Whether two clusters differ at most in what is open as one unit of work. -/
structure AgreesBut (work : Nat) (cluster other : Cluster) : Prop where
  dispatchers : other.dispatchers = cluster.dispatchers
  site : other.site = cluster.site
  tasks : other.tasks = cluster.tasks
  works : ∀ unit, unit ≠ work → other.works unit = cluster.works unit

section

variable {cluster other : Cluster} {work : Nat} {move : Move} {moves : List Move}

/-! ## What comes in -/

/-- What is admitted with a move is all that arrives with it, or nothing. -/
theorem admitted_cases (cluster : Cluster) (move : Move) :
    cluster.admitted move = cluster.arriving move ∨ cluster.admitted move = [] := by
  cases move with
  | save record =>
    rw [admitted, arriving]
    split
    · exact Or.inl rfl
    · exact Or.inr rfl
  | commit work =>
    rw [admitted, arriving]
    cases cluster.works work with
    | none => exact Or.inr rfl
    | some unit =>
      dsimp only
      split
      · exact Or.inl rfl
      · exact Or.inr rfl
  | _ => exact Or.inr rfl

/-- A move that admits nothing and keeps the records puts in what it admits. -/
theorem PutsAdmitted.of_nothing (admits : cluster.admitted move = [])
    (records : (cluster.perform move).records = cluster.records) : cluster.PutsAdmitted move := by
  constructor
  · rw [admits]
    exact fun _ member => absurd member List.not_mem_nil
  · rw [admits]
    exact records

/-- A saved record is put in, unless it is refused. A call that fails, or finds the identifier
taken, leaves the records alone. -/
theorem putsAdmitted_save (cluster : Cluster) (record : EventRecord) :
    cluster.PutsAdmitted (.save record) := by
  rcases cluster.site.call_cases (.save record) with ⟨error, faults, failed⟩ | ⟨faults, answered⟩
  · apply PutsAdmitted.of_nothing
    · rw [admitted, failed]
      rfl
    · rw [perform, failed]
      rfl
  · rcases cluster.site.store.written_cases (cluster.site.store.save record) with
      ⟨error, _, unchanged⟩ | ⟨next, saved, written⟩
    · apply PutsAdmitted.of_nothing
      · rw [admitted, answered, MemoryStore.call, unchanged]
        rfl
      · rw [perform, answered, MemoryStore.call, unchanged]
        rfl
    · obtain ⟨fresh, rfl⟩ := MemoryStore.insertAll_ok saved
      have admits : cluster.admitted (.save record) = [record] := by
        rw [admitted, answered, MemoryStore.call, written]
        rfl
      constructor
      · rw [admits]
        exact fresh
      · rw [admits, perform, answered, MemoryStore.call, written]
        rfl

/-- The records of a unit of work are put in with its commit, unless they are refused. A refused
unit of work leaves the store as it was. -/
theorem putsAdmitted_commit (cluster : Cluster) (work : Nat) :
    cluster.PutsAdmitted (.commit work) := by
  cases opened : cluster.works work with
  | none =>
    apply PutsAdmitted.of_nothing
    · rw [admitted, opened]
    · rw [perform, opened]
  | some unit =>
    cases outcome : cluster.site.store.insertAll unit.staged with
    | error error =>
      obtain ⟨failed, unchanged⟩ := UnitOfWork.commit_of_refused outcome
      apply PutsAdmitted.of_nothing
      · simp only [admitted, opened, failed]
        rfl
      · simp only [perform, opened, unchanged]
        rfl
    | ok next =>
      obtain ⟨committed, changed⟩ := UnitOfWork.commit_of_inserted outcome
      obtain ⟨fresh, rfl⟩ := MemoryStore.insertAll_ok outcome
      have admits : cluster.admitted (.commit work) = unit.staged := by
        simp only [admitted, opened, committed]
        rfl
      constructor
      · rw [admits]
        exact fresh
      · rw [admits]
        simp only [perform, opened, changed]
        rfl

/-- A move that only supplies puts in what is admitted with it. -/
theorem putsAdmitted_of_supplies (cluster : Cluster) (supplies : move.Supplies) :
    cluster.PutsAdmitted move := by
  cases move with
  | save record => exact cluster.putsAdmitted_save record
  | commit work => exact cluster.putsAdmitted_commit work
  | start number dispatcher isLeader now =>
    apply PutsAdmitted.of_nothing rfl
    rw [perform]
    cases cluster.dispatchers[dispatcher]? <;> rfl
  | requeue event now => exact .of_nothing rfl (cluster.site.records_kept rfl)
  | advance number names => exact supplies.elim
  | retain isLeader span now => exact supplies.elim
  | begin work => exact .of_nothing rfl rfl
  | insert work record => exact .of_nothing rfl rfl
  | abandon work => exact .of_nothing rfl rfl
  | disturb faults available outage failing latency => exact .of_nothing rfl rfl

/-- The store holds what it held and what has been admitted since, in order.

Induct over the moves. What is admitted with one move is new and has distinct identifiers, so it is
listed after the rest. -/
theorem rows_run (supplies : ∀ move ∈ moves, move.Supplies)
    (distinct : cluster.DistinctBatches moves) :
    (cluster.run moves).records.rows = cluster.records.rows ++ cluster.admissions moves := by
  induction moves generalizing cluster with
  | nil => exact (List.append_nil _).symm
  | cons move moves inductionHypothesis =>
    obtain ⟨supplyNow, supplyLater⟩ := List.forall_mem_cons.mp supplies
    obtain ⟨fresh, records⟩ := cluster.putsAdmitted_of_supplies supplyNow
    obtain ⟨distinctNow, distinctLater⟩ := distinct
    have distinctIds : ((cluster.admitted move).map EventRecord.id).Nodup := by
      rcases cluster.admitted_cases move with all | none
      · rw [all]
        exact distinctNow
      · rw [none]
        exact List.nodup_nil
    rw [run_cons, inductionHypothesis supplyLater distinctLater, records,
      Table.rows_putAll distinctIds fresh, List.append_assoc]
    rfl

/-! ## What is staged -/

/-- A move of something else leaves a unit of work as it was. Units of work go by numbers, and each
move of one names its number. -/
theorem works_perform (foreign : move.isOf work = false) :
    (cluster.perform move).works work = cluster.works work := by
  have differs {unit : Nat} (apart : decide (unit = work) = false) : work ≠ unit :=
    (of_decide_eq_false apart ·.symm)
  cases move with
  | start number dispatcher isLeader now =>
    rw [perform]
    cases cluster.dispatchers[dispatcher]? <;> rfl
  | advance number names =>
    rw [perform]
    rcases cluster.tasks number with _ | ⟨dispatcher, _ | ⟨request, next⟩⟩ <;> rfl
  | begin unit => exact Function.update_of_ne (differs foreign) ..
  | insert unit record => exact Function.update_of_ne (differs foreign) ..
  | commit unit =>
    rw [perform]
    cases cluster.works unit with
    | none => rfl
    | some staged => exact Function.update_of_ne (differs foreign) ..
  | abandon unit => exact Function.update_of_ne (differs foreign) ..
  | _ => rfl

/-- An open unit of work has staged, after what it had staged before, what was inserted since, in
order. -/
theorem works_run {unit : UnitOfWork} (opened : cluster.works work = some unit)
    (inserts : ∀ move ∈ moves, move.isOf work = true → ∃ record, move = .insert work record) :
    (cluster.run moves).works work =
      some ⟨unit.staged ++ moves.filterMap (Move.stagedIn? work)⟩ := by
  induction moves generalizing cluster unit with
  | nil => exact opened.trans (by rw [List.filterMap_nil, List.append_nil])
  | cons move moves inductionHypothesis =>
    obtain ⟨insertsNow, insertsLater⟩ := List.forall_mem_cons.mp inserts
    rw [run_cons]
    cases own : move.isOf work with
    | false =>
      have unstaged : move.stagedIn? work = none := by
        cases move with
        | insert other record => exact if_neg (of_decide_eq_false own)
        | _ => rfl
      rw [inductionHypothesis ((works_perform own).trans opened) insertsLater,
        List.filterMap_cons_none unstaged]
    | true =>
      obtain ⟨record, rfl⟩ := insertsNow own
      have staged : Move.stagedIn? work (.insert work record) = some record := if_pos rfl
      have grown : (cluster.perform (.insert work record)).works work =
          some (unit.insert record) := by
        rw [perform, opened]
        exact Function.update_self ..
      rw [inductionHypothesis grown insertsLater, List.filterMap_cons_some staged,
        UnitOfWork.insert, List.append_assoc, List.singleton_append]

/-! ## Commits -/

/-- A commit of records under distinct identifiers brings in all of them or none. It is refused
exactly if the store is unavailable or knows one of the identifiers. -/
theorem commitsAtomically {unit : UnitOfWork} (opened : cluster.works work = some unit)
    (distinct : (unit.staged.map EventRecord.id).Nodup) :
    cluster.CommitsAtomically work unit := by
  constructor
  · have refused : (∃ error, unit.commit cluster.site.store = .error error) ↔
        ∃ error, cluster.site.store.insertAll unit.staged = .error error := by
      rw [UnitOfWork.commit]
      cases cluster.site.store.insertAll unit.staged <;> simp [Except.map]
    rw [refused, MemoryStore.insertAll_refused_iff]
    simp only [Table.find?_eq_some_iff]
    rfl
  · intro error failed
    have unchanged : cluster.site.store.changed (unit.commit cluster.site.store) =
        (.error error, cluster.site.store) := by rw [failed, MemoryStore.changed]
    rw [perform, opened]
    simp only [unchanged]
  · intro answer store committed
    cases outcome : cluster.site.store.insertAll unit.staged with
    | error error =>
      rw [(UnitOfWork.commit_of_refused outcome).1] at committed
      cases committed
    | ok next =>
      obtain ⟨answered, changed⟩ := UnitOfWork.commit_of_inserted outcome
      obtain ⟨fresh, rfl⟩ := MemoryStore.insertAll_ok outcome
      rw [answered] at committed
      refine ⟨(Prod.mk.inj (Except.ok.inj committed)).1.symm, ?_⟩
      have rows : (cluster.perform (.commit work)).records.rows =
          (cluster.records.putAll unit.staged).rows := by
        simp only [perform, opened, changed]
        rfl
      rw [rows]
      exact Table.rows_putAll distinct fresh

/-! ## Units of work that bring nothing in -/

/-- Every cluster agrees with itself. -/
theorem AgreesBut.refl (work : Nat) (cluster : Cluster) : AgreesBut work cluster cluster :=
  ⟨rfl, rfl, rfl, fun _ _ => rfl⟩

/-- Clusters that agree with a third one but for the same unit of work agree with each other but for
it. -/
theorem AgreesBut.trans {third : Cluster} (first : AgreesBut work cluster other)
    (second : AgreesBut work other third) : AgreesBut work cluster third where
  dispatchers := second.dispatchers.trans first.dispatchers
  site := second.site.trans first.site
  tasks := second.tasks.trans first.tasks
  works unit differs := (second.works unit differs).trans (first.works unit differs)

/-- Clusters that agree but for a unit of work still do after a move of something else. The move
reads the same in both, and writes to the same place. -/
theorem AgreesBut.perform (agrees : AgreesBut work cluster other)
    (foreign : move.isOf work = false) :
    AgreesBut work (cluster.perform move) (other.perform move) := by
  obtain ⟨dispatchers, site, tasks, works⟩ := other
  obtain ⟨rfl, rfl, rfl, same⟩ := agrees
  have updated (unit : Nat) {here there : Option UnitOfWork} (equal : there = here) :
      ∀ sought, sought ≠ work → Function.update works unit there sought =
        Function.update cluster.works unit here sought := by
    intro sought differs
    rw [equal]
    by_cases own : sought = unit
    · rw [own, Function.update_self, Function.update_self]
    · rw [Function.update_of_ne own, Function.update_of_ne own]
      exact same sought differs
  cases move with
  | start number dispatcher isLeader now =>
    rw [Cluster.perform, Cluster.perform]
    cases cluster.dispatchers[dispatcher]? <;> exact ⟨rfl, rfl, rfl, same⟩
  | advance number names =>
    rw [Cluster.perform, Cluster.perform]
    rcases cluster.tasks number with _ | ⟨dispatcher, _ | ⟨request, next⟩⟩ <;>
      exact ⟨rfl, rfl, rfl, same⟩
  | begin unit => exact ⟨rfl, rfl, rfl, updated unit rfl⟩
  | insert unit record =>
    exact ⟨rfl, rfl, rfl, updated unit (by rw [same unit (of_decide_eq_false foreign)])⟩
  | commit unit =>
    have equal : works unit = cluster.works unit := same unit (of_decide_eq_false foreign)
    rw [Cluster.perform, Cluster.perform]
    simp only [equal]
    cases cluster.works unit with
    | none => exact ⟨rfl, rfl, rfl, same⟩
    | some staged => exact ⟨rfl, rfl, rfl, updated unit rfl⟩
  | abandon unit => exact ⟨rfl, rfl, rfl, updated unit rfl⟩
  | _ => exact ⟨rfl, rfl, rfl, same⟩

/-- A move of a unit of work that brings nothing in changes at most what is open as that unit. So it
makes no difference to anything else. -/
theorem agreesBut_perform (own : move.isOf work = true) (nothing : cluster.admitted move = []) :
    AgreesBut work (cluster.perform move) cluster := by
  have untouched (opened : Option UnitOfWork) :
      ∀ unit, unit ≠ work →
        cluster.works unit = Function.update cluster.works work opened unit := by
    intro unit differs
    rw [Function.update_of_ne differs]
  cases move with
  | begin unit =>
    obtain rfl := of_decide_eq_true own
    exact ⟨rfl, rfl, rfl, untouched _⟩
  | insert unit record =>
    obtain rfl := of_decide_eq_true own
    exact ⟨rfl, rfl, rfl, untouched _⟩
  | abandon unit =>
    obtain rfl := of_decide_eq_true own
    exact ⟨rfl, rfl, rfl, untouched _⟩
  | commit unit =>
    obtain rfl := of_decide_eq_true own
    cases opened : cluster.works unit with
    | none =>
      rw [perform, opened]
      exact .refl unit cluster
    | some staged =>
      -- An empty unit of work may well be accepted: it puts no record into the store.
      have unchanged : (cluster.site.store.changed (staged.commit cluster.site.store)).2 =
          cluster.site.store := by
        cases outcome : cluster.site.store.insertAll staged.staged with
        | error error => rw [(UnitOfWork.commit_of_refused outcome).2]
        | ok next =>
          obtain ⟨committed, changed⟩ := UnitOfWork.commit_of_inserted outcome
          simp only [admitted, opened, committed] at nothing
          have empty : staged.staged = [] := nothing
          obtain ⟨_, rfl⟩ := MemoryStore.insertAll_ok outcome
          rw [changed, empty]
          rfl
      rw [perform, opened]
      dsimp only
      rw [unchanged]
      exact ⟨rfl, rfl, rfl, untouched none⟩
  | _ => cases own

/-- A unit of work that brings nothing in makes no difference to anything else, in whatever way the
cluster goes on: without its moves the site, the runs under way and the other units of work are the
same. -/
theorem run_without (nothing : ∀ done rest, moves = done ++ .commit work :: rest →
      (cluster.run done).admitted (.commit work) = [])
    (agrees : AgreesBut work cluster other) :
    AgreesBut work (cluster.run moves) (other.run (moves.filter fun move => !move.isOf work)) := by
  induction moves generalizing cluster other with
  | nil => exact agrees
  | cons move moves inductionHypothesis =>
    have nothingLater : ∀ done rest, moves = done ++ .commit work :: rest →
        ((cluster.perform move).run done).admitted (.commit work) = [] := by
      intro done rest split
      exact nothing (move :: done) rest (by rw [split, List.cons_append])
    rw [run_cons]
    cases own : move.isOf work with
    | false =>
      rw [List.filter_cons_of_pos (by rw [own]; rfl), run_cons]
      exact inductionHypothesis nothingLater (agrees.perform own)
    | true =>
      have nothingNow : cluster.admitted move = [] := by
        cases move with
        | commit unit =>
          obtain rfl := of_decide_eq_true own
          exact nothing [] moves rfl
        | save record => cases own
        | _ => rfl
      rw [List.filter_cons_of_neg (by rw [own]; exact Bool.false_ne_true)]
      exact inductionHypothesis nothingLater ((agreesBut_perform own nothingNow).trans agrees)

end

/-- Units of work are atomic and isolated, however they and the saved records follow one another
while the store comes and goes, when no unit of work stages an identifier twice.

The store holds what it held at first and what has been accepted since, in order. An open unit of
work has staged what was inserted since it began, in order; its commit is refused exactly when the
store is unavailable or one of its identifiers is taken, and then changes nothing, and otherwise all
of its records come in and it is answered with them.

And however the cluster goes on from there, with dispatch runs, retention jobs and anything else, a
unit of work that brings nothing in makes no difference to the store, the broker, the runs under way
and the other units of work. -/
theorem transactions_atomic_and_isolated (cluster : Cluster) (moves : List Move)
    (supplies : ∀ move ∈ moves, move.Supplies) (distinct : cluster.DistinctBatches moves) :
    (cluster.run moves).records.rows = cluster.records.rows ++ cluster.admissions moves ∧
    (∀ earlier work since, moves = earlier ++ .begin work :: since →
      (∀ move ∈ since, move.isOf work = true → ∃ record, move = .insert work record) →
      (cluster.run moves).works work = some ⟨since.filterMap (Move.stagedIn? work)⟩) ∧
    (∀ work unit, (cluster.run moves).works work = some unit →
      (unit.staged.map EventRecord.id).Nodup →
      (cluster.run moves).CommitsAtomically work unit) ∧
    ∀ work later, (∀ done rest, later = done ++ .commit work :: rest →
        (cluster.run (moves ++ done)).admitted (.commit work) = []) →
      AgreesBut work (cluster.run (moves ++ later))
        (cluster.run (moves ++ later.filter fun move => !move.isOf work)) := by
  refine ⟨rows_run supplies distinct, ?_, ?_, ?_⟩
  · intro earlier work since split inserts
    have begun : ((cluster.run earlier).perform (.begin work)).works work = some .begin :=
      Function.update_self ..
    rw [split, run_append, run_cons]
    exact works_run begun inserts
  · intro work unit opened distinctIds
    exact commitsAtomically opened distinctIds
  · intro work later nothing
    rw [run_append, run_append]
    apply run_without
    · intro done rest split
      rw [← run_append]
      exact nothing done rest split
    · exact .refl work (cluster.run moves)

/-- Two units of work stage records under the same identifier, the second one another record as
well, and the first one commits. -/
def race : List Move :=
  let other : EventRecord := { (default : EventRecord) with id := ⟨1, by decide⟩ }
  [.begin 0, .begin 1, .insert 1 other, .insert 0 default, .insert 1 default, .commit 0]

/-- The unit that comes second has staged two records, and only the identifier of the second one is
taken. Neither comes in, and nothing changes at the site. -/
theorem race_is_lost_as_a_whole :
    ((opened []).run race).records.rows = [default] ∧
      ∃ unit, ((opened []).run race).works 1 = some unit ∧ unit.staged.length = 2 ∧
        (∃ error, unit.commit ((opened []).run race).site.store = .error error) ∧
        (((opened []).run race).perform (.commit 1)).site = ((opened []).run race).site := by
  have supplies : ∀ move ∈ race, move.Supplies := by simp [race, Move.Supplies]
  have distinct : (opened []).DistinctBatches race := by
    refine ⟨List.nodup_nil, List.nodup_nil, List.nodup_nil, List.nodup_nil, List.nodup_nil, ?_,
      trivial⟩
    exact List.nodup_singleton _
  obtain ⟨rows, _, atomic, _⟩ := transactions_atomic_and_isolated (opened []) race supplies distinct
  have stored : ((opened []).run race).records.rows = [default] := rows
  obtain ⟨unit, opened, staged⟩ : ∃ unit, ((Cluster.opened []).run race).works 1 = some unit ∧
      unit.staged = [{ (default : EventRecord) with id := ⟨1, by decide⟩ }, default] :=
    ⟨_, rfl, rfl⟩
  have distinctIds : (unit.staged.map EventRecord.id).Nodup := by
    rw [staged]
    decide
  have taken : ∃ record ∈ unit.staged, ∃ stored ∈ ((Cluster.opened []).run race).records.rows,
      stored.id = record.id := by
    rw [staged, stored]
    exact ⟨default, by simp, default, by simp, rfl⟩
  have commits := atomic 1 unit opened distinctIds
  obtain ⟨error, refused⟩ := commits.refused_iff.mpr (Or.inr taken)
  exact ⟨stored, unit, opened, by rw [staged]; rfl, ⟨error, refused⟩, commits.refused error refused⟩

end Cluster

end Outbox
