import Outbox.Reference.Shared

/-!
# Readers of shared reference data

Whatever is done with a cache, its readers see the whole last answer in which the source had
entries. The argument has two parts. An act does one of five things to the cache, and each of them
keeps that the cache is turned to this answer. And none of them touches the memory at a place that
somebody holds: only a refresh writes at all, and it writes where nobody is. So what a reader holds
stays as it was taken, however often the cache turns.
-/

namespace Outbox

open Calendar

/-- What is put at a place is there. -/
theorem Memory.put_self (memory : Memory) (place : Nat) (entries : Dictionary String) :
    memory.put place entries place = entries :=
  if_pos rfl

/-- Any other place holds what it held. -/
theorem Memory.put_of_ne (memory : Memory) {place other : Nat} (entries : Dictionary String)
    (apart : other ≠ place) : memory.put place entries other = memory other :=
  if_neg apart

namespace SharedCache

/-- Whether entries are those of the last success among the first answers of a source. -/
def IsLatest (source : Nat → SourceAnswer) (answered : Nat) (entries : Dictionary String) : Prop :=
  ∃ number < answered, source number = .ok entries ∧
    ∀ later, number < later → later < answered → ∃ error, source later = .error error

section Latest

variable {source : Nat → SourceAnswer} {answered : Nat} {entries : Dictionary String}

/-- The entries of a success are the last ones when its answer is the last. -/
theorem isLatest_of_ok (succeeded : source answered = .ok entries) :
    IsLatest source (answered + 1) entries :=
  ⟨answered, Nat.lt_succ_self answered, succeeded, fun later after before => by omega⟩

/-- One more failure leaves the last success as it was. -/
theorem IsLatest.of_error (latest : IsLatest source answered entries) {error : ReferenceError}
    (failed : source answered = .error error) : IsLatest source (answered + 1) entries := by
  obtain ⟨number, below, succeeded, others⟩ := latest
  refine ⟨number, Nat.lt_succ_of_lt below, succeeded, fun later after before => ?_⟩
  rcases Nat.lt_succ_iff_lt_or_eq.mp before with earlier | same
  · exact others later after earlier
  · exact ⟨error, same ▸ failed⟩

end Latest

/-- What an act does to a cache in which nobody has crashed. New entries are never written over
those that a reader holds, which is why a reader keeps seeing a whole snapshot. -/
inductive Turn (allocator : Allocator) (cache : SharedCache) : Act → SharedCache → Prop
  /-- The source has entries. They are put where nobody is, and the cache turns there. -/
  | renewed {act : Act} {entries : Dictionary String} (now : Timestamp) (asks : act.asks = true)
      (succeeded : cache.source cache.answered = .ok entries) :
      Turn allocator cache act (cache.asked.turnTo allocator entries now)
  /-- The source has an error. -/
  | kept {act : Act} {error : ReferenceError} (asks : act.asks = true)
      (failed : cache.source cache.answered = .error error) :
      Turn allocator cache act cache.asked
  /-- A reader is told the place of the entries. -/
  | told : Turn allocator cache .hold { cache with held := cache.held ++ [some cache.place] }
  /-- A reader lets a place go. -/
  | released (number : Nat) :
      Turn allocator cache (.release number) { cache with held := cache.held.set number none }
  /-- Somebody looks. -/
  | seen {act : Act} (silent : act.asks = false) : Turn allocator cache act cache

variable {allocator : Allocator} {cache after : SharedCache} {act : Act}

/-- The first one of some acts is done first. -/
theorem run_cons (act : Act) (acts : List Act) :
    cache.run allocator (act :: acts) = ((cache.perform allocator act).2).run allocator acts :=
  rfl

/-! ## One act -/

/-- As long as nobody has crashed, readers see what is at the place that the cache is turned to. -/
theorem entries_of_sound (sound : cache.isPoisoned = false) :
    cache.entries = cache.memory cache.place := by
  rw [entries, sound]
  rfl

/-- A cache that turns to new entries finds them at its new place. -/
theorem memory_turnTo (entries : Dictionary String) (now : Timestamp) :
    (cache.turnTo allocator entries now).memory (cache.turnTo allocator entries now).place =
      entries :=
  cache.memory.put_self _ entries

/-- Turning the cache leaves alone what somebody holds. -/
theorem memory_turnTo_of_mem {place : Nat} (inside : place ∈ cache.inUse)
    (entries : Dictionary String) (now : Timestamp) :
    (cache.turnTo allocator entries now).memory place = cache.memory place :=
  cache.memory.put_of_ne entries fun same => allocator.fresh cache.inUse (same ▸ inside)

/-- A failed refresh reports the error of the source. It has asked, and nothing else has changed. -/
theorem refresh_of_error (now : Timestamp) {error : ReferenceError}
    (failed : cache.source cache.answered = .error error) :
    cache.refresh allocator now = (.error error, cache.asked) := by
  rw [refresh, failed]

/-- A refresh that succeeds reports how many entries there are, and turns the cache to them. -/
theorem refresh_of_ok (now : Timestamp) {entries : Dictionary String}
    (sound : cache.isPoisoned = false) (succeeded : cache.source cache.answered = .ok entries) :
    cache.refresh allocator now =
      (.ok entries.size, cache.asked.turnTo allocator entries now) := by
  rw [refresh, succeeded, sound]
  rfl

/-- The cache as it is without its readers. -/
def view (cache : SharedCache) : ReferenceCache := ⟨cache.entries⟩

/-- A refresh is the same for many readers and for one. -/
theorem view_refresh (now : Timestamp) (sound : cache.isPoisoned = false) :
    Prod.map id view (cache.refresh allocator now) =
      cache.view.refresh (cache.source cache.answered) := by
  cases answer : cache.source cache.answered with
  | error error =>
    rw [refresh_of_error now answer]
    rfl
  | ok entries =>
    have turned : (cache.asked.turnTo allocator entries now).isPoisoned = false := sound
    rw [refresh_of_ok now sound answer, Prod.map, view, entries_of_sound turned, memory_turnTo]
    rfl

/-- A reader who takes a snapshot gets the number of the hold that is kept for the present place. -/
theorem hold_of_sound (sound : cache.isPoisoned = false) :
    cache.hold allocator =
      (cache.held.length, { cache with held := cache.held ++ [some cache.place] }) := by
  rw [hold, sound]
  rfl

/-- A refresh turns the cache or keeps it, as the source answers. -/
theorem turn_refresh (now : Timestamp) (sound : cache.isPoisoned = false)
    (asks : act.asks = true) : Turn allocator cache act (cache.refresh allocator now).2 := by
  cases answer : cache.source cache.answered with
  | error error =>
    rw [refresh_of_error now answer]
    exact .kept asks answer
  | ok entries =>
    rw [refresh_of_ok now sound answer]
    exact .renewed now asks answer

/-- Every act is one of the listed turns, as long as nobody has crashed. So what is to be said of
all acts has to be said of five turns only. -/
theorem turn_perform (allocator : Allocator) (sound : cache.isPoisoned = false) (act : Act) :
    Turn allocator cache act (cache.perform allocator act).2 := by
  cases act with
  | refresh now => exact turn_refresh now sound rfl
  | tick now => exact turn_refresh now sound rfl
  | hold =>
    rw [perform, hold_of_sound sound]
    exact .told
  | release number => exact .released number
  | _ => exact .seen rfl

/-- A turn asks the source once if its act asks, and otherwise not at all. -/
theorem Turn.answered (turn : Turn allocator cache act after) :
    after.answered = cache.answered + if act.asks then 1 else 0 := by
  cases turn with
  | renewed now asks succeeded => rw [if_pos asks]; rfl
  | kept asks failed => rw [if_pos asks]; rfl
  | told => rfl
  | released number => rfl
  | seen silent => rw [silent]; rfl

/-- Nobody crashes in a turn. -/
theorem Turn.sound (turn : Turn allocator cache act after) (sound : cache.isPoisoned = false) :
    after.isPoisoned = false := by
  cases turn <;> exact sound

/-! ## What the cache is turned to -/

/-- Whether a cache is turned to the last entries that its source had. -/
structure Serves (source : Nat → SourceAnswer) (cache : SharedCache) : Prop where
  itsSource : cache.source = source
  sound : cache.isPoisoned = false
  latest : IsLatest source cache.answered (cache.memory cache.place)

/-- A turn keeps the cache turned to the last entries that its source had: new entries are the last
ones, and after an error the old ones still are. -/
theorem Serves.turn {source : Nat → SourceAnswer} (serves : Serves source cache)
    (turn : Turn allocator cache act after) : Serves source after := by
  obtain ⟨rfl, sound, latest⟩ := serves
  cases turn with
  | renewed now asks succeeded =>
    refine ⟨rfl, sound, ?_⟩
    rw [memory_turnTo]
    exact isLatest_of_ok succeeded
  | kept asks failed => exact ⟨rfl, sound, latest.of_error failed⟩
  | told => exact ⟨rfl, sound, latest⟩
  | released number => exact ⟨rfl, sound, latest⟩
  | seen silent => exact ⟨rfl, sound, latest⟩

/-- Acts keep the cache turned to the last entries, and count the answers. -/
theorem Serves.run {source : Nat → SourceAnswer} (serves : Serves source cache)
    (allocator : Allocator) (acts : List Act) :
    Serves source (cache.run allocator acts) ∧
      (cache.run allocator acts).answered = cache.answered + acts.countP Act.asks := by
  induction acts generalizing cache with
  | nil => exact ⟨serves, rfl⟩
  | cons act acts inductionHypothesis =>
    have turn := turn_perform allocator serves.sound act
    obtain ⟨served, answered⟩ := inductionHypothesis (serves.turn turn)
    refine ⟨served, ?_⟩
    rw [run_cons, answered, turn.answered, List.countP_cons]
    omega

/-- A cache is loaded by the first answer of its source, unless this is an error. -/
theorem load_ok_iff (source : Nat → SourceAnswer) (now : Timestamp) :
    (∃ cache, load allocator source now = .ok cache) ↔ ∃ entries, source 0 = .ok entries := by
  cases answer : source 0 with
  | error error => simp [load, answer, Except.map]
  | ok entries => simp [load, answer, Except.map]

/-- A cache that has been loaded is turned to the entries of the first answer. -/
theorem serves_of_load {source : Nat → SourceAnswer} {now : Timestamp}
    (loaded : load allocator source now = .ok cache) :
    Serves source cache ∧ cache.answered = 1 := by
  cases answer : source 0 with
  | error error => simp [load, answer, Except.map] at loaded
  | ok entries =>
    rw [load, answer] at loaded
    cases loaded
    have latest : IsLatest source 1
        (Memory.put (fun _ => .empty) (allocator.place []) entries (allocator.place [])) := by
      rw [Memory.put_self]
      exact isLatest_of_ok answer
    exact ⟨⟨rfl, rfl, latest⟩, rfl⟩

/-! ## What readers hold -/

/-- What a reader sees in a snapshot is what is at the place that is held for it. -/
theorem heldEntries?_eq_some_iff {number : Nat} {entries : Dictionary String} :
    cache.heldEntries? number = some entries ↔
      ∃ place, cache.held[number]? = some (some place) ∧ cache.memory place = entries := by
  simp [heldEntries?, Option.join_eq_some_iff]

/-- A place that is held is in use, so that nothing else is put there. -/
theorem mem_inUse {number place : Nat} (held : cache.held[number]? = some (some place)) :
    place ∈ cache.inUse :=
  List.mem_cons_of_mem _ (List.mem_filterMap.mpr ⟨some place, List.mem_of_getElem? held, rfl⟩)

/-- An act leaves what a reader holds as it is, unless this reader lets it go. A cache that turns
puts its new entries at a place that is not in use. -/
theorem Turn.heldEntries? (turn : Turn allocator cache act after) {number : Nat}
    {entries : Dictionary String} (holds : act ≠ .release number)
    (held : cache.heldEntries? number = some entries) :
    after.heldEntries? number = some entries := by
  rw [heldEntries?_eq_some_iff] at held ⊢
  obtain ⟨place, told, found⟩ := held
  cases turn with
  | renewed now asks succeeded =>
    have inside : place ∈ cache.asked.inUse := mem_inUse told
    exact ⟨place, told, (memory_turnTo_of_mem inside _ now).trans found⟩
  | kept asks failed => exact ⟨place, told, found⟩
  | told =>
    have before : number < cache.held.length := (List.getElem?_eq_some_iff.mp told).1
    exact ⟨place, (List.getElem?_append_left before).trans told, found⟩
  | released other =>
    have apart : other ≠ number := fun same => holds (congrArg Act.release same)
    exact ⟨place, (List.getElem?_set_ne apart).trans told, found⟩
  | seen silent => exact ⟨place, told, found⟩

/-- What a reader holds stays as it was taken until this reader lets it go. -/
theorem heldEntries?_run (sound : cache.isPoisoned = false) {number : Nat}
    {entries : Dictionary String} (held : cache.heldEntries? number = some entries)
    (acts : List Act) (holds : .release number ∉ acts) :
    (cache.run allocator acts).heldEntries? number = some entries := by
  induction acts generalizing cache with
  | nil => exact held
  | cons act acts inductionHypothesis =>
    rw [List.mem_cons, not_or] at holds
    have turn := turn_perform allocator sound act
    rw [run_cons]
    exact inductionHypothesis (turn.sound sound) (turn.heldEntries? (Ne.symm holds.1) held) holds.2

/-- A reader holds the entries that it has just taken. -/
theorem heldEntries?_hold (allocator : Allocator) (sound : cache.isPoisoned = false) :
    (cache.perform allocator .hold).1 = cache.held.length ∧
      ((cache.perform allocator .hold).2).heldEntries? cache.held.length = some cache.entries := by
  rw [perform, hold_of_sound sound, heldEntries?_eq_some_iff, entries_of_sound sound]
  exact ⟨rfl, cache.place, by simp, rfl⟩

/-! ## Whole answers -/

/-- Readers see whole answers of the source, and always the last one.

There is a cache iff the first answer has entries; otherwise there is the error of this answer.
After any acts, the entries are those of the last success among the answers so far, of which there
is one for the loading and one for each refresh; names are found in them. Another refresh counts the
new entries and turns to them, or has the error of the source and leaves everything as it is. And
what a reader takes is still the same after any other acts, as long as this reader keeps it. -/
theorem readers_see_whole_answers (allocator : Allocator) (source : Nat → SourceAnswer)
    (start : Timestamp) :
    ((∃ cache, load allocator source start = .ok cache) ↔ ∃ entries, source 0 = .ok entries) ∧
    (∀ error, source 0 = .error error → load allocator source start = .error error) ∧
    ∀ cache, load allocator source start = .ok cache → ∀ acts,
      let now := cache.run allocator acts
      now.answered = 1 + acts.countP Act.asks ∧
      IsLatest source now.answered now.entries ∧
      now.perform allocator .entries = (now.entries, now) ∧
      (∀ key, now.perform allocator (.find key) = (now.entries.find? key, now) ∧
        now.perform allocator (.categoryName key) = (now.entries.find? key, now)) ∧
      (∀ moment entries, source now.answered = .ok entries →
        (now.perform allocator (.refresh moment)).1 = .ok entries.size ∧
          ((now.perform allocator (.refresh moment)).2).entries = entries) ∧
      (∀ moment error, source now.answered = .error error →
        now.perform allocator (.refresh moment) = (.error error, now.asked)) ∧
      (∀ moment, now.perform allocator (.tick moment) =
        (refreshLine (now.perform allocator (.refresh moment)).1,
          (now.perform allocator (.refresh moment)).2)) ∧
      (now.perform allocator .hold).1 = now.held.length ∧
      ∀ later, .release now.held.length ∉ later →
        (now.run allocator (.hold :: later)).heldEntries? now.held.length =
          some now.entries := by
  refine ⟨load_ok_iff source start, ?_, ?_⟩
  · intro error failed
    rw [load, failed]
    rfl
  · intro cache loaded acts now
    obtain ⟨loadedServes, once⟩ := serves_of_load loaded
    obtain ⟨serves, answered⟩ := loadedServes.run allocator acts
    obtain ⟨itsSource, sound, latest⟩ := serves
    obtain ⟨number, held⟩ := heldEntries?_hold allocator sound
    refine ⟨once ▸ answered, ?_, rfl, fun key => ⟨rfl, rfl⟩, ?_, ?_, fun moment => rfl, number, ?_⟩
    · rw [entries_of_sound sound]
      exact latest
    · intro moment entries succeeded
      have renewed : Prod.map id view (now.refresh allocator moment) =
          (.ok entries.size, ⟨entries⟩) := by
        rw [view_refresh moment sound, itsSource, succeeded]
        rfl
      exact ⟨congrArg Prod.fst renewed, congrArg (fun ended => ended.2.entries) renewed⟩
    · intro moment error failed
      exact refresh_of_error moment (itsSource ▸ failed)
    · intro later kept
      have turn := turn_perform allocator sound .hold
      rw [run_cons]
      exact heldEntries?_run (turn.sound sound) held later kept

/-- Entries of a first answer. -/
def alpha : Dictionary String := .ofList [("A", "Alpha")]

/-- Entries of a second answer. -/
def alphaAndBeta : Dictionary String := .ofList [("A", "Alpha v2"), ("B", "Beta")]

/-- A source that has entries twice and fails from then on. -/
def failingAtThird : Nat → SourceAnswer
  | 0 => .ok alpha
  | 1 => .ok alphaAndBeta
  | _ => .error ⟨"db down"⟩

/-- The cache that its first answer fills. -/
def alphaCache : SharedCache where
  source := failingAtThird
  answered := 1
  memory := Memory.put (fun _ => .empty) 1 alpha
  place := 1
  loadedAt := default
  isPoisoned := false
  held := []

/-- The first entries are taken, the second ones replace them in the cache and stay there when the
source fails, and what was taken is still the first ones. -/
theorem alpha_held_beyond_refresh :
    load .next failingAtThird default = .ok alphaCache ∧
    (let taken := alphaCache.run .next [.hold]
     (taken.perform .next (.refresh default)).1 = .ok 2 ∧
      ((taken.perform .next (.refresh default)).2).entries = alphaAndBeta) ∧
    (let turned := alphaCache.run .next [.hold, .refresh default]
     turned.perform .next (.refresh default) = (.error ⟨"db down"⟩, turned.asked)) ∧
    .release 0 ∉ [Act.refresh default, .tick default] ∧
      (alphaCache.run .next [.hold, .refresh default, .tick default]).heldEntries? 0 =
        some alpha := by
  have loaded : load .next failingAtThird default = .ok alphaCache := rfl
  have kept : .release 0 ∉ [Act.refresh default, .tick default] := by decide
  obtain ⟨-, -, everywhere⟩ := readers_see_whole_answers .next failingAtThird default
  obtain ⟨-, -, -, -, -, -, -, -, taken⟩ := everywhere alphaCache loaded []
  obtain ⟨-, -, -, -, renewed, -⟩ := everywhere alphaCache loaded [.hold]
  obtain ⟨-, -, -, -, -, failed, -⟩ := everywhere alphaCache loaded [.hold, .refresh default]
  exact ⟨loaded, renewed default alphaAndBeta rfl, failed default _ rfl, kept, taken _ kept⟩

end SharedCache

end Outbox
