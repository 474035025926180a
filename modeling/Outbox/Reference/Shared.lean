import Outbox.Calendar.Timestamp
import Outbox.Log.Line
import Outbox.Reference

/-!
# Shared reference data

A cache does not copy its entries for its readers. It tells them the place in memory where the
entries are, and whoever holds a place finds the same entries there for as long as it is held. So a
refresh leaves the old entries where they are: it puts the new ones at a place that nobody holds and
then turns the cache there. A place that nobody holds any longer is given out again.

A refresh touches nothing before the source has answered. Here it happens at the moment of the
answer, and the answers of the source have numbers in this order.
-/

namespace Outbox

open Calendar

/-- How places for new entries are chosen among those that nobody holds. -/
structure Allocator where
  place : List Nat → Nat
  fresh : ∀ held, place held ∉ held

/-- Takes the place behind all that are held. -/
def Allocator.next : Allocator where
  place held := held.max?.getD 0 + 1
  fresh _ inside := Nat.not_succ_le_self _ (List.le_max?_getD_of_mem inside)

/-- What is at each place in memory. -/
abbrev Memory := Nat → Dictionary String

/-- The memory after entries have been put at a place. -/
def Memory.put (memory : Memory) (place : Nat) (entries : Dictionary String) : Memory :=
  fun other => if other = place then entries else memory other

/-- A cache with its source, its readers and the memory in which they share the entries. -/
structure SharedCache where
  /-- The answers of the source by their numbers. -/
  source : Nat → SourceAnswer
  /-- How many of them have been given. -/
  answered : Nat
  memory : Memory
  /-- Where the entries of the cache are. -/
  place : Nat
  /-- When the cache was turned there. -/
  loadedAt : Timestamp
  /-- Whether somebody has crashed in the middle of a change. -/
  isPoisoned : Bool
  /-- The places that readers have been told, in this order, as long as they hold them. -/
  held : List (Option Nat)

namespace SharedCache

/-- The part of the program that writes the log lines. -/
def target : String := "supplyreg_infra::reference_cache"

/-- The cache that the first answer of a source fills. -/
def load (allocator : Allocator) (source : Nat → SourceAnswer) (now : Timestamp) :
    Except ReferenceError SharedCache :=
  (source 0).map fun entries =>
    let place := allocator.place []
    { source
      answered := 1
      memory := Memory.put (fun _ => .empty) place entries
      place
      loadedAt := now
      isPoisoned := false
      held := [] }

/-- The places that somebody holds. -/
def inUse (cache : SharedCache) : List Nat :=
  cache.place :: cache.held.filterMap id

/-- Puts entries into memory: their place, and the memory afterwards. -/
def store (allocator : Allocator) (cache : SharedCache) (entries : Dictionary String) :
    Nat × Memory :=
  let place := allocator.place cache.inUse
  (place, cache.memory.put place entries)

/-- The cache after the source has answered once more. -/
def asked (cache : SharedCache) : SharedCache :=
  { cache with answered := cache.answered + 1 }

/-- The cache turned to new entries. -/
def turnTo (allocator : Allocator) (cache : SharedCache) (entries : Dictionary String)
    (now : Timestamp) : SharedCache :=
  let (place, memory) := cache.store allocator entries
  { cache with memory, place, loadedAt := now }

/-- Asks the source for new entries: their number or the error, and the cache afterwards. -/
def refresh (allocator : Allocator) (cache : SharedCache) (now : Timestamp) :
    Except ReferenceError Nat × SharedCache :=
  match cache.source cache.answered with
  | .error error => (.error error, cache.asked)
  | .ok entries =>
    if cache.isPoisoned then (.error ⟨"cache lock poisoned"⟩, cache.asked)
    else (.ok entries.size, cache.asked.turnTo allocator entries now)

/-- What the regular refresh writes to the log. -/
def refreshLine : Except ReferenceError Nat → Log.Line
  | .ok count => ⟨.info, target, "reference cache refreshed", [("entries", .number count)]⟩
  | .error error => ⟨.warn, target, "reference cache refresh failed; keeping previous snapshot",
      [("error", .bare error.message)]⟩

/-- The regular refresh: its line in the log, and the cache afterwards. -/
def tick (allocator : Allocator) (cache : SharedCache) (now : Timestamp) :
    Log.Line × SharedCache :=
  let (answer, cache) := cache.refresh allocator now
  (refreshLine answer, cache)

/-- The entries that a reader sees, which are none once somebody has crashed. -/
def entries (cache : SharedCache) : Dictionary String :=
  if cache.isPoisoned then .empty else cache.memory cache.place

/-- The moment of the last refresh that a reader sees. -/
def loadedAt? (cache : SharedCache) : Option Timestamp :=
  if cache.isPoisoned then none else some cache.loadedAt

/-- The name under a key. -/
def find? (cache : SharedCache) (key : String) : Option String :=
  cache.entries.find? key

/-- The name of a category. -/
def categoryName (cache : SharedCache) (code : String) : Option String :=
  cache.find? code

/-- Tells a reader the place of the entries: the number under which it is held, and the cache
    afterwards. -/
def hold (allocator : Allocator) (cache : SharedCache) : Nat × SharedCache :=
  let number := cache.held.length
  if cache.isPoisoned then
    let (place, memory) := cache.store allocator .empty
    (number, { cache with memory, held := cache.held ++ [some place] })
  else (number, { cache with held := cache.held ++ [some cache.place] })

/-- What is now at a place that a reader holds. -/
def heldEntries? (cache : SharedCache) (number : Nat) : Option (Dictionary String) :=
  cache.held[number]?.join.map cache.memory

/-- The cache after a reader has let a place go. -/
def release (cache : SharedCache) (number : Nat) : SharedCache :=
  { cache with held := cache.held.set number none }

/-! ## Sequences -/

/-- What is done with a cache. -/
inductive Act
  | refresh (now : Timestamp)
  | tick (now : Timestamp)
  | find (key : String)
  | categoryName (code : String)
  | entries
  | loadedAt
  | hold
  | heldEntries (number : Nat)
  | release (number : Nat)
  deriving DecidableEq

/-- What an act answers. -/
def Act.Answer : Act → Type
  | refresh _ => Except ReferenceError Nat
  | tick _ => Log.Line
  | find _ => Option String
  | categoryName _ => Option String
  | entries => Dictionary String
  | loadedAt => Option Timestamp
  | hold => Nat
  | heldEntries _ => Option (Dictionary String)
  | release _ => Unit

/-- Whether the source answers in an act. -/
def Act.asks : Act → Bool
  | refresh _ => true
  | tick _ => true
  | _ => false

/-- The answer of an act, and the cache afterwards. -/
def perform (allocator : Allocator) (cache : SharedCache) : (act : Act) → act.Answer × SharedCache
  | .refresh now => cache.refresh allocator now
  | .tick now => cache.tick allocator now
  | .find key => (cache.find? key, cache)
  | .categoryName code => (cache.categoryName code, cache)
  | .entries => (cache.entries, cache)
  | .loadedAt => (cache.loadedAt?, cache)
  | .hold => cache.hold allocator
  | .heldEntries number => (cache.heldEntries? number, cache)
  | .release number => ((), cache.release number)

/-- The cache after acts one after the other. -/
def run (allocator : Allocator) (cache : SharedCache) (acts : List Act) : SharedCache :=
  acts.foldl (fun cache act => (cache.perform allocator act).2) cache

end SharedCache

end Outbox
