import Outbox.Dictionary

/-!
# Reference data

Category names come from a source that may fail. A cache keeps the last complete answer: it starts
with one, a further answer replaces it as a whole, and a failure leaves it in place. Whoever holds
an earlier answer keeps it unchanged.
-/

namespace Outbox

/-- Why the source has no answer. -/
structure ReferenceError where
  reason : String
  deriving DecidableEq, Repr

/-- The message of an error. -/
def ReferenceError.message (error : ReferenceError) : String :=
  "reference data unavailable: " ++ error.reason

/-- An answer of the source: names by codes, or a failure. -/
abbrev SourceAnswer := Except ReferenceError (Dictionary String)

/-- The last complete answer of the source. -/
structure ReferenceCache where
  entries : Dictionary String

namespace ReferenceCache

/-- What the regular refresh is called. -/
def jobName : String := "reference-cache-refresh"

/-- The cache that a first answer fills. -/
def load (answer : SourceAnswer) : Except ReferenceError ReferenceCache :=
  answer.map ReferenceCache.mk

/-- Takes another answer: the number of its entries and the cache afterwards. -/
def refresh (cache : ReferenceCache) (answer : SourceAnswer) :
    Except ReferenceError Nat × ReferenceCache :=
  match answer with
  | .ok entries => (.ok entries.size, ⟨entries⟩)
  | .error error => (.error error, cache)

/-- The name under a code. -/
def find? (cache : ReferenceCache) (code : String) : Option String :=
  cache.entries.find? code

end ReferenceCache

end Outbox
