import Outbox.Handler

/-!
# The registry of handlers

The registry holds at most one handler for each kind of aggregate. The first one that is registered
stays.
-/

namespace Outbox

/-- Why there is no handler. -/
inductive RegistryError
  | notFound (kind : AggregateType)
  | duplicate (kind : AggregateType)
  /-- Kinds without a handler, in order. -/
  | incomplete (kinds : List AggregateType)
  deriving DecidableEq, Repr

/-- Titles between brackets. -/
def titleList (kinds : List AggregateType) : String :=
  "[" ++ String.intercalate ", " (kinds.map AggregateType.title) ++ "]"

/-- The message of an error. -/
def RegistryError.message : RegistryError → String
  | .notFound kind => "no payload handler registered for " ++ kind.text
  | .duplicate kind => "payload handler for " ++ kind.text ++ " registered twice"
  | .incomplete kinds => "payload handlers missing for: " ++ titleList kinds

/-- The registered handlers, in the order of their registration. -/
structure Registry where
  handlers : List Handler
  /-- No two handlers are for the same kind. -/
  distinct : handlers.Pairwise fun left right => left.tag ≠ right.tag

namespace Registry

/-- The registry without handlers. -/
def empty : Registry := ⟨[], List.Pairwise.nil⟩

/-- The handler for a kind. -/
def find? (registry : Registry) (kind : AggregateType) : Option Handler :=
  registry.handlers.find? fun handler => handler.tag = kind

/-- Whether there is a handler for a kind. -/
def contains (registry : Registry) (kind : AggregateType) : Bool :=
  (registry.find? kind).isSome

/-- The handler for a kind, or the error that there is none. -/
def resolve (registry : Registry) (kind : AggregateType) : Except RegistryError Handler :=
  match registry.find? kind with
  | some handler => .ok handler
  | none => .error (.notFound kind)

/-- The number of handlers. -/
def size (registry : Registry) : Nat :=
  registry.handlers.length

theorem tag_ne_of_not_contains {registry : Registry} {kind : AggregateType}
    (absent : ¬registry.contains kind) : ∀ handler ∈ registry.handlers, handler.tag ≠ kind := by
  simpa [contains, find?, List.find?_isSome] using absent

/-- The registry with a handler more, unless its kind has one already. -/
def register (registry : Registry) (handler : Handler) : Except RegistryError Registry :=
  if absent : registry.contains handler.tag then .error (.duplicate handler.tag)
  else .ok {
    handlers := registry.handlers ++ [handler]
    distinct := List.pairwise_append.2 ⟨registry.distinct, List.pairwise_singleton _ _,
      fun left inside right only => by
        rw [List.mem_singleton.1 only]
        exact tag_ne_of_not_contains absent left inside⟩ }

/-- Registers handlers one after the other. -/
def registerAll (registry : Registry) (handlers : List Handler) : Except RegistryError Registry :=
  handlers.foldlM register registry

/-- What becomes of a handler that is to be registered, and the registry afterwards. A registry that
    refuses a handler stays as it was. -/
def offer (registry : Registry) (handler : Handler) : Except RegistryError Unit × Registry :=
  match registry.register handler with
  | .ok grown => (.ok (), grown)
  | .error error => (.error error, registry)

/-- What becomes of each of some handlers that are to be registered one after the other, and the
    registry afterwards. -/
def offerAll (registry : Registry) : List Handler → List (Except RegistryError Unit) × Registry
  | [] => ([], registry)
  | handler :: rest =>
    let (answer, registry) := registry.offer handler
    let (answers, registry) := registry.offerAll rest
    (answer :: answers, registry)

/-- Refuses a registry in which some of the expected kinds have no handler, and names each of them
    once, in order. -/
def ensureComplete (registry : Registry) (expected : List AggregateType) :
    Except RegistryError Unit :=
  let missing := expected.filter fun kind => !registry.contains kind
  if missing.isEmpty then .ok ()
  else
    let sorted := missing.mergeSort fun left right => left.rank ≤ right.rank
    .error (.incomplete sorted.eraseReps)

/-- The registry as it is listed: its kinds in order. -/
def text (registry : Registry) : String :=
  "PayloadRegistry \x7b handlers: " ++ titleList (AggregateType.all.filter registry.contains) ++
    " \x7d"

end Registry

end Outbox
