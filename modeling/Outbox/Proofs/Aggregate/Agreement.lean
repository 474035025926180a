import Outbox.Proofs.Aggregate.Lifecycle
import Outbox.Proofs.Aggregate.Published

/-!
# Lives of agreements

An agreement keeps its identifier, its supplier and its time of validity, and it covers a product
once it is signed. Its snapshots are published at every stage, except that an agreement may be
terminated before it covers any product: the domain allows this, and the handler refuses what it
leads to.
-/

namespace Outbox.Agreement

open Json Calendar Lifecycle

/-- What may be asked of an agreement. -/
inductive Operation
  | addProduct (product : Identifier) (moment : Timestamp)
  | sign (signer : Identifier) (moment : Timestamp)
  | terminate (moment : Timestamp)

/-- Carries out an operation. -/
def perform (operation : Operation) (agreement : Agreement) : Except DomainError Agreement :=
  match operation with
  | .addProduct product moment => agreement.addProduct product moment
  | .sign signer moment => agreement.sign signer moment
  | .terminate moment => agreement.terminate moment

/-! ## Operations -/

/-- What an accepted operation does: it adds a product to a draft, keeps a draft that covers the
product already, signs a draft that covers a product, or terminates. -/
theorem perform_cases {operation : Operation} {agreement changed : Agreement}
    (accepted : perform operation agreement = .ok changed) :
    (∃ product moment, operation = .addProduct product moment ∧ agreement.status = .draft ∧
      product ∉ agreement.products ∧ changed =
        { agreement with products := agreement.products ++ [product], updatedAt := moment }) ∨
    (∃ product moment, operation = .addProduct product moment ∧ agreement.status = .draft ∧
      product ∈ agreement.products ∧ changed = agreement) ∨
    (∃ signer moment, operation = .sign signer moment ∧ agreement.status = .draft ∧
      agreement.products ≠ [] ∧ changed =
        { agreement with status := .signed, signedBy := some signer, updatedAt := moment }) ∨
    ∃ moment, operation = .terminate moment ∧ agreement.status ≠ .terminated ∧ changed =
      { agreement with status := .terminated, updatedAt := moment } := by
  cases operation with
  | addProduct product moment =>
    rw [perform, addProduct] at accepted
    split at accepted
    · cases accepted
    · next draft =>
      split at accepted
      · next covered =>
        cases accepted
        exact .inr (.inl ⟨product, moment, rfl, not_not.mp draft, covered, rfl⟩)
      · next new =>
        cases accepted
        exact .inl ⟨product, moment, rfl, not_not.mp draft, new, rfl⟩
  | sign signer moment =>
    rw [perform, sign] at accepted
    split at accepted
    · cases accepted
    · next draft =>
      split at accepted
      · cases accepted
      · next covering =>
        cases accepted
        exact .inr (.inr (.inl ⟨signer, moment, rfl, not_not.mp draft,
          fun empty => covering (List.isEmpty_iff.mpr empty), rfl⟩))
  | terminate moment =>
    rw [perform, terminate] at accepted
    split at accepted
    · cases accepted
    · next running =>
      cases accepted
      exact .inr (.inr (.inr ⟨moment, rfl, running, rfl⟩))

/-- What every operation on an agreement keeps of its draft, and what holds of it when signed. -/
structure Follows (drafted agreement : Agreement) : Prop where
  id : agreement.id = drafted.id
  supplier : agreement.supplier = drafted.supplier
  validFrom : agreement.validFrom = drafted.validFrom
  validUntil : agreement.validUntil = drafted.validUntil
  covering : agreement.status = .signed → agreement.products ≠ []

/-- An accepted operation keeps what an agreement has of its draft. Only signing could break the
last part, and it asks for a product. -/
theorem Follows.perform {drafted agreement changed : Agreement} {operation : Operation}
    (accepted : Agreement.perform operation agreement = .ok changed)
    (follows : Follows drafted agreement) : Follows drafted changed := by
  obtain ⟨id, supplier, validFrom, validUntil, covering⟩ := follows
  rcases perform_cases accepted with ⟨product, moment, -, draft, -, rfl⟩ | ⟨_, _, -, -, -, rfl⟩ |
    ⟨signer, moment, -, -, covers, rfl⟩ | ⟨moment, -, -, rfl⟩
  · exact ⟨id, supplier, validFrom, validUntil, fun _ => by simp⟩
  · exact ⟨id, supplier, validFrom, validUntil, covering⟩
  · exact ⟨id, supplier, validFrom, validUntil, fun _ => covers⟩
  · exact ⟨id, supplier, validFrom, validUntil, fun signed => by cases signed⟩

/-- An accepted draft is what was asked for, without a product and unsigned. Only its dates are
checked. -/
theorem of_draft {id supplier : Identifier} {validFrom : Date} {validUntil : Option Date}
    {moment : Timestamp} {drafted : Agreement}
    (isDraft : draft id supplier validFrom validUntil moment = .ok drafted) :
    drafted = {
      id, supplier, validFrom, validUntil
      products := []
      status := .draft
      signedBy := none
      updatedAt := moment } := by
  rw [draft] at isDraft
  cases checked : checkValidity validFrom validUntil with
  | error refused =>
    rw [checked] at isDraft
    cases isDraft
  | ok _ =>
    rw [checked] at isDraft
    cases isDraft
    rfl

/-! ## Publication -/

/-- The handler refuses the snapshot of an agreement past its draft that covers nothing, and makes
a message of every other. -/
theorem prepare_json (agreement : Agreement) (names : CategoryNames) :
    handler.prepare names agreement.json =
      if agreement.status ≠ .draft ∧ agreement.products.isEmpty then
        .error (.transform .agreement ("agreement " ++ agreement.id.text ++ " has no products"))
      else .ok {
        partitionKey := agreement.supplier.text
        payload := agreement.message
        version := 1 } := by
  rw [handler, Handler.prepare_reading (readsBack agreement)]
  split <;> rfl

/-- An agreement that any operations lead to from its draft is published, with the products that it
covers in their order, the time of validity that it was drafted for and its stage, unless it was
terminated without covering any product. Its snapshot is then refused, every time. -/
theorem published_unless_ended_empty {id supplier : Identifier} {validFrom : Date}
    {validUntil : Option Date} {moment : Timestamp} {drafted : Agreement}
    (isDraft : draft id supplier validFrom validUntil moment = .ok drafted)
    (operations : List Operation) (names : CategoryNames) :
    handler.prepare names (afterAll perform drafted operations).json =
      if (afterAll perform drafted operations).status = .terminated ∧
          (afterAll perform drafted operations).products = [] then
        .error (.transform .agreement ("agreement " ++ id.text ++ " has no products"))
      else .ok {
        partitionKey := supplier.text
        version := 1
        payload := .object ([
          ("agreementId", .string id.text),
          ("productIds", .array ((afterAll perform drafted operations).products.map fun product =>
            .string product.text)),
          ("status", .string (afterAll perform drafted operations).status.text),
          ("supplierId", .string supplier.text),
          ("validFrom", .string validFrom.text)] ++
          optionalMember "validUntil" (fun till => .string till.text) validUntil) } := by
  have drafts := of_draft isDraft
  have unsigned : drafted.status = .signed → drafted.products ≠ [] := fun signed => by
    rw [drafts] at signed
    cases signed
  have follows : Follows drafted (afterAll perform drafted operations) :=
    invariant_afterAll (fun accepted follows => follows.perform accepted)
      ⟨rfl, rfl, rfl, rfl, unsigned⟩ operations
  generalize afterAll perform drafted operations = agreement at *
  obtain ⟨sameId, sameSupplier, sameStart, sameEnd, covering⟩ := follows
  -- A signed agreement covers a product, so only the last stage is left besides the draft.
  have refused : (agreement.status ≠ .draft ∧ agreement.products.isEmpty) ↔
      agreement.status = .terminated ∧ agreement.products = [] := by
    rw [List.isEmpty_iff]
    cases stage : agreement.status with
    | draft => simp
    | signed => simpa using covering stage
    | terminated => simp
  rw [prepare_json, message_eq, sameId, sameSupplier, sameStart, sameEnd, drafts]
  simp only [refused]
  rfl

/-- The draft of an agreement without an end. -/
def openEnded : Except DomainError Agreement :=
  draft (.ofNumber 1) (.ofNumber 2) ⟨2026, 1, 1, by decide⟩ none default

/-- Once it covers a product and is signed, it is published. -/
theorem signed_agreement_published :
    ∃ drafted, openEnded = .ok drafted ∧
      handler.prepare (fun _ => none) (afterAll perform drafted
        [.addProduct (.ofNumber 3) default, .sign (.ofNumber 4) default]).json = .ok {
          partitionKey := "00000000-0000-0000-0000-000000000002"
          version := 1
          payload := .object [
            ("agreementId", .string "00000000-0000-0000-0000-000000000001"),
            ("productIds", .array [.string "00000000-0000-0000-0000-000000000003"]),
            ("status", .string "signed"),
            ("supplierId", .string "00000000-0000-0000-0000-000000000002"),
            ("validFrom", .string "2026-01-01")] } := by
  refine ⟨_, rfl, ?_⟩
  rw [published_unless_ended_empty (show openEnded = .ok _ from rfl)]
  rfl

/-- Terminated while it covers nothing, it is refused. -/
theorem empty_agreement_refused :
    ∃ drafted, openEnded = .ok drafted ∧
      handler.prepare (fun _ => none) (afterAll perform drafted [.terminate default]).json =
        .error (.transform .agreement
          "agreement 00000000-0000-0000-0000-000000000001 has no products") := by
  refine ⟨_, rfl, ?_⟩
  rw [prepare_json]
  rfl

end Outbox.Agreement
