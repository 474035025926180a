import Outbox.Proofs.Aggregate.Lifecycle
import Outbox.Proofs.Aggregate.Published

/-!
# The review of a product

A reviewer approves or rejects a product under review, and a rejection has a reason. The reason that
a product holds is the one of the last verdict on it: an approval takes an earlier reason away, but
a new name does not. So a rejected product that gets a new name is under review again and still
holds the reason, and publishes it, until the next verdict.
-/

namespace Outbox.Product

open Json Calendar Lifecycle

/-! ## Operations and verdicts -/

/-- What may be asked of a product. -/
inductive Operation
  | rename (name : String) (moment : Timestamp)
  | approve (reviewer : Identifier) (moment : Timestamp)
  | reject (reviewer : Identifier) (reason : String) (moment : Timestamp)

/-- Carries out an operation. -/
def perform (operation : Operation) (product : Product) : Except DomainError Product :=
  match operation with
  | .rename name moment => product.rename name moment
  | .approve reviewer moment => product.approve reviewer moment
  | .reject reviewer reason moment => product.reject reviewer reason moment

/-- What a reviewer says of a product. -/
inductive Verdict
  | approval
  | rejection (reason : String)
  deriving DecidableEq

/-- The reason that a verdict gives. -/
def Verdict.reason? : Verdict → Option String
  | approval => none
  | rejection reason => some reason

/-- The verdict that an operation is, if it is one. -/
def Operation.verdict? : Operation → Option Verdict
  | .rename _ _ => none
  | .approve _ _ => some .approval
  | .reject _ reason _ => some (.rejection reason)

/-- The last verdict among some operations. -/
def lastVerdict (history : List Operation) : Option Verdict :=
  (history.filterMap Operation.verdict?).getLast?

/-- A new name is no verdict and leaves the last one as it was. -/
theorem lastVerdict_rename (history : List Operation) (name : String) (moment : Timestamp) :
    lastVerdict (history ++ [.rename name moment]) = lastVerdict history :=
  last_of_none Operation.verdict? rfl history

/-- A verdict is the last one from then on. -/
theorem lastVerdict_verdict (history : List Operation) {operation : Operation} {verdict : Verdict}
    (judges : operation.verdict? = some verdict) :
    lastVerdict (history ++ [operation]) = some verdict :=
  last_of_some Operation.verdict? judges history

/-- What an accepted operation does: it gives another name and sends the product back to review, or
it is a verdict on a product under review, which gives a reason exactly if it is a rejection. -/
theorem perform_cases {operation : Operation} {product changed : Product}
    (accepted : perform operation product = .ok changed) :
    (∃ name moment, operation = .rename name moment ∧ changed = { product with
      name
      status := .submitted
      reviewedBy := none
      updatedAt := moment }) ∨
    (∃ reviewer moment, operation = .approve reviewer moment ∧ product.status = .submitted ∧
      changed = { product with
        status := .approved
        rejectionReason := none
        reviewedBy := some reviewer
        updatedAt := moment }) ∨
    ∃ reviewer reason moment, operation = .reject reviewer reason moment ∧
      product.status = .submitted ∧ changed = { product with
        status := .rejected
        rejectionReason := some reason
        reviewedBy := some reviewer
        updatedAt := moment } := by
  cases operation with
  | rename name moment =>
    rw [perform, rename, checkName] at accepted
    split at accepted
    · cases accepted
    · cases accepted
      exact .inl ⟨name, moment, rfl, rfl⟩
  | approve reviewer moment =>
    rw [perform, approve, checkUnderReview] at accepted
    split at accepted
    · next underReview =>
      cases accepted
      exact .inr (.inl ⟨reviewer, moment, rfl, underReview, rfl⟩)
    · cases accepted
  | reject reviewer reason moment =>
    rw [perform, reject, checkUnderReview] at accepted
    split at accepted
    · next underReview =>
      simp only [bind, Except.bind] at accepted
      split at accepted
      · cases accepted
      · cases accepted
        exact .inr (.inr ⟨reviewer, reason, moment, rfl, underReview, rfl⟩)
    · cases accepted

/-! ## The reason of the last verdict -/

/-- How a product stands after its accepted operations. The reason is that of the last verdict, and
a product that is not under review stands as that verdict left it. -/
structure Reviewed (history : List Operation) (product : Product) : Prop where
  reason : product.rejectionReason = (lastVerdict history).bind Verdict.reason?
  approved : product.status = .approved → lastVerdict history = some .approval
  rejected : product.status = .rejected → ∃ reason, lastVerdict history = some (.rejection reason)

/-- An accepted operation is one more entry of the history, and what the product says of its review
is again what the last verdict of the history has left behind. -/
theorem Reviewed.perform {operation : Operation} {history : List Operation}
    {product changed : Product} (accepted : Product.perform operation product = .ok changed)
    (reviewed : Reviewed history product) : Reviewed (history ++ [operation]) changed := by
  rcases perform_cases accepted with ⟨name, moment, rfl, rfl⟩ | ⟨reviewer, moment, rfl, -, rfl⟩ |
    ⟨reviewer, reason, moment, rfl, -, rfl⟩
  · refine ⟨?_, ProductStatus.noConfusion, ProductStatus.noConfusion⟩
    rw [lastVerdict_rename]
    exact reviewed.reason
  · have last : lastVerdict (history ++ [.approve reviewer moment]) = some .approval :=
      lastVerdict_verdict history rfl
    refine ⟨?_, fun _ => last, ProductStatus.noConfusion⟩
    rw [last]
    rfl
  · have last : lastVerdict (history ++ [.reject reviewer reason moment]) =
        some (.rejection reason) :=
      lastVerdict_verdict history rfl
    refine ⟨?_, ProductStatus.noConfusion, fun _ => ⟨reason, last⟩⟩
    rw [last]
    rfl

/-- A submission is accepted with a name and a trade item number, and is what was submitted, under
review from the time of the submission on. -/
theorem submit_ok {id supplier : Identifier} {gtin name categoryCode : String} {moment : Timestamp}
    {submitted : Product}
    (isSubmission : submit id supplier gtin name categoryCode moment = .ok submitted) :
    Text.isBlank name = false ∧ Gtin.validate gtin = .ok () ∧ submitted = {
      id, supplier, gtin, name, categoryCode
      status := .submitted
      rejectionReason := none
      reviewedBy := none
      updatedAt := moment } := by
  rw [submit, checkName] at isSubmission
  cases blank : Text.isBlank name with
  | true =>
    rw [blank] at isSubmission
    cases isSubmission
  | false =>
    rw [blank] at isSubmission
    cases valid : Gtin.validate gtin with
    | error refused =>
      rw [valid] at isSubmission
      cases isSubmission
    | ok _ =>
      rw [valid] at isSubmission
      cases isSubmission
      exact ⟨rfl, rfl, rfl⟩

/-- An accepted submission is under review and holds no reason. -/
theorem of_submit {id supplier : Identifier} {gtin name categoryCode : String} {moment : Timestamp}
    {submitted : Product}
    (isSubmission : submit id supplier gtin name categoryCode moment = .ok submitted) :
    submitted.status = .submitted ∧ submitted.rejectionReason = none := by
  obtain ⟨_, _, rfl⟩ := submit_ok isSubmission
  exact ⟨rfl, rfl⟩

/-! ## Publication -/

/-- The handler makes a message of every product. It holds the reason that the product holds, and
none if the product holds none. -/
theorem published_reason (product : Product) (names : CategoryNames) :
    ∃ members, handler.prepare names product.json = .ok {
        partitionKey := product.gtin
        payload := .object members
        version := 2 } ∧
      lookUp? "rejectionReason" members = product.rejectionReason.map .string := by
  have prepared : handler.prepare names product.json = .ok {
      partitionKey := product.gtin
      payload := product.message names
      version := 2 } := by
    rw [handler, Handler.prepare_reading (readsBack product)]
    rfl
  rw [message_eq] at prepared
  refine ⟨_, prepared, ?_⟩
  rw [lookUp?_append, lookUp?_append, lookUp?_optionalMember, if_pos rfl]
  exact Option.or_none

/-- The reason that a product holds is that of the last verdict that was accepted, whichever
operations led to it, the refused ones among them. So it holds a reason exactly if it is rejected,
or if it is under review again and its last verdict was a rejection. Its message holds the same
reason, or none. -/
theorem reason_of_last_verdict {id supplier : Identifier} {gtin name categoryCode : String}
    {moment : Timestamp} {submitted : Product}
    (isSubmission : submit id supplier gtin name categoryCode moment = .ok submitted)
    (operations : List Operation) (names : CategoryNames) :
    let product := afterAll perform submitted operations
    let last := lastVerdict (accepted perform submitted operations)
    product.rejectionReason = last.bind Verdict.reason? ∧
    (product.rejectionReason.isSome = true ↔ product.status = .rejected ∨
      product.status = .submitted ∧ ∃ reason, last = some (.rejection reason)) ∧
    ∃ members, handler.prepare names product.json = .ok {
        partitionKey := product.gtin
        payload := .object members
        version := 2 } ∧
      lookUp? "rejectionReason" members = product.rejectionReason.map .string := by
  intro product last
  obtain ⟨underReview, noReason⟩ := of_submit isSubmission
  have fresh : Reviewed [] submitted := by
    refine ⟨noReason, ?_, ?_⟩
    · intro approved
      rw [underReview] at approved
      cases approved
    · intro rejected
      rw [underReview] at rejected
      cases rejected
  obtain ⟨reason, approved, rejected⟩ : Reviewed (accepted perform submitted operations) product :=
    history_afterAll (fun performed reviewed => reviewed.perform performed) fresh operations
  refine ⟨reason, ?_, ?_⟩
  · -- The last verdict on an approved product gives no reason, and on a rejected one it gives one.
    rw [reason]
    cases stage : product.status with
    | submitted =>
      cases judged : last with
      | none => simp [judged, last]
      | some verdict => cases verdict <;> simp [judged, last, Verdict.reason?]
    | approved => simp [approved stage, Verdict.reason?]
    | rejected =>
      obtain ⟨given, judged⟩ := rejected stage
      simp [judged, Verdict.reason?]
  · exact published_reason product names

/-- The submission of a pen. -/
def pen : Except DomainError Product :=
  submit (.ofNumber 1) (.ofNumber 2) "4006381333931" "Pen" "OFFICE" default

/-- A pen that is approved after a rejection and a new name holds no reason any more. -/
theorem approved_pen_without_reason :
    ∃ submitted, pen = .ok submitted ∧
      (afterAll perform submitted [.reject (.ofNumber 3) "missing datasheet" default,
        .rename "Fine pen" default, .approve (.ofNumber 3) default]).rejectionReason = none := by
  refine ⟨_, rfl, ?_⟩
  exact (reason_of_last_verdict (show pen = .ok _ from rfl) [
    .reject (.ofNumber 3) "missing datasheet" default, .rename "Fine pen" default,
    .approve (.ofNumber 3) default] fun _ => none).1

/-- A rejected pen that gets a new name is under review again, but still holds and publishes the
reason of its rejection. -/
theorem renamed_pen_keeps_reason :
    ∃ submitted renamed, pen = .ok submitted ∧
      renamed = afterAll perform submitted [.reject (.ofNumber 3) "missing datasheet" default,
        .rename "Fine pen" default] ∧
      ¬(renamed.rejectionReason.isSome = true ↔ renamed.status = .rejected) ∧
      ∃ members, handler.prepare (fun _ => none) renamed.json = .ok {
          partitionKey := "4006381333931"
          payload := .object members
          version := 2 } ∧
        lookUp? "rejectionReason" members = some (.string "missing datasheet") := by
  refine ⟨_, _, rfl, rfl, by decide, ?_⟩
  exact published_reason _ fun _ => none

end Outbox.Product
