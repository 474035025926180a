import Outbox.Proofs.Aggregate.Review
import Outbox.Proofs.Gtin

/-!
# Lives of products

Whatever is asked of a product after its submission, it keeps its identity and its trade item
number, it has a name, and it names a reviewer exactly while it is not under review: the one of the
last verdict. An operation is accepted for its arguments and the state of the review alone, and the
time of the product is that of the last one that was accepted.
-/

namespace Outbox.Product

open Calendar Lifecycle

/-! ## What an operation says -/

/-- The reviewer who gives a verdict, if an operation is one. -/
def Operation.reviewer? : Operation → Option Identifier
  | .rename _ _ => none
  | .approve reviewer _ => some reviewer
  | .reject reviewer _ _ => some reviewer

/-- The time of an operation. -/
def Operation.moment : Operation → Timestamp
  | .rename _ moment => moment
  | .approve _ moment => moment
  | .reject _ _ moment => moment

/-- Whether a product can be given an operation: a new name at any time, unless it is blank, and a
verdict only under review, a rejection not without a reason. -/
def Operation.Fits (product : Product) : Operation → Prop
  | .rename name _ => Text.isBlank name = false
  | .approve _ _ => product.status = .submitted
  | .reject _ reason _ => product.status = .submitted ∧ Text.isBlank reason = false

/-- An operation is accepted exactly if it fits the product. There is one case for each operation,
with the checks in the order in which it makes them. -/
theorem accepted_iff_fits (operation : Operation) (product : Product) :
    (∃ changed, perform operation product = .ok changed) ↔ operation.Fits product := by
  cases operation with
  | rename name moment =>
    rw [perform, rename, checkName, Operation.Fits]
    cases Text.isBlank name with
    | true => simp [bind, Except.bind]
    | false => simp [bind, Except.bind, pure, Except.pure]
  | approve reviewer moment =>
    rw [perform, approve, checkUnderReview, Operation.Fits]
    by_cases underReview : product.status = .submitted
    · simp [underReview, bind, Except.bind, pure, Except.pure]
    · simp [underReview, bind, Except.bind]
  | reject reviewer reason moment =>
    rw [perform, reject, checkUnderReview, Operation.Fits]
    by_cases underReview : product.status = .submitted
    · cases blank : Text.isBlank reason with
      | true => simp [underReview, bind, Except.bind, throw, throwThe, MonadExceptOf.throw]
      | false => simp [underReview, bind, Except.bind, pure, Except.pure]
    · simp [underReview, bind, Except.bind]

/-! ## What operations keep -/

/-- How a product stands to its submission after its accepted operations. -/
structure Lives (submitted : Product) (history : List Operation) (product : Product) : Prop where
  id : product.id = submitted.id
  supplier : product.supplier = submitted.supplier
  gtin : product.gtin = submitted.gtin
  categoryCode : product.categoryCode = submitted.categoryCode
  named : Text.isBlank product.name = false
  /-- Under review there is no reviewer. -/
  unreviewed : product.status = .submitted → product.reviewedBy = none
  /-- After a verdict there is the reviewer who gave it. -/
  reviewed : product.status ≠ .submitted → ∃ reviewer, product.reviewedBy = some reviewer ∧
    last Operation.reviewer? history = some reviewer
  updatedAt : product.updatedAt = (history.map Operation.moment).getLastD submitted.updatedAt

/-- An accepted operation is one more entry of the history, and the product stands as the longer
history says. -/
theorem Lives.perform {operation : Operation} {submitted product changed : Product}
    {history : List Operation} (accepted : Product.perform operation product = .ok changed)
    (lives : Lives submitted history product) :
    Lives submitted (history ++ [operation]) changed := by
  have fits : operation.Fits product := (accepted_iff_fits operation product).mp ⟨changed, accepted⟩
  have time : ((history ++ [operation]).map Operation.moment).getLastD submitted.updatedAt =
      operation.moment := by
    rw [List.map_append]
    exact List.getLastD_concat
  rcases perform_cases accepted with ⟨name, moment, rfl, rfl⟩ | ⟨reviewer, moment, rfl, -, rfl⟩ |
    ⟨reviewer, reason, moment, rfl, -, rfl⟩
  · exact {
      id := lives.id
      supplier := lives.supplier
      gtin := lives.gtin
      categoryCode := lives.categoryCode
      named := fits
      unreviewed := fun _ => rfl
      reviewed := fun judged => absurd rfl judged
      updatedAt := time.symm }
  · exact {
      id := lives.id
      supplier := lives.supplier
      gtin := lives.gtin
      categoryCode := lives.categoryCode
      named := lives.named
      unreviewed := ProductStatus.noConfusion
      reviewed := fun _ => ⟨reviewer, rfl, last_of_some Operation.reviewer? rfl history⟩
      updatedAt := time.symm }
  · exact {
      id := lives.id
      supplier := lives.supplier
      gtin := lives.gtin
      categoryCode := lives.categoryCode
      named := lives.named
      unreviewed := ProductStatus.noConfusion
      reviewed := fun _ => ⟨reviewer, rfl, last_of_some Operation.reviewer? rfl history⟩
      updatedAt := time.symm }

/-- Every state of a product that any operations lead to from its submission, those refused among
them.

It is under review exactly if it has no reviewer, and otherwise its reviewer is the one of the last
accepted verdict. It has a name and the trade item number that it was submitted with, and keeps its
identifier, its supplier and its category. Its time is that of the last accepted operation, or of
the submission. A further operation is accepted exactly if it fits, so a verdict only under review,
and a refused one changes nothing. -/
theorem submission_lifecycle {id supplier : Identifier} {gtin name categoryCode : String}
    {moment : Timestamp} {submitted : Product}
    (isSubmission : submit id supplier gtin name categoryCode moment = .ok submitted)
    (operations : List Operation) :
    let product := afterAll perform submitted operations
    let history := accepted perform submitted operations
    (product.status = .submitted ↔ product.reviewedBy = none) ∧
    (product.status ≠ .submitted →
      product.reviewedBy = last Operation.reviewer? history) ∧
    Text.isBlank product.name = false ∧ Gtin.IsNumber product.gtin ∧
    (product.id = id ∧ product.supplier = supplier ∧ product.gtin = gtin ∧
      product.categoryCode = categoryCode) ∧
    product.updatedAt = (history.map Operation.moment).getLastD moment ∧
    (∀ operation, (∃ changed, perform operation product = .ok changed) ↔
      operation.Fits product) ∧
    ∀ operation error, perform operation product = .error error →
      after perform product operation = product := by
  intro product history
  obtain ⟨named, valid, submits⟩ := submit_ok isSubmission
  have fresh : Lives submitted [] submitted := by
    rw [submits]
    exact {
      id := rfl
      supplier := rfl
      gtin := rfl
      categoryCode := rfl
      named
      unreviewed := fun _ => rfl
      reviewed := fun judged => absurd rfl judged
      updatedAt := rfl }
  have lives : Lives submitted history product :=
    history_afterAll (fun performed lives => lives.perform performed) fresh operations
  have sameGtin : product.gtin = gtin := lives.gtin.trans (submits ▸ rfl)
  refine ⟨⟨lives.unreviewed, ?_⟩, ?_, lives.named, ?_, ?_, ?_, ?_, ?_⟩
  · intro unreviewed
    by_contra judged
    obtain ⟨reviewer, named, _⟩ := lives.reviewed judged
    rw [unreviewed] at named
    cases named
  · intro judged
    obtain ⟨reviewer, named, isLast⟩ := lives.reviewed judged
    exact named.trans isLast.symm
  · rw [sameGtin]
    exact (Gtin.validate_ok_iff gtin).mp valid
  · exact ⟨lives.id.trans (submits ▸ rfl), lives.supplier.trans (submits ▸ rfl), sameGtin,
      lives.categoryCode.trans (submits ▸ rfl)⟩
  · rw [lives.updatedAt, submits]
  · intro operation
    exact accepted_iff_fits operation product
  · intro operation error refused
    rw [after, refused]

/-- A pen that is approved keeps its reviewer when it is rejected too late, and has none again when
it gets a new name. -/
theorem pen_names_reviewer :
    ∃ submitted, pen = .ok submitted ∧
      (afterAll perform submitted [.approve (.ofNumber 3) default,
        .reject (.ofNumber 4) "too late" default]).reviewedBy = some (.ofNumber 3) ∧
      (afterAll perform submitted [.approve (.ofNumber 3) default,
        .rename "Fine pen" default]).reviewedBy = none := by
  have isSubmission : pen = .ok _ := rfl
  refine ⟨_, isSubmission, ?_, ?_⟩
  · exact (submission_lifecycle isSubmission _).2.1 (by decide)
  · exact (submission_lifecycle isSubmission _).1.mp rfl

end Outbox.Product
