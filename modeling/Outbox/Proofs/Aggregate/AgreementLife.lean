import Mathlib.Data.List.Nodup
import Outbox.Proofs.Aggregate.Agreement

/-!
# Stages of agreements

An agreement is drafted, may be signed, and may be terminated before or after that; it never goes
back. What it covers is settled while it is a draft: each product once, in the order in which the
products were added for the first time. From then on only its stage, its signer and its time change.
-/

namespace Outbox

open Calendar Lifecycle

/-- From one stage to the next. -/
inductive AgreementStatus.Next : AgreementStatus → AgreementStatus → Prop
  /-- A draft is signed. -/
  | signing : Next .draft .signed
  /-- A draft is dropped. -/
  | dropping : Next .draft .terminated
  /-- A signed agreement ends. -/
  | ending : Next .signed .terminated

namespace Agreement

/-! ## One operation -/

/-- The product that an operation adds, if it adds one. -/
def Operation.added? : Operation → Option Identifier
  | .addProduct product _ => some product
  | .sign _ _ => none
  | .terminate _ => none

/-- Whether an agreement is at a stage for an operation: a draft collects products, a draft that
covers one is signed, and everything but the last stage is terminated. -/
def Operation.Fits (agreement : Agreement) : Operation → Prop
  | .addProduct _ _ => agreement.status = .draft
  | .sign _ _ => agreement.status = .draft ∧ agreement.products ≠ []
  | .terminate _ => agreement.status ≠ .terminated

/-- Whether an operation fits is seen from the stage and from the products that are covered. -/
instance (agreement : Agreement) (operation : Operation) : Decidable (operation.Fits agreement) :=
  match operation with
  | .addProduct _ _ => inferInstanceAs (Decidable (agreement.status = .draft))
  | .sign _ _ =>
    inferInstanceAs (Decidable (agreement.status = .draft ∧ agreement.products ≠ []))
  | .terminate _ => inferInstanceAs (Decidable (agreement.status ≠ .terminated))

/-- An operation is accepted exactly if it fits the agreement. There is one case for each operation,
with the checks in the order in which it makes them. -/
theorem accepted_iff_fits (operation : Operation) (agreement : Agreement) :
    (∃ changed, perform operation agreement = .ok changed) ↔ operation.Fits agreement := by
  cases operation with
  | addProduct product moment =>
    rw [perform, addProduct, Operation.Fits]
    by_cases draft : agreement.status = .draft
    · by_cases covered : product ∈ agreement.products
      · simp [draft, covered]
      · simp [draft, covered]
    · simp [draft]
  | sign signer moment =>
    rw [perform, sign, Operation.Fits]
    by_cases draft : agreement.status = .draft
    · by_cases covers : agreement.products = []
      · simp [draft, covers]
      · simp [draft, covers]
    · simp [draft]
  | terminate moment =>
    rw [perform, terminate, Operation.Fits]
    by_cases ended : agreement.status = .terminated
    · simp [ended]
    · simp [ended]

/-- At the last stage no operation fits. -/
theorem not_fits_of_terminated {agreement : Agreement} (ended : agreement.status = .terminated)
    (operation : Operation) : ¬operation.Fits agreement := by
  cases operation with
  | addProduct product moment => simp [Operation.Fits, ended]
  | sign signer moment => simp [Operation.Fits, ended]
  | terminate moment => simp [Operation.Fits, ended]

/-- An accepted operation keeps the stage or leads to a next one. -/
theorem status_of_accepted {operation : Operation} {agreement changed : Agreement}
    (accepted : perform operation agreement = .ok changed) :
    changed.status = agreement.status ∨ agreement.status.Next changed.status := by
  rcases perform_cases accepted with ⟨_, _, -, -, -, rfl⟩ | ⟨_, _, -, -, -, rfl⟩ |
    ⟨_, _, -, draft, -, rfl⟩ | ⟨_, -, running, rfl⟩
  · exact .inl rfl
  · exact .inl rfl
  · rw [draft]
    exact .inr .signing
  · right
    cases stage : agreement.status with
    | draft => exact .dropping
    | signed => exact .ending
    | terminated => exact absurd stage running

/-- The time does not change alone. -/
theorem eq_of_only_time {operation : Operation} {agreement changed : Agreement}
    (accepted : perform operation agreement = .ok changed)
    (alone : changed = { agreement with updatedAt := changed.updatedAt }) :
    changed = agreement := by
  rcases perform_cases accepted with ⟨product, moment, -, -, new, rfl⟩ | ⟨_, _, -, -, -, rfl⟩ |
    ⟨signer, moment, -, draft, -, rfl⟩ | ⟨moment, -, running, rfl⟩
  · have grown : agreement.products ++ [product] = agreement.products :=
      congrArg Agreement.products alone
    simp at grown
  · rfl
  · have same : AgreementStatus.signed = agreement.status := congrArg Agreement.status alone
    rw [draft] at same
    cases same
  · have same : AgreementStatus.terminated = agreement.status := congrArg Agreement.status alone
    exact absurd same.symm running

/-! ## All operations since the draft -/

/-- The end of the validity of an accepted draft is not before its start. -/
theorem not_before_of_draft {id supplier : Identifier} {validFrom : Date}
    {validUntil : Option Date} {moment : Timestamp} {drafted : Agreement}
    (isDraft : draft id supplier validFrom validUntil moment = .ok drafted) (till : Date)
    (ends : validUntil = some till) : till.before validFrom = false := by
  subst ends
  by_contra early
  rw [Bool.not_eq_false] at early
  rw [draft, checkValidity, if_pos early] at isDraft
  cases isDraft

/-- How an agreement stands after its accepted operations, besides what it keeps of its draft. -/
structure Lives (drafted : Agreement) (history : List Operation) (agreement : Agreement) : Prop
    extends Follows drafted agreement where
  products : agreement.products = (history.filterMap Operation.added?).eraseDups
  distinct : agreement.products.Nodup
  unsigned : agreement.status = .draft → agreement.signedBy = none
  signed : agreement.status = .signed → ∃ signer, agreement.signedBy = some signer

/-- An operation that adds no product leaves the list of those that were added as it is. -/
theorem added_of_none {operation : Operation} (silent : operation.added? = none)
    (history : List Operation) : (history ++ [operation]).filterMap Operation.added? =
      history.filterMap Operation.added? := by
  rw [List.filterMap_append, List.filterMap_cons_none silent]
  exact List.append_nil _

/-- Of a list with one more entry at the end the first occurrences are as before, unless the entry
is new. -/
theorem eraseDups_concat (added : List Identifier) (product : Identifier) :
    (added ++ [product]).eraseDups =
      if product ∈ added then added.eraseDups else added.eraseDups ++ [product] := by
  rw [List.eraseDups_append, List.cons_removeAll]
  by_cases again : product ∈ added
  · simp [again]
  · simp [again, List.eraseDups_cons]

/-- An accepted operation is one more entry of the history, and the agreement stands as the longer
history says. A product that is added again is an entry as well, but the history lists it once. -/
theorem Lives.perform {operation : Operation} {drafted agreement changed : Agreement}
    {history : List Operation} (accepted : Agreement.perform operation agreement = .ok changed)
    (lives : Lives drafted history agreement) :
    Lives drafted (history ++ [operation]) changed := by
  have follows : Follows drafted changed := lives.toFollows.perform accepted
  have listed (product : Identifier) : product ∈ agreement.products ↔
      product ∈ history.filterMap Operation.added? := by
    rw [lives.products, List.mem_eraseDups]
  rcases perform_cases accepted with ⟨product, moment, rfl, draft, new, rfl⟩ |
    ⟨product, moment, rfl, draft, covered, rfl⟩ | ⟨signer, moment, rfl, draft, covers, rfl⟩ |
    ⟨moment, rfl, running, rfl⟩
  · -- a new product comes last, and it is added for the first time
    have first : product ∉ history.filterMap Operation.added? := mt (listed product).mpr new
    exact {
      toFollows := follows
      products := by
        rw [List.filterMap_append, lives.products]
        exact ((eraseDups_concat _ product).trans (if_neg first)).symm
      distinct := List.concat_eq_append ▸ List.Nodup.concat new lives.distinct
      unsigned := fun _ => lives.unsigned draft
      signed := lives.signed }
  · have again : product ∈ history.filterMap Operation.added? := (listed product).mp covered
    exact {
      toFollows := follows
      products := by
        rw [List.filterMap_append, lives.products]
        exact ((eraseDups_concat _ product).trans (if_pos again)).symm
      distinct := lives.distinct
      unsigned := lives.unsigned
      signed := lives.signed }
  · exact {
      toFollows := follows
      products := by
        rw [added_of_none rfl]
        exact lives.products
      distinct := lives.distinct
      unsigned := AgreementStatus.noConfusion
      signed := fun _ => ⟨signer, rfl⟩ }
  · exact {
      toFollows := follows
      products := by
        rw [added_of_none rfl]
        exact lives.products
      distinct := lives.distinct
      unsigned := AgreementStatus.noConfusion
      signed := AgreementStatus.noConfusion }

/-- Past the draft an agreement keeps what it covers, whatever is asked of it. -/
theorem settled_afterAll {agreement : Agreement} (settled : agreement.status ≠ .draft)
    (operations : List Operation) :
    (afterAll perform agreement operations).status ≠ .draft ∧
      (afterAll perform agreement operations).products = agreement.products := by
  refine @invariant_afterAll _ _ perform
    (fun later => later.status ≠ .draft ∧ later.products = agreement.products) ?_ _
    ⟨settled, rfl⟩ operations
  rintro operation before changed accepted ⟨past, same⟩
  rcases perform_cases accepted with ⟨_, _, -, draft, -, -⟩ | ⟨_, _, -, draft, -, -⟩ |
    ⟨_, _, -, draft, -, -⟩ | ⟨_, -, -, rfl⟩
  · exact absurd draft past
  · exact absurd draft past
  · exact absurd draft past
  · exact ⟨AgreementStatus.noConfusion, same⟩

/-- Every state of an agreement that any operations lead to from its draft, those refused among
them.

It covers the products that were added by accepted operations, and so while it was a draft, each of
them once, in the order of their first additions. It keeps its identifier, its supplier and its time
of validity, whose end is not before its start. A draft has no signer; a signed agreement has one
and covers a product. Past the draft nothing that is asked later changes what it covers. A further
operation is accepted exactly if it fits, at the last stage never, and a refused one changes
nothing. It keeps the stage or leads to a next one, and changes the time only together with
something else. -/
theorem draft_lifecycle {id supplier : Identifier} {validFrom : Date} {validUntil : Option Date}
    {moment : Timestamp} {drafted : Agreement}
    (isDraft : draft id supplier validFrom validUntil moment = .ok drafted)
    (operations : List Operation) :
    let agreement := afterAll perform drafted operations
    let history := accepted perform drafted operations
    (agreement.products = (history.filterMap Operation.added?).eraseDups ∧
      agreement.products.Nodup) ∧
    (agreement.id = id ∧ agreement.supplier = supplier ∧ agreement.validFrom = validFrom ∧
      agreement.validUntil = validUntil ∧
      ∀ till, validUntil = some till → till.before validFrom = false) ∧
    (agreement.status = .draft → agreement.signedBy = none) ∧
    (agreement.status = .signed →
      (∃ signer, agreement.signedBy = some signer) ∧ agreement.products ≠ []) ∧
    (agreement.status ≠ .draft → ∀ later,
      let settled := afterAll perform agreement later
      settled.status ≠ .draft ∧ settled.products = agreement.products ∧
        settled.id = agreement.id ∧ settled.supplier = agreement.supplier ∧
        settled.validFrom = agreement.validFrom ∧ settled.validUntil = agreement.validUntil) ∧
    (∀ operation, (∃ changed, perform operation agreement = .ok changed) ↔
      operation.Fits agreement) ∧
    (∀ operation changed, perform operation agreement = .ok changed →
      agreement.status ≠ .terminated ∧
      (changed.status = agreement.status ∨ agreement.status.Next changed.status) ∧
      (changed = { agreement with updatedAt := changed.updatedAt } → changed = agreement)) ∧
    ∀ operation error, perform operation agreement = .error error →
      after perform agreement operation = agreement := by
  intro agreement history
  have fresh : Lives drafted [] drafted := by
    rw [of_draft isDraft]
    exact {
      id := rfl
      supplier := rfl
      validFrom := rfl
      validUntil := rfl
      covering := AgreementStatus.noConfusion
      products := rfl
      distinct := List.nodup_nil
      unsigned := fun _ => rfl
      signed := AgreementStatus.noConfusion }
  have lives : Lives drafted history agreement :=
    history_afterAll (fun performed lives => lives.perform performed) fresh operations
  have drafts := of_draft isDraft
  refine ⟨⟨lives.products, lives.distinct⟩, ⟨lives.id.trans (drafts ▸ rfl),
    lives.supplier.trans (drafts ▸ rfl), lives.validFrom.trans (drafts ▸ rfl),
    lives.validUntil.trans (drafts ▸ rfl), ?_⟩, lives.unsigned, ?_, ?_, ?_, ?_, ?_⟩
  · intro till ends
    exact not_before_of_draft isDraft till ends
  · intro signed
    exact ⟨lives.signed signed, lives.covering signed⟩
  · intro past later
    obtain ⟨stays, covers⟩ := settled_afterAll past later
    have follows : Follows drafted (afterAll perform agreement later) :=
      invariant_afterAll (fun accepted follows => follows.perform accepted) lives.toFollows later
    exact ⟨stays, covers, follows.id.trans lives.id.symm,
      follows.supplier.trans lives.supplier.symm,
      follows.validFrom.trans lives.validFrom.symm, follows.validUntil.trans lives.validUntil.symm⟩
  · intro operation
    exact accepted_iff_fits operation agreement
  · intro operation changed performed
    refine ⟨?_, status_of_accepted performed, eq_of_only_time performed⟩
    intro ended
    exact not_fits_of_terminated ended operation
      ((accepted_iff_fits operation agreement).mp ⟨changed, performed⟩)
  · intro operation error refused
    rw [after, refused]

/-- The draft of an agreement for one year. -/
def oneYear : Except DomainError Agreement :=
  draft (.ofNumber 1) (.ofNumber 2) ⟨2027, 1, 1, by decide⟩ (some ⟨2027, 12, 31, by decide⟩) default

/-- It is signed too early, gets two products and one of them again, is signed, and is to get a
third product then. The first request and the last one are refused. -/
def signingOperations : List Operation :=
  [.sign (.ofNumber 5) default, .addProduct (.ofNumber 3) default,
    .addProduct (.ofNumber 4) default, .addProduct (.ofNumber 3) default,
    .sign (.ofNumber 5) default, .addProduct (.ofNumber 6) default]

/-- The agreement for one year covers both products in the order of their first additions, has a
signer, and ends after it starts. It takes no further product. It can be terminated, which leads to
the next stage, and what is asked of it afterwards changes nothing that it covers. -/
theorem signed_agreement_settled :
    ∃ drafted, oneYear = .ok drafted ∧
      (afterAll perform drafted signingOperations).products = [.ofNumber 3, .ofNumber 4] ∧
      (∃ signer, (afterAll perform drafted signingOperations).signedBy = some signer) ∧
      (⟨2027, 12, 31, by decide⟩ : Date).before ⟨2027, 1, 1, by decide⟩ = false ∧
      (¬∃ changed, perform (.addProduct (.ofNumber 6) default)
        (afterAll perform drafted signingOperations) = .ok changed) ∧
      (∃ ended, perform (.terminate default) (afterAll perform drafted signingOperations) =
          .ok ended ∧
        AgreementStatus.signed.Next ended.status) ∧
      (afterAll perform (afterAll perform drafted signingOperations)
        [.terminate default, .addProduct (.ofNumber 7) default]).products =
          [.ofNumber 3, .ofNumber 4] := by
  obtain ⟨⟨covers, _⟩, ⟨_, _, _, _, ends⟩, _, signed, settled, fits, steps, _⟩ :=
    draft_lifecycle (show oneYear = .ok _ from rfl) signingOperations
  obtain ⟨ended, accepted⟩ := (fits (.terminate default)).mpr (by decide)
  refine ⟨_, rfl, covers, (signed rfl).1, ends _ rfl, ?_, ⟨ended, accepted, ?_⟩, ?_⟩
  · rw [fits]
    decide
  · obtain ⟨_, stays | leads, _⟩ := steps _ _ accepted
    · cases accepted
      cases stays
    · exact leads
  · exact (settled (by decide) _).2.1.trans covers

end Agreement

end Outbox
