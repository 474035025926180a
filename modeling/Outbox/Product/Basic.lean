import Outbox.Calendar.Timestamp
import Outbox.Gtin
import Outbox.Identifier

/-!
# Products

A supplier submits a product, and a reviewer approves or rejects it. A new name sends it back to
review. Every operation answers with the product afterwards, or with the reason why it is refused;
a refused operation has no product and so changes none.
-/

namespace Outbox

open Calendar

/-- The states of the review. -/
inductive ProductStatus
  | submitted
  | approved
  | rejected
  deriving DecidableEq, Repr

namespace ProductStatus

/-- The written form. -/
def text : ProductStatus → String
  | submitted => "submitted"
  | approved => "approved"
  | rejected => "rejected"

/-- The name in messages. -/
def title : ProductStatus → String
  | submitted => "Submitted"
  | approved => "Approved"
  | rejected => "Rejected"

/-- The states with their written forms. -/
def all : List (String × ProductStatus) :=
  [submitted, approved, rejected].map fun status => (status.text, status)

instance : Json.Codec ProductStatus := .named text all

end ProductStatus

/-- A product. -/
structure Product where
  id : Identifier
  supplier : Identifier
  gtin : String
  name : String
  categoryCode : String
  status : ProductStatus
  rejectionReason : Option String
  reviewedBy : Option Identifier
  updatedAt : Timestamp
  deriving DecidableEq

namespace Product

/-- Refuses a name without any visible character. -/
def checkName (name : String) : Except DomainError Unit :=
  if Text.isBlank name then .error (.validation "product name cannot be empty") else .ok ()

/-- The product that a supplier submits for review. -/
def submit (id supplier : Identifier) (gtin name categoryCode : String) (moment : Timestamp) :
    Except DomainError Product := do
  checkName name
  Gtin.validate gtin
  return {
    id, supplier, gtin, name, categoryCode
    status := .submitted
    rejectionReason := none
    reviewedBy := none
    updatedAt := moment }

/-- Gives the product another name, which is to be reviewed again. -/
def rename (product : Product) (name : String) (moment : Timestamp) :
    Except DomainError Product := do
  checkName name
  return { product with
    name
    status := .submitted
    reviewedBy := none
    updatedAt := moment }

/-- Refuses a verdict on a product that is not under review. -/
def checkUnderReview (product : Product) (verdict : String) : Except DomainError Unit :=
  if product.status = .submitted then .ok ()
  else .error (.conflict ("only submitted products can be " ++ verdict ++ " (status: " ++
    product.status.title ++ ")"))

/-- Approves a product under review. -/
def approve (product : Product) (reviewer : Identifier) (moment : Timestamp) :
    Except DomainError Product := do
  product.checkUnderReview "approved"
  return { product with
    status := .approved
    rejectionReason := none
    reviewedBy := some reviewer
    updatedAt := moment }

/-- Rejects a product under review for a reason. -/
def reject (product : Product) (reviewer : Identifier) (reason : String) (moment : Timestamp) :
    Except DomainError Product := do
  product.checkUnderReview "rejected"
  if Text.isBlank reason then throw (.validation "rejection reason cannot be empty")
  return { product with
    status := .rejected
    rejectionReason := some reason
    reviewedBy := some reviewer
    updatedAt := moment }

end Product

end Outbox
