import Outbox.Calendar.Timestamp
import Outbox.DomainError
import Outbox.Identifier

/-!
# Agreements

An agreement with a supplier is drafted for a time of validity, collects the products that it
covers, is signed, and may be terminated at any stage. Only a draft collects products and only a
draft that covers one can be signed.
-/

namespace Outbox

open Calendar

/-- The stages of an agreement. -/
inductive AgreementStatus
  | draft
  | signed
  | terminated
  deriving DecidableEq, Repr

namespace AgreementStatus

/-- The written form. -/
def text : AgreementStatus → String
  | draft => "draft"
  | signed => "signed"
  | terminated => "terminated"

/-- The stages with their written forms. -/
def all : List (String × AgreementStatus) :=
  [draft, signed, terminated].map fun status => (status.text, status)

instance : Json.Codec AgreementStatus := .named text all

end AgreementStatus

/-- An agreement. -/
structure Agreement where
  id : Identifier
  supplier : Identifier
  /-- The products that it covers, in the order in which they were added. -/
  products : List Identifier
  validFrom : Date
  validUntil : Option Date
  status : AgreementStatus
  signedBy : Option Identifier
  updatedAt : Timestamp
  deriving DecidableEq

namespace Agreement

/-- Refuses an end that comes before the start. -/
def checkValidity (validFrom : Date) : Option Date → Except DomainError Unit
  | none => .ok ()
  | some validUntil =>
    if validUntil.before validFrom then
      .error (.validation ("agreement ends (" ++ validUntil.text ++ ") before it starts (" ++
        validFrom.text ++ ")"))
    else .ok ()

/-- A new draft, which covers nothing yet. -/
def draft (id supplier : Identifier) (validFrom : Date) (validUntil : Option Date)
    (moment : Timestamp) : Except DomainError Agreement := do
  checkValidity validFrom validUntil
  return {
    id, supplier, validFrom, validUntil
    products := []
    status := .draft
    signedBy := none
    updatedAt := moment }

/-- Lets a draft cover a product. A product that it covers already changes nothing. -/
def addProduct (agreement : Agreement) (product : Identifier) (moment : Timestamp) :
    Except DomainError Agreement :=
  if agreement.status ≠ .draft then
    .error (.conflict "products can only be added to a draft agreement")
  else if product ∈ agreement.products then .ok agreement
  else .ok { agreement with products := agreement.products ++ [product], updatedAt := moment }

/-- Signs a draft. -/
def sign (agreement : Agreement) (signer : Identifier) (moment : Timestamp) :
    Except DomainError Agreement :=
  if agreement.status ≠ .draft then .error (.conflict "only draft agreements can be signed")
  else if agreement.products.isEmpty then
    .error (.conflict "an agreement must cover at least one product")
  else .ok { agreement with status := .signed, signedBy := some signer, updatedAt := moment }

/-- Ends an agreement at any stage but the last. -/
def terminate (agreement : Agreement) (moment : Timestamp) : Except DomainError Agreement :=
  if agreement.status = .terminated then .error (.conflict "agreement already terminated")
  else .ok { agreement with status := .terminated, updatedAt := moment }

end Agreement

end Outbox
