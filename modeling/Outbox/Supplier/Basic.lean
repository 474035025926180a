import Outbox.Calendar.Timestamp
import Outbox.DomainError
import Outbox.Identifier

/-!
# Suppliers

A supplier registers under its legal name and its registration number and may leave an address to
write to. It stays active until it is suspended, once and for all.
-/

namespace Outbox

open Calendar

/-- Whether a supplier may supply. -/
inductive SupplierStatus
  | active
  | suspended
  deriving DecidableEq, Repr

namespace SupplierStatus

/-- The written form. -/
def text : SupplierStatus → String
  | active => "active"
  | suspended => "suspended"

/-- The states with their written forms. -/
def all : List (String × SupplierStatus) :=
  [active, suspended].map fun status => (status.text, status)

instance : Json.Codec SupplierStatus := .named text all

end SupplierStatus

/-- A supplier. -/
structure Supplier where
  id : Identifier
  legalName : String
  registrationNumber : String
  contactEmail : Option String
  status : SupplierStatus
  updatedAt : Timestamp
  deriving DecidableEq

namespace Supplier

/-- Refuses an address without a name before its first `@` or without a point behind it. -/
def checkEmail (email : String) : Except DomainError Unit :=
  let name := email.toList.takeWhile (· != '@')
  let domain := email.toList.drop (name.length + 1)
  if name.isEmpty ∨ !domain.contains '.' then
    .error (.validation ("invalid contact email: " ++ email))
  else .ok ()

/-- Checks an address if there is one. -/
def checkContact : Option String → Except DomainError Unit
  | none => .ok ()
  | some email => checkEmail email

/-- A newly registered supplier. -/
def register (id : Identifier) (legalName registrationNumber : String)
    (contactEmail : Option String) (moment : Timestamp) : Except DomainError Supplier := do
  if Text.isBlank legalName then throw (.validation "supplier legal name cannot be empty")
  if Text.isBlank registrationNumber then throw (.validation "registration number cannot be empty")
  checkContact contactEmail
  return {
    id, legalName, registrationNumber, contactEmail
    status := .active
    updatedAt := moment }

/-- Changes or removes the address. -/
def updateContact (supplier : Supplier) (contactEmail : Option String) (moment : Timestamp) :
    Except DomainError Supplier := do
  checkContact contactEmail
  return { supplier with contactEmail, updatedAt := moment }

/-- Suspends an active supplier. -/
def suspend (supplier : Supplier) (moment : Timestamp) : Except DomainError Supplier :=
  if supplier.status = .suspended then .error (.conflict "supplier already suspended")
  else .ok { supplier with status := .suspended, updatedAt := moment }

end Supplier

end Outbox
