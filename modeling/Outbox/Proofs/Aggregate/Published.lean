import Outbox.Handlers
import Outbox.Proofs.Aggregate.Snapshot

/-!
# Published snapshots

A handler gets the snapshot as the outbox record stores it. As the snapshot reads back as the
aggregate that was stored, the message says what it is meant to say about this aggregate: every
member stands in it with its value, and no other member.
-/

namespace Outbox

open Json

/-- A handler converts the snapshot that it reads. -/
theorem Handler.prepare_reading {Snapshot : Type} {tag : AggregateType} {version : Nat}
    {decode : Source → Decoded Snapshot}
    {convert : CategoryNames → Snapshot → Except HandlerError (String × Json)}
    {raw : Json} {snapshot : Snapshot} (read : decode (source raw) = .ok snapshot)
    (names : CategoryNames) :
    (Handler.reading tag version decode convert).prepare names raw =
      (convert names snapshot).map fun made =>
        { partitionKey := made.1, payload := made.2, version } := by
  simp only [Handler.reading, read]
  cases convert names snapshot <;> rfl

/-! ## Messages -/

/-- The members of a product's message, by ascending key. -/
theorem Product.message_eq (names : CategoryNames) (product : Product) :
    product.message names = .object ([
      ("approved", .bool (product.status = .approved)),
      ("category", .string ((names product.categoryCode).getD product.categoryCode)),
      ("gtin", .string product.gtin),
      ("name", .string product.name),
      ("productId", product.id.json)] ++
      optionalMember "rejectionReason" .string product.rejectionReason ++ [
      ("supplierId", product.supplier.json),
      ("updatedAt", product.updatedAt.json)]) := by
  cases reason : product.rejectionReason <;>
    simp only [message, reason, ofMembers, Dictionary.ofList, Dictionary.insertMany,
      Dictionary.insert, Dictionary.empty, optionalMember, List.append_nil, List.nil_append,
      List.cons_append, List.foldl_cons, List.foldl_nil, insertEntry, String.reduceLT,
      String.reduceEq, reduceIte]

/-- The members of a supplier's message, by ascending key. -/
theorem Supplier.message_eq (supplier : Supplier) :
    supplier.message = .object [
      ("active", .bool (supplier.status = .active)),
      ("legalName", .string supplier.legalName),
      ("registrationNumber", .string supplier.registrationNumber),
      ("supplierId", supplier.id.json),
      ("updatedAt", supplier.updatedAt.json)] := by
  simp only [message, ofMembers, Dictionary.ofList, Dictionary.insertMany, Dictionary.insert,
    Dictionary.empty, List.foldl_cons, List.foldl_nil, insertEntry, String.reduceLT,
    String.reduceEq, reduceIte]

/-- The members of an agreement's message, by ascending key. -/
theorem Agreement.message_eq (agreement : Agreement) :
    agreement.message = .object ([
      ("agreementId", agreement.id.json),
      ("productIds", .array (agreement.products.map Identifier.json)),
      ("status", .string agreement.status.text),
      ("supplierId", agreement.supplier.json),
      ("validFrom", agreement.validFrom.json)] ++
      optionalMember "validUntil" Calendar.Date.json agreement.validUntil) := by
  cases till : agreement.validUntil <;>
    simp only [message, till, ofMembers, Dictionary.ofList, Dictionary.insertMany,
      Dictionary.insert, Dictionary.empty, optionalMember, List.append_nil, List.nil_append,
      List.cons_append, List.foldl_cons, List.foldl_nil, insertEntry, String.reduceLT,
      String.reduceEq, reduceIte]

/-! ## Products and suppliers -/

/-- The snapshots of products and suppliers are published faithfully, whichever operations led to
them: the handler accepts every one, and the message holds exactly these members. The category goes
by its name where the name is known, and a reason is there when the product has one. -/
theorem products_and_suppliers_published (names : CategoryNames) :
    (∀ product : Product, Product.handler.prepare names product.json = .ok {
      partitionKey := product.gtin
      version := 2
      payload := .object ([
        ("approved", .bool (product.status = .approved)),
        ("category", .string ((names product.categoryCode).getD product.categoryCode)),
        ("gtin", .string product.gtin),
        ("name", .string product.name),
        ("productId", .string product.id.text)] ++
        optionalMember "rejectionReason" .string product.rejectionReason ++ [
        ("supplierId", .string product.supplier.text),
        ("updatedAt", .string product.updatedAt.text)]) }) ∧
    ∀ supplier : Supplier, Supplier.handler.prepare names supplier.json = .ok {
      partitionKey := supplier.id.text
      version := 1
      payload := .object [
        ("active", .bool (supplier.status = .active)),
        ("legalName", .string supplier.legalName),
        ("registrationNumber", .string supplier.registrationNumber),
        ("supplierId", .string supplier.id.text),
        ("updatedAt", .string supplier.updatedAt.text)] } := by
  constructor
  · intro product
    rw [Product.handler, Handler.prepare_reading (Product.readsBack product), Except.map,
      Product.message_eq]
    rfl
  · intro supplier
    rw [Supplier.handler, Handler.prepare_reading (Supplier.readsBack supplier), Except.map,
      Supplier.message_eq]
    rfl

end Outbox
