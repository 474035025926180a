import Mathlib.Tactic.SplitIfs
import Outbox.Envelope
import Outbox.Proofs.Json.Records

/-!
# The metadata of an envelope

The sender puts the producer and the version first and then takes over the entries of the record one
after the other, except those under the two reserved keys. So the reserved keys hold what the sender
says, every other key holds what the record says, and metadata that have been merged before may be
merged again as if they had not.
-/

namespace Outbox

/-- A key stands in a dictionary exactly when something is found under it. -/
theorem Dictionary.mem_keys_iff {Value : Type} (dictionary : Dictionary Value) (key : String) :
    key ∈ dictionary.entries.map Prod.fst ↔ (dictionary.find? key).isSome = true := by
  rw [Option.isSome_iff_exists, find?]
  simp [lookUp?_eq_some_iff dictionary.distinct_keys]

/-- Only two keys are reserved. -/
theorem isReserved_iff (key : String) :
    isReserved key = true ↔ key = "producerId" ∨ key = "dtoVersion" := by
  rw [isReserved, Bool.or_eq_true, decide_eq_true_iff, decide_eq_true_iff, producerKey, versionKey]

/-- An entry is found under its key, unless the key is reserved, and changes nothing elsewhere.
Everything that is said of merged metadata follows from this one equation. -/
theorem find?_mergeEntry (merged : Metadata) (entry : String × Json) (key : String) :
    (mergeEntry merged entry).find? key =
      if key = entry.1 ∧ isReserved key = false then some entry.2 else merged.find? key := by
  rw [mergeEntry]
  cases reserved : isReserved entry.1 with
  | true =>
    have untouched : ¬(key = entry.1 ∧ isReserved key = false) := by
      rintro ⟨rfl, free⟩
      rw [reserved] at free
      cases free
    rw [if_pos rfl, if_neg untouched]
  | false =>
    rw [if_neg Bool.false_ne_true, Dictionary.find?_insert]
    by_cases same : key = entry.1
    · rw [if_pos same, if_pos ⟨same, same ▸ reserved⟩]
    · rw [if_neg same, if_neg (fun both => same both.1)]

/-- Entries that are taken over are found under their keys, unless a key is reserved.

Induct over the entries. No key comes twice, so none of them is replaced by a later one. -/
theorem find?_foldl_mergeEntry {entries : List (String × Json)}
    (distinct : (entries.map Prod.fst).Nodup) (merged : Metadata) (key : String) :
    (entries.foldl mergeEntry merged).find? key =
      if isReserved key = true then merged.find? key
      else (lookUp? key entries).or (merged.find? key) := by
  induction entries generalizing merged with
  | nil => simp [lookUp?]
  | cons head rest inductionHypothesis =>
    obtain ⟨headKey, held⟩ := head
    obtain ⟨absent, restDistinct⟩ := List.nodup_cons.mp distinct
    rw [List.foldl_cons, inductionHypothesis restDistinct, find?_mergeEntry, lookUp?]
    cases reserved : isReserved key with
    | true => simp
    | false =>
      by_cases same : key = headKey
      · subst same
        simp [lookUp?_of_not_mem absent]
      · simp [same]

/-- Under the reserved keys are the producer and the version, and under every other key is what the
record has there. -/
theorem find?_mergeMetadata (producer : String) (version : Nat) (extra : Metadata) (key : String) :
    (mergeMetadata producer version extra).find? key =
      if key = "producerId" then some (.string producer)
      else if key = "dtoVersion" then some (.count version)
      else extra.find? key := by
  rw [mergeMetadata, find?_foldl_mergeEntry extra.distinct_keys, Dictionary.find?_insert,
    Dictionary.find?_insert, Dictionary.find?_empty, producerKey, versionKey]
  by_cases isProducer : key = "producerId"
  · subst isProducer
    rfl
  · by_cases isVersion : key = "dtoVersion"
    · subst isVersion
      rfl
    · have free : ¬isReserved key = true := by
        rw [isReserved_iff]
        exact not_or.mpr ⟨isProducer, isVersion⟩
      rw [if_neg free, if_neg isVersion, if_neg isProducer, Option.or_none, if_neg isProducer,
        if_neg isVersion, Dictionary.find?]

/-- Merging forgets an earlier merging. -/
theorem mergeMetadata_mergeMetadata (producer other : String) (version otherVersion : Nat)
    (extra : Metadata) :
    mergeMetadata producer version (mergeMetadata other otherVersion extra) =
      mergeMetadata producer version extra := by
  apply Dictionary.ext_find?
  intro key
  simp only [find?_mergeMetadata]
  split_ifs <;> rfl

/-- The keys are those of the record and the two reserved ones. -/
theorem mem_keys_mergeMetadata (producer : String) (version : Nat) (extra : Metadata)
    (key : String) :
    key ∈ (mergeMetadata producer version extra).entries.map Prod.fst ↔
      key ∈ extra.entries.map Prod.fst ∨ key = "producerId" ∨ key = "dtoVersion" := by
  rw [Dictionary.mem_keys_iff, Dictionary.mem_keys_iff, find?_mergeMetadata]
  split_ifs with isProducer isVersion <;> simp_all

/-- An envelope with merged metadata names its producer. -/
theorem Envelope.producer?_of_merged {envelope : Envelope} {producer : String} {version : Nat}
    {extra : Metadata} (merged : envelope.metadata = mergeMetadata producer version extra) :
    envelope.producer? = some producer := by
  rw [Envelope.producer?, merged, producerKey, find?_mergeMetadata, if_pos rfl]

end Outbox
