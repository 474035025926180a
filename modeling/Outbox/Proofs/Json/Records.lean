import Outbox.Json.Decode
import Outbox.Proofs.Outcome

/-!
# Written records read back

A record is written as an object with one member per field, and read by looking the members up
again. The reader of a finished object meets its members one after the other; it holds the known
ones and passes over the others, so in the end it finds under the name of a field exactly what the
object has there. What is left for each record is that every field reads back its own value.
-/

namespace Outbox

/-! ## Look-ups -/

section LookUp

variable {Value : Type}

/-- A key that no entry has finds nothing. -/
theorem lookUp?_of_not_mem {key : String} {entries : List (String × Value)}
    (absent : key ∉ entries.map Prod.fst) : lookUp? key entries = none := by
  induction entries with
  | nil => rfl
  | cons head rest inductionHypothesis =>
    obtain ⟨headKey, held⟩ := head
    rw [List.map_cons, List.mem_cons, not_or] at absent
    rw [lookUp?, if_neg absent.1]
    exact inductionHypothesis absent.2

/-- Among entries with a key each, a look-up finds exactly the entry under its key. Without distinct
keys it would find the first one only. -/
theorem lookUp?_eq_some_iff {entries : List (String × Value)}
    (distinct : (entries.map Prod.fst).Nodup) {key : String} {value : Value} :
    lookUp? key entries = some value ↔ (key, value) ∈ entries := by
  induction entries with
  | nil => simp [lookUp?]
  | cons head rest inductionHypothesis =>
    obtain ⟨headKey, held⟩ := head
    obtain ⟨absent, restDistinct⟩ := List.nodup_cons.mp distinct
    rw [lookUp?, List.mem_cons, Prod.mk.injEq]
    by_cases same : key = headKey
    · subst same
      have notLater : (key, value) ∉ rest := fun later =>
        absent (List.mem_map.mpr ⟨_, later, rfl⟩)
      rw [if_pos rfl, Option.some.injEq]
      constructor
      · intro found
        exact .inl ⟨rfl, found.symm⟩
      · rintro (⟨_, found⟩ | later)
        · exact found.symm
        · exact absurd later notLater
    · rw [if_neg same, inductionHypothesis restDistinct]
      constructor
      · exact .inr
      · rintro (⟨other, _⟩ | later)
        · exact absurd other same
        · exact later

/-- What the first entries do not have is looked up in the others. -/
theorem lookUp?_append (key : String) (first others : List (String × Value)) :
    lookUp? key (first ++ others) = (lookUp? key first).or (lookUp? key others) := by
  induction first with
  | nil => rfl
  | cons head rest inductionHypothesis =>
    obtain ⟨headKey, held⟩ := head
    rw [List.cons_append, lookUp?, lookUp?]
    split
    · rfl
    · exact inductionHypothesis

/-- Of entries with a key each, every one is found in the dictionary that they are put into. What
was there before is found under the other keys. -/
theorem Dictionary.find?_insertMany (dictionary : Dictionary Value)
    {entries : List (String × Value)} (distinct : (entries.map Prod.fst).Nodup)
    (sought : String) :
    (dictionary.insertMany entries).find? sought =
      (lookUp? sought entries).or (dictionary.find? sought) := by
  induction entries generalizing dictionary with
  | nil => rfl
  | cons head rest inductionHypothesis =>
    obtain ⟨key, value⟩ := head
    obtain ⟨absent, restDistinct⟩ := List.nodup_cons.mp distinct
    have later := inductionHypothesis (dictionary.insert key value) restDistinct
    rw [Dictionary.insertMany] at later ⊢
    rw [List.foldl_cons, later, Dictionary.find?_insert, lookUp?]
    by_cases same : sought = key
    · subst same
      rw [if_pos rfl, if_pos rfl, lookUp?_of_not_mem absent]
      rfl
    · rw [if_neg same, if_neg same]

/-- A dictionary made of entries has no others. -/
theorem Dictionary.mem_insertMany (dictionary : Dictionary Value)
    {entries : List (String × Value)} {entry : String × Value}
    (member : entry ∈ (dictionary.insertMany entries).entries) :
    entry ∈ entries ∨ entry ∈ dictionary.entries := by
  induction entries generalizing dictionary with
  | nil => exact .inr member
  | cons head rest inductionHypothesis =>
    rcases inductionHypothesis (dictionary.insert head.1 head.2) member with later | earlier
    · exact .inl (List.mem_cons_of_mem _ later)
    · rcases mem_insertEntry earlier with same | kept
      · exact .inl (same ▸ List.mem_cons_self)
      · exact .inr kept

/-- No key of a dictionary comes twice. -/
theorem Dictionary.distinct_keys (dictionary : Dictionary Value) :
    (dictionary.entries.map Prod.fst).Nodup := by
  rw [List.Nodup, List.pairwise_map]
  refine dictionary.strict.imp ?_
  intro left right below same
  rw [same] at below
  exact String.lt_irrefl _ below

/-- Entries with a key each are found in their dictionary. -/
theorem Dictionary.find?_ofList {entries : List (String × Value)}
    (distinct : (entries.map Prod.fst).Nodup) (key : String) :
    (Dictionary.ofList entries).find? key = lookUp? key entries := by
  rw [Dictionary.ofList, Dictionary.empty.find?_insertMany distinct, Dictionary.find?_empty,
    Option.or_none]

/-- A dictionary is made of its entries. -/
theorem Dictionary.ofList_entries (dictionary : Dictionary Value) :
    Dictionary.ofList dictionary.entries = dictionary :=
  Dictionary.ext_find? (Dictionary.find?_ofList dictionary.distinct_keys)

/-- A dictionary only sorts entries with a key each. -/
theorem Dictionary.entries_ofList_perm {entries : List (String × Value)}
    (distinct : (entries.map Prod.fst).Nodup) :
    (Dictionary.ofList entries).entries.Perm entries := by
  have sorted := (Dictionary.ofList entries).distinct_keys
  have nodup {listed : List (String × Value)} (keys : (listed.map Prod.fst).Nodup) :
      listed.Nodup :=
    List.Pairwise.of_map Prod.fst (fun _ _ differ same => differ (congrArg Prod.fst same)) keys
  refine (List.perm_ext_iff_of_nodup (nodup sorted) (nodup distinct)).mpr fun entry => ?_
  rw [← lookUp?_eq_some_iff sorted, ← lookUp?_eq_some_iff distinct, ← Dictionary.find?,
    Dictionary.find?_ofList distinct]

end LookUp

namespace Json

/-- A member that may be missing is found under its own key only, and only where it is not missing.
-/
theorem lookUp?_optionalMember {Value : Type} (key sought : String) (encode : Value → Json)
    (held : Option Value) :
    lookUp? sought (optionalMember key encode held) =
      if sought = key then held.map encode else none := by
  cases held with
  | none => simp [optionalMember, lookUp?]
  | some value => simp [optionalMember, lookUp?]

/-! ## Fields of an object -/

/-- A record takes a member when it passes the check of its field, or when there is no such field
and others are passed over. -/
def Layout.Takes (layout : Layout) (member : String × Json) : Prop :=
  match layout.fields.find? fun field => field.name = member.1 with
  | none => layout.closed = false
  | some field => field.check (source member.2) = .ok ()

/-- The members of an object as a reader meets them. -/
def met (members : List (String × Json)) : List (Option String × Source) :=
  members.map fun entry => (some entry.1, source entry.2)

/-- The reader of an object holds the known members besides those that it held before. Every member
is new to it: its key is neither held nor among those to come. -/
theorem Layout.fieldsOfMembers_met (layout : Layout) {members : List (String × Json)}
    (distinct : (members.map Prod.fst).Nodup) (takes : ∀ entry ∈ members, layout.Takes entry)
    (held : Fields) (fresh : ∀ entry ∈ members, lookUp? entry.1 held = none) :
    ∃ fields, layout.fieldsOfMembers held (met members) = .ok fields ∧
      ∀ field ∈ layout.fields, lookUp? field.name fields =
        ((lookUp? field.name members).map source).or (lookUp? field.name held) := by
  induction members generalizing held with
  | nil => exact ⟨held, rfl, fun _ _ => rfl⟩
  | cons entry rest inductionHypothesis =>
    obtain ⟨key, value⟩ := entry
    obtain ⟨absent, restDistinct⟩ := List.nodup_cons.mp distinct
    have taken := takes _ List.mem_cons_self
    have restTaken : ∀ entry ∈ rest, layout.Takes entry :=
      fun entry member => takes entry (List.mem_cons_of_mem _ member)
    have restFresh : ∀ entry ∈ rest, lookUp? entry.1 held = none :=
      fun entry member => fresh entry (List.mem_cons_of_mem _ member)
    rw [Layout.Takes] at taken
    rw [met, List.map_cons, Layout.fieldsOfMembers]
    cases known : layout.fields.find? fun field => field.name = key with
    | none =>
      -- The member is passed over, and no field asks for it.
      simp only [known] at taken
      obtain ⟨fields, read, found⟩ := inductionHypothesis restDistinct restTaken held restFresh
      refine ⟨fields, ?_, fun field member => ?_⟩
      · simp only [taken, Bool.false_eq_true, if_false, source, Source.skip]
        exact read
      · have other : field.name ≠ key := by
          have := List.find?_eq_none.mp known field member
          simpa using this
        rw [found field member, lookUp?, if_neg other]
    | some field =>
      have named : field.name = key := by
        have := List.find?_some known
        simpa using this
      simp only [known] at taken
      have new : lookUp? key held = none := fresh _ List.mem_cons_self
      have restNew : ∀ entry ∈ rest, lookUp? entry.1 ((key, source value) :: held) = none := by
        intro entry member
        have other : entry.1 ≠ key := fun same =>
          absent (List.mem_map.mpr ⟨entry, member, same⟩)
        rw [lookUp?, if_neg other]
        exact restFresh entry member
      obtain ⟨fields, read, found⟩ :=
        inductionHypothesis restDistinct restTaken ((key, source value) :: held) restNew
      refine ⟨fields, ?_, fun other member => ?_⟩
      · simp only [new, Option.isSome_none, Bool.false_eq_true, if_false, taken]
        exact read
      · rw [found other member, lookUp?, lookUp?]
        by_cases same : other.name = key
        · rw [if_pos same, if_pos same, same, lookUp?_of_not_mem absent]
          rfl
        · rw [if_neg same, if_neg same]

/-- A record finds in what is written as an object what its members say. It is enough that no member
stands there twice and that every field accepts its own. -/
theorem Layout.fieldsOf_written (layout : Layout) {json : Json} {members : List (String × Json)}
    (written : json = ofMembers members) (distinct : (members.map Prod.fst).Nodup)
    (takes : ∀ entry ∈ members, layout.Takes entry) :
    ∃ fields, layout.fieldsOf (source json) = .ok fields ∧
      ∀ field ∈ layout.fields,
        lookUp? field.name fields = (lookUp? field.name members).map source := by
  subst written
  have taken : ∀ entry ∈ (Dictionary.ofList members).entries, layout.Takes entry := by
    intro entry member
    rcases Dictionary.empty.mem_insertMany member with inside | nowhere
    · exact takes entry inside
    · cases nowhere
  obtain ⟨fields, read, found⟩ :=
    layout.fieldsOfMembers_met (Dictionary.ofList members).distinct_keys taken [] fun _ _ => rfl
  refine ⟨fields, ?_, fun field member => ?_⟩
  · change (do
      let held ← layout.fieldsOfMembers [] (met (Dictionary.ofList members).entries)
      Ending.closed.check.mapError DecodeError.form
      return held) = Except.ok fields
    rw [read]
    rfl
  · have written := Dictionary.find?_ofList distinct field.name
    rw [Dictionary.find?] at written
    rw [found field member, written, lookUp?, Option.or_none]

/-! ## Values -/

/-- What is written is read back as it was. -/
def ReadsBack {Value : Type} (encode : Value → Json) (decode : Source → Decoded Value) : Prop :=
  ∀ value, decode (source (encode value)) = .ok value

/-- A text is read where a text is expected. -/
theorem decodeStringFor_source (expected text : String) :
    decodeStringFor expected (source (.string text)) = .ok text :=
  rfl

/-- A text is read back as it is. -/
theorem readsBack_string : ReadsBack .string decodeString :=
  fun _ => rfl

/-- A value is read back as itself. -/
theorem readsBack_json : ReadsBack id decodeJson :=
  fun _ => rfl

section Codecs

variable {Value : Type} {encode : Value → Json} {decode : Source → Decoded Value}

/-- A list is read back if its items are. Induct over the items. -/
theorem readsBack_list (reads : ReadsBack encode decode) :
    ReadsBack (fun values => .array (values.map encode)) (decodeList decode) := by
  have elements : ∀ values : List Value,
      ((values.map encode).map source).mapM decode = .ok values := by
    intro values
    induction values with
    | nil => rfl
    | cons first rest inductionHypothesis =>
      rw [List.map_cons, List.map_cons, List.mapM_cons, reads first, inductionHypothesis]
      rfl
  intro values
  change (do
    let read ← ((values.map encode).map source).mapM decode
    Ending.closed.check.mapError DecodeError.form
    return read) = Except.ok values
  rw [elements values]
  rfl

/-- An optional value is read back when no value is written as null, since a null stands for the
missing one. -/
theorem readsBack_option (reads : ReadsBack encode decode)
    (written : ∀ value, encode value ≠ .null) :
    ReadsBack (ofOption encode) (decodeOption decode) := by
  intro held
  cases held with
  | none => rfl
  | some value =>
    have read := reads value
    have solid := written value
    rw [ofOption]
    generalize encode value = json at read solid
    have shown : decodeOption decode (source json) = (decode (source json)).map some := by
      cases json with
      | null => exact absurd rfl solid
      | _ => rfl
    rw [shown, read]
    rfl

/-- The members of an object are put into a dictionary, each one with its value. Members may come in
any order and a later one takes the place of an earlier one. -/
theorem decodeMap_object (reads : ReadsBack encode decode) (entries : List (String × Value)) :
    decodeMap decode (source (.object (entries.map fun entry => (entry.1, encode entry.2)))) =
      .ok (.ofList entries) := by
  have members : (met (entries.map fun entry => (entry.1, encode entry.2))).mapM
      (decodeMember decode) = .ok entries := by
    induction entries with
    | nil => rfl
    | cons entry rest inductionHypothesis =>
      have first : decodeMember decode (some entry.1, source (encode entry.2)) = .ok entry := by
        rw [decodeMember, reads entry.2]
        rfl
      rw [met, List.map_cons, List.map_cons, List.mapM_cons, first]
      rw [met] at inductionHypothesis
      rw [inductionHypothesis]
      rfl
  change (do
    let read ← (met (entries.map fun entry => (entry.1, encode entry.2))).mapM
      (decodeMember decode)
    Ending.closed.check.mapError DecodeError.form
    return Dictionary.ofList read) = Except.ok (Dictionary.ofList entries)
  rw [members]
  rfl

/-- Metadata are read exactly from the objects, whose members they are. -/
theorem decodeMap_eq_ok_iff {json : Json} {metadata : Dictionary Json} :
    decodeMap decodeJson (source json) = .ok metadata ↔
      ∃ members, json = .object members ∧ metadata = .ofList members := by
  have read (members : List (String × Json)) :
      decodeMap decodeJson (source (.object members)) = .ok (.ofList members) := by
    simpa using decodeMap_object readsBack_json members
  constructor
  · intro decoded
    cases json with
    | object members =>
      rw [read] at decoded
      exact ⟨members, rfl, (Except.ok.inj decoded).symm⟩
    | _ => cases decoded
  · rintro ⟨members, rfl, rfl⟩
    exact read members

/-! ## Fields -/

/-- A member that is left out when there is no value reads back as the value or as none. -/
theorem Fields.optional_map {fields : Fields} {name : String} {held : Option Value}
    (reads : ReadsBack (ofOption encode) (decodeOption decode))
    (found : lookUp? name fields = (held.map encode).map source) :
    fields.optional name decode = .ok held := by
  rw [Fields.optional, found]
  cases held with
  | none => rfl
  | some value => exact reads (some value)

/-- A required field goes by the name that it was given. -/
@[simp]
theorem Field.name_required (name : String) (decode : Source → Decoded Value) :
    (Field.required name decode).name = name :=
  rfl

/-- A field takes what is read for it. -/
theorem Field.check_required {name : String} {spelled : Source} {value : Value}
    (read : decode spelled = .ok value) : (Field.required name decode).check spelled = .ok () := by
  change (decode spelled).map _ = .ok ()
  rw [read]
  rfl

end Codecs

end Json

end Outbox
