import Outbox.Config

/-!
# Which settings are accepted

There is a rule for each of the thirteen keys: what a text under it has to be. The rules stand in
the order in which the settings are looked at. `verdict` passes judgement by the rules alone: the
first text that breaks its rule is reported, and when there is none, the settings are as intended.
Each step of reading the settings is the verdict by its own rule, two steps are the verdict by the
rules of both (`verdict_bind`), and so reading the settings is the verdict by all rules.
-/

namespace Outbox.Config

open Calendar

/-- What a text under a key has to be. -/
inductive Kind
  | anything
  /-- A number of seconds. -/
  | seconds
  /-- A number of seconds that is not zero. -/
  | interval
  /-- A number of failures. -/
  | limit
  /-- A positive number of days. -/
  | days
  /-- One of eight words. -/
  | truth

/-- The words for yes. -/
def yesWords : List String := ["1", "true", "yes", "on"]

/-- The words for no. -/
def noWords : List String := ["0", "false", "no", "off"]

namespace Kind

/-- Whether a text is of a kind. -/
def accepts : Kind → String → Bool
  | anything, _ => true
  | seconds, text => (Decimal.unsigned? (Nat.pow 2 64) text).isSome
  | interval, text => (Decimal.unsigned? (Nat.pow 2 64) text).any fun number => 0 < number
  | limit, text => (Decimal.unsigned? (Nat.pow 2 32) text).isSome
  | days, text => (Decimal.signed? text).any fun number => 0 < number
  | truth, text => (yesWords ++ noWords).contains (Text.lowercase text)

/-- How a text that is not of a kind is reported: a number that is too small as a number, and any
other text as it was given. -/
def shown : Kind → String → String
  | interval, text => ((Decimal.unsigned? (Nat.pow 2 64) (Text.trim text)).map toString).getD text
  | days, text => ((Decimal.signed? (Text.trim text)).map toString).getD text
  | _, text => text

end Kind

/-- What the text under a key has to be. -/
structure Rule where
  key : String
  kind : Kind

/-- The rules in the order in which the settings are looked at. -/
def rules : List Rule :=
  [⟨"SUPPLYREG_RETRY_BASE_SECS", .seconds⟩,
    ⟨"SUPPLYREG_RETRY_MAX_SECS", .seconds⟩,
    ⟨"SUPPLYREG_RETRY_MAX_ATTEMPTS", .limit⟩,
    ⟨"SUPPLYREG_RETENTION_DAYS", .days⟩,
    ⟨"SUPPLYREG_DISPATCH_INTERVAL_SECS", .interval⟩,
    ⟨"SUPPLYREG_RETENTION_INTERVAL_SECS", .interval⟩,
    ⟨"SUPPLYREG_PUSH_TIMEOUT_SECS", .interval⟩,
    ⟨"SUPPLYREG_CACHE_REFRESH_SECS", .interval⟩,
    ⟨"SUPPLYREG_IS_LEADER", .truth⟩,
    ⟨"DATABASE_URL", .anything⟩,
    ⟨"REDIS_URL", .anything⟩,
    ⟨"SUPPLYREG_PRODUCER_ID", .anything⟩,
    ⟨"SUPPLYREG_BIND_ADDR", .anything⟩]

section

variable (lookup : Lookup)

/-- A text that is given and not blank keeps its rule. -/
def keeps (rule : Rule) : Bool :=
  (given lookup rule.key).all fun text => rule.kind.accepts (Text.trim text)

/-- How a broken rule is reported. -/
def report (rule : Rule) : ConfigError :=
  .invalid rule.key (rule.kind.shown ((given lookup rule.key).getD ""))

/-- The value if all rules are kept, and otherwise the report of the first one that is broken. -/
def verdict {Value : Type} (rules : List Rule) (value : Value) : Except ConfigError Value :=
  match rules.find? fun rule => !keeps lookup rule with
  | none => .ok value
  | some rule => .error (report lookup rule)

/-- What the text under a key stands for, if there is one. -/
def reading {Value : Type} (key : String) (parse : String → Option Value) : Option Value :=
  (given lookup key).bind fun text => parse (Text.trim text)

/-- The seconds given under a key, or else the usual ones. -/
def secondsOr (key : String) (usual : Nat) : Duration :=
  .ofSeconds ((reading lookup key (Decimal.unsigned? (Nat.pow 2 64))).getD usual)

/-- The given limit of attempts, of which zero stands for none, or else twenty. -/
def limitOrTwenty : Option Nat :=
  match reading lookup "SUPPLYREG_RETRY_MAX_ATTEMPTS" (Decimal.unsigned? (Nat.pow 2 32)) with
  | none => some 20
  | some 0 => none
  | some attempts => some attempts

/-- The given number of days, or else thirty, in seconds. -/
def windowOrMonth : Nat :=
  ((reading lookup "SUPPLYREG_RETENTION_DAYS" Decimal.signed?).map Int.toNat).getD 30 * 86400

/-- Whether the word given under a key is one for yes. -/
def yes? (key : String) : Option Bool :=
  (given lookup key).map fun text => yesWords.contains (Text.lowercase (Text.trim text))

/-- The settings that are meant by acceptable texts. Every field is read on its own here, without
regard to the order in which the program looks at the settings. -/
def intended : Config where
  databaseUrl := given lookup "DATABASE_URL"
  brokerUrl := given lookup "REDIS_URL"
  producer := (given lookup "SUPPLYREG_PRODUCER_ID").getD "supplyreg-registry"
  dispatchInterval := secondsOr lookup "SUPPLYREG_DISPATCH_INTERVAL_SECS" 15
  retentionInterval := secondsOr lookup "SUPPLYREG_RETENTION_INTERVAL_SECS" 86400
  retentionWindow := windowOrMonth lookup
  pushTimeout := secondsOr lookup "SUPPLYREG_PUSH_TIMEOUT_SECS" 10
  retry :=
    { maxAttempts := limitOrTwenty lookup
      baseDelay := secondsOr lookup "SUPPLYREG_RETRY_BASE_SECS" 15
      maxDelay := secondsOr lookup "SUPPLYREG_RETRY_MAX_SECS" 3600
      strategy := .exponential }
  cacheRefreshInterval := secondsOr lookup "SUPPLYREG_CACHE_REFRESH_SECS" 300
  bindAddress := (given lookup "SUPPLYREG_BIND_ADDR").getD "0.0.0.0:8080"
  isLeader := (yes? lookup "SUPPLYREG_IS_LEADER").getD true

/-! ## Verdicts -/

variable {lookup}

/-- The verdict by one rule. -/
theorem verdict_one {Value : Type} (rule : Rule) (value : Value) :
    verdict lookup [rule] value =
      if keeps lookup rule then .ok value else .error (report lookup rule) := by
  cases kept : keeps lookup rule <;> simp [verdict, kept]

/-- After the verdict by a rule that is kept it goes on with the value. -/
theorem bind_of_kept {First Second : Type} {first : Except ConfigError First}
    {next : First → Except ConfigError Second} {rule : Rule} {middle : First}
    (before : first = verdict lookup [rule] middle) (kept : keeps lookup rule = true) :
    first >>= next = next middle := by
  rw [before, verdict_one, if_pos kept]
  rfl

/-- What comes after the verdict by one rule, if it is kept, is a verdict by the further rules. -/
theorem verdict_bind {First Second : Type} {first : Except ConfigError First}
    {next : First → Except ConfigError Second} {rule : Rule} {others : List Rule} {middle : First}
    {value : Second} (before : first = verdict lookup [rule] middle)
    (after : keeps lookup rule = true → next middle = verdict lookup others value) :
    first >>= next = verdict lookup (rule :: others) value := by
  cases kept : keeps lookup rule with
  | true =>
    rw [bind_of_kept before kept, after kept, verdict, verdict, List.find?_cons, kept]
    rfl
  | false =>
    rw [before, verdict_one, verdict, List.find?_cons, kept]
    rfl

/-- Settings are accepted exactly when they keep all rules, and then with the value that is meant.
-/
theorem verdict_eq_ok_iff {Value : Type} {rules : List Rule} {value other : Value} :
    verdict lookup rules value = .ok other ↔
      (∀ rule ∈ rules, keeps lookup rule = true) ∧ other = value := by
  rw [verdict]
  cases found : rules.find? fun rule => !keeps lookup rule with
  | none =>
    have kept : ∀ rule ∈ rules, keeps lookup rule = true := by simpa using found
    constructor
    · exact fun same => ⟨kept, (Except.ok.inj same).symm⟩
    · rintro ⟨-, rfl⟩
      rfl
  | some rule =>
    have broken : keeps lookup rule = false := by simpa using List.find?_some found
    have member := List.mem_of_find?_eq_some found
    simp only [reduceCtorEq, false_iff, not_and]
    intro kept
    simp [kept rule member] at broken

/-- An error reports the first rule that is broken, in the order of the rules. All earlier ones are
kept, and nothing is said of the later ones. -/
theorem verdict_eq_error_iff {Value : Type} {rules : List Rule} {value : Value}
    {error : ConfigError} :
    verdict lookup rules value = .error error ↔
      ∃ before rule after, rules = before ++ rule :: after ∧
        (∀ earlier ∈ before, keeps lookup earlier = true) ∧ keeps lookup rule = false ∧
        error = report lookup rule := by
  constructor
  · intro refused
    rw [verdict] at refused
    cases found : rules.find? fun rule => !keeps lookup rule with
    | none =>
      rw [found] at refused
      cases refused
    | some rule =>
      rw [found] at refused
      obtain ⟨broken, before, after, split, kept⟩ := List.find?_eq_some_iff_append.mp found
      refine ⟨before, rule, after, split, by simpa using kept, by simpa using broken, ?_⟩
      exact (Except.error.inj refused).symm
  · rintro ⟨before, rule, after, rfl, kept, broken, rfl⟩
    have found : (before ++ rule :: after).find? (fun rule => !keeps lookup rule) = some rule :=
      List.find?_eq_some_iff_append.mpr
        ⟨by simpa using broken, before, after, rfl, by simpa using kept⟩
    rw [verdict, found]

/-! ## Each step of reading the settings -/

/-- A step that reads a text and goes on is the verdict by the rule of its key, if it ends with the
value when there is no text, and is right about every text that can be read and every other one. -/
theorem step_eq_verdict {Found Value : Type} {parse : String → Option Found}
    {next : Option Found → Except ConfigError Value} {key : String} {kind : Kind} {value : Value}
    (absent : given lookup key = none → next none = .ok value)
    (unread : ∀ text, parse (Text.trim text) = none →
      kind.accepts (Text.trim text) = false ∧ kind.shown text = text)
    (read : ∀ text found, given lookup key = some text → parse (Text.trim text) = some found →
      next (some found) =
        if kind.accepts (Text.trim text) then .ok value
        else .error (.invalid key (kind.shown text))) :
    setting lookup key parse >>= next = verdict lookup [⟨key, kind⟩] value := by
  rw [verdict_one, setting, keeps, report]
  cases written : given lookup key with
  | none => exact absent written
  | some text =>
    cases parsed : parse (Text.trim text) with
    | none =>
      obtain ⟨refused, shown⟩ := unread text parsed
      simp [parsed, refused, shown, bind, Except.bind]
    | some found => simpa [parsed, bind, Except.bind] using read text found written parsed

/-- Reading a time that may be zero is the verdict by its rule. -/
theorem seconds_eq_verdict (key : String) (usual : Nat) :
    seconds lookup key (.ofSeconds usual) =
      verdict lookup [⟨key, .seconds⟩] (secondsOr lookup key usual) := by
  refine step_eq_verdict ?_ ?_ ?_
  · intro absent
    simp [secondsOr, reading, absent, pure, Except.pure]
  · intro text unread
    simp [Kind.accepts, Kind.shown, unread]
  · intro text number written read
    simp [Kind.accepts, secondsOr, reading, written, read, pure, Except.pure]

/-- Only zero seconds are no time. -/
theorem ofSeconds_eq_zero_iff (number : Nat) :
    Duration.ofSeconds number = .zero ↔ number = 0 := by
  rw [Duration.ofSeconds, Duration.zero, Duration.mk.injEq]
  omega

/-- Reading a time that has to be positive is reading a number and looking at the time that it
gives. -/
theorem positiveSeconds_eq (key : String) (usual : Duration) :
    positiveSeconds lookup key usual =
      setting lookup key (Decimal.unsigned? (Nat.pow 2 64)) >>= fun found =>
        let duration := (found.map Duration.ofSeconds).getD usual
        if duration = .zero then .error (.invalid key "0") else .ok duration := by
  rw [positiveSeconds, seconds, bind_assoc]
  rfl

/-- A time of zero is refused when it is given, and reported as a zero whatever its spelling. The
usual time is longer. -/
theorem positiveSeconds_eq_verdict (key : String) {usual : Nat} (positive : 0 < usual) :
    positiveSeconds lookup key (.ofSeconds usual) =
      verdict lookup [⟨key, .interval⟩] (secondsOr lookup key usual) := by
  rw [positiveSeconds_eq]
  refine step_eq_verdict ?_ ?_ ?_
  · intro absent
    simp [secondsOr, reading, absent, ofSeconds_eq_zero_iff, Nat.ne_of_gt positive]
  · intro text unread
    simp [Kind.accepts, Kind.shown, unread]
  · intro text number written read
    by_cases zero : number = 0
    · have refused : Kind.interval.accepts (Text.trim text) = false := by
        simp [Kind.accepts, read, zero]
      have shown : Kind.interval.shown text = "0" := by
        rw [Kind.shown, read, zero]
        rfl
      rw [refused, shown]
      exact if_pos ((ofSeconds_eq_zero_iff number).mpr zero)
    · simp [Kind.accepts, secondsOr, reading, written, read, ofSeconds_eq_zero_iff, zero,
        Nat.pos_of_ne_zero zero]

/-- Reading the limit of attempts is the verdict by its rule. Zero is accepted and means that there
is no limit. -/
theorem maxAttemptsOf_eq_verdict :
    maxAttemptsOf lookup =
      verdict lookup [⟨"SUPPLYREG_RETRY_MAX_ATTEMPTS", .limit⟩] (limitOrTwenty lookup) := by
  refine step_eq_verdict ?_ ?_ ?_
  · intro absent
    rw [limitOrTwenty, reading, absent]
    rfl
  · intro text unread
    simp [Kind.accepts, Kind.shown, unread]
  · intro text number written read
    cases number with
    | zero => simp [Kind.accepts, limitOrTwenty, reading, written, read, pure, Except.pure]
    | succ number => simp [Kind.accepts, limitOrTwenty, reading, written, read, pure, Except.pure]

/-- Reading the window is reading a number of days and looking at it twice: it has to be positive,
and there has to be a span of so many days. -/
theorem retentionWindowOf_eq :
    retentionWindowOf lookup =
      setting lookup "SUPPLYREG_RETENTION_DAYS" Decimal.signed? >>= fun
        | none => .ok default.retentionWindow
        | some days =>
          if days ≤ 0 then .error (.invalid "SUPPLYREG_RETENTION_DAYS" (toString days))
          else if longestWindow < days then .error (.windowTooLong days)
          else .ok (days.toNat * secondsPerDay) := by
  refine bind_congr fun found => ?_
  cases found with
  | none => rfl
  | some days =>
    dsimp only
    split
    · rfl
    · split <;> rfl

/-- The days that are given make a window, unless there is no span of time for so many. No rule
speaks of that case, which has an error of its own. -/
theorem retentionWindowOf_eq_verdict
    (held : ∀ text days, given lookup "SUPPLYREG_RETENTION_DAYS" = some text →
      Decimal.signed? (Text.trim text) = some days → days ≤ longestWindow) :
    retentionWindowOf lookup =
      verdict lookup [⟨"SUPPLYREG_RETENTION_DAYS", .days⟩] (windowOrMonth lookup) := by
  rw [retentionWindowOf_eq]
  refine step_eq_verdict ?_ ?_ ?_
  · intro absent
    rw [windowOrMonth, reading, absent]
    rfl
  · intro text unread
    simp [Kind.accepts, Kind.shown, unread]
  · intro text days written read
    have short : ¬ longestWindow < days :=
      Int.not_lt.mpr (held text days written read)
    by_cases positive : 0 < days
    · have accepted : Kind.days.accepts (Text.trim text) = true := by
        simp [Kind.accepts, read, positive]
      have window : windowOrMonth lookup = days.toNat * secondsPerDay := by
        simp [windowOrMonth, reading, written, read, secondsPerDay]
      simp [accepted, window, short, Int.not_le.mpr positive]
    · have refused : Kind.days.accepts (Text.trim text) = false := by
        simp [Kind.accepts, read, positive]
      have shown : Kind.days.shown text = toString days := by simp [Kind.shown, read]
      simp [refused, shown, Int.not_lt.mp positive]

/-- Words that stand for the same value are looked up together. -/
theorem lookUp?_words {Value : Type} (key : String) (words : List String) (value : Value)
    (rest : List (String × Value)) :
    lookUp? key (words.map (fun word => (word, value)) ++ rest) =
      if words.contains key then some value else lookUp? key rest := by
  induction words with
  | nil => rfl
  | cons word words inductionHypothesis =>
    simp only [List.map_cons, List.cons_append, lookUp?, inductionHypothesis, List.contains_cons]
    by_cases same : key = word <;> simp [same]

/-- A word is read if it is one for yes or for no. -/
theorem truth?_eq (text : String) :
    truth? text =
      if Kind.truth.accepts text then some (yesWords.contains (Text.lowercase text)) else none := by
  have table : truthWords = yesWords.map (fun word => (word, true)) ++
      (noWords.map (fun word => (word, false)) ++ []) := rfl
  rw [truth?, table, lookUp?_words, lookUp?_words, Kind.accepts, List.contains_append]
  cases yesWords.contains (Text.lowercase text) <;>
    cases noWords.contains (Text.lowercase text) <;> rfl

/-- Reading a truth value is the verdict by its rule. -/
theorem truth_eq_verdict (key : String) :
    setting lookup key truth? = verdict lookup [⟨key, .truth⟩] (yes? lookup key) := by
  rw [← bind_pure (setting lookup key truth?)]
  refine step_eq_verdict ?_ ?_ ?_
  · intro absent
    rw [yes?, absent]
    rfl
  · intro text unread
    rw [truth?_eq] at unread
    exact ⟨by simpa using unread, rfl⟩
  · intro text isYes written read
    rw [truth?_eq] at read
    obtain ⟨accepted, same⟩ := Option.ite_none_right_eq_some.mp read
    obtain rfl := Option.some.inj same
    rw [if_pos accepted, yes?, written]
    rfl

/-- Texts of any kind keep their rules. -/
theorem verdict_anything {Value : Type} (keys : List String) (value : Value) :
    verdict lookup (keys.map fun key => ⟨key, .anything⟩) value = .ok value := by
  refine verdict_eq_ok_iff.mpr ⟨?_, rfl⟩
  intro rule member
  obtain ⟨key, -, rfl⟩ := List.mem_map.mp member
  rw [keeps]
  cases given lookup key <;> rfl

/-- Reading the settings is the verdict by all rules, if there is a span of time for the days as far
as these are looked at. -/
theorem ofLookup_eq_verdict_of_reached
    (held : (∀ rule ∈ rules.take 3, keeps lookup rule = true) →
      ∀ text days, given lookup "SUPPLYREG_RETENTION_DAYS" = some text →
        Decimal.signed? (Text.trim text) = some days → days ≤ longestWindow) :
    ofLookup lookup = verdict lookup rules (intended lookup) := by
  unfold ofLookup rules
  refine verdict_bind (seconds_eq_verdict "SUPPLYREG_RETRY_BASE_SECS" 15) fun base => ?_
  refine verdict_bind (seconds_eq_verdict "SUPPLYREG_RETRY_MAX_SECS" 3600) fun most => ?_
  refine verdict_bind maxAttemptsOf_eq_verdict fun limit => ?_
  have reached : ∀ rule ∈ rules.take 3, keeps lookup rule = true := by
    simp [rules, base, most, limit]
  refine verdict_bind (retentionWindowOf_eq_verdict (held reached)) fun _ => ?_
  refine verdict_bind
    (positiveSeconds_eq_verdict "SUPPLYREG_DISPATCH_INTERVAL_SECS" (by decide : 0 < 15)) fun _ => ?_
  refine verdict_bind
    (positiveSeconds_eq_verdict "SUPPLYREG_RETENTION_INTERVAL_SECS" (by decide : 0 < 86400))
    fun _ => ?_
  refine verdict_bind
    (positiveSeconds_eq_verdict "SUPPLYREG_PUSH_TIMEOUT_SECS" (by decide : 0 < 10)) fun _ => ?_
  refine verdict_bind
    (positiveSeconds_eq_verdict "SUPPLYREG_CACHE_REFRESH_SECS" (by decide : 0 < 300)) fun _ => ?_
  refine verdict_bind (truth_eq_verdict "SUPPLYREG_IS_LEADER") fun _ => ?_
  exact (verdict_anything ["DATABASE_URL", "REDIS_URL", "SUPPLYREG_PRODUCER_ID",
    "SUPPLYREG_BIND_ADDR"] (intended lookup)).symm

/-- Reading the settings is the verdict by all rules. -/
theorem ofLookup_eq_verdict
    (held : ∀ text days, lookup "SUPPLYREG_RETENTION_DAYS" = some text →
      Decimal.signed? (Text.trim text) = some days → days ≤ longestWindow) :
    ofLookup lookup = verdict lookup rules (intended lookup) :=
  ofLookup_eq_verdict_of_reached fun _ text days written =>
    held text days (Option.filter_eq_some_iff.mp written).1

-- Of two broken rules the first one is reported, wherever the texts stand.
example :
    ofLookup (lookUp? · [("SUPPLYREG_IS_LEADER", "maybe"), ("SUPPLYREG_RETENTION_DAYS", " 0 ")]) =
      .error (.invalid "SUPPLYREG_RETENTION_DAYS" "0") := rfl

/-! ## What the rules are good for -/

/-- A text that is given and not blank is of its kind if its rule is kept. -/
theorem keeps_iff (rule : Rule) :
    keeps lookup rule = true ↔ ∀ text, lookup rule.key = some text → Text.isBlank text = false →
      rule.kind.accepts (Text.trim text) = true := by
  simp only [keeps, given, Option.all_eq_true, Option.filter_eq_some_iff, Bool.not_eq_true',
    and_imp]

/-- A broken rule is reported with its key and the text under it. -/
theorem report_of_broken {rule : Rule} (broken : keeps lookup rule = false) :
    ∃ text, lookup rule.key = some text ∧ Text.isBlank text = false ∧
      rule.kind.accepts (Text.trim text) = false ∧
      report lookup rule = .invalid rule.key (rule.kind.shown text) := by
  rw [keeps] at broken
  cases written : given lookup rule.key with
  | none =>
    rw [written] at broken
    cases broken
  | some text =>
    rw [written] at broken
    obtain ⟨found, visible⟩ := Option.filter_eq_some_iff.mp written
    exact ⟨text, found, by simpa using visible, broken, by rw [report, written]; rfl⟩

/-- What is read is as the rule wants it, if it is kept. -/
theorem reading_of_keeps {Value : Type} {key : String} {kind : Kind}
    {parse : String → Option Value} {wanted : Value → Bool}
    (accepts : ∀ text, kind.accepts text = (parse text).any wanted)
    (kept : keeps lookup ⟨key, kind⟩ = true) :
    (reading lookup key parse).all wanted = true := by
  rw [keeps] at kept
  rw [reading]
  cases written : given lookup key with
  | none => rfl
  | some text =>
    have accepted : (parse (Text.trim text)).any wanted = true := by
      simpa [written, accepts] using kept
    cases read : parse (Text.trim text) <;> simp_all

/-- A time that must not be zero is not. -/
theorem secondsOr_pos {key : String} {usual : Nat} (positive : 0 < usual)
    (kept : keeps lookup ⟨key, .interval⟩ = true) : 0 < (secondsOr lookup key usual).nanos := by
  have wanted := reading_of_keeps (fun _ => rfl) kept
  have number : 0 < (reading lookup key (Decimal.unsigned? (Nat.pow 2 64))).getD usual := by
    cases read : reading lookup key (Decimal.unsigned? (Nat.pow 2 64)) with
    | none => exact positive
    | some number => simpa [read] using wanted
  exact Nat.mul_pos number (by decide)

/-- The window is at least a day. -/
theorem day_le_windowOrMonth (kept : keeps lookup ⟨"SUPPLYREG_RETENTION_DAYS", .days⟩ = true) :
    86400 ≤ windowOrMonth lookup := by
  have wanted := reading_of_keeps (fun _ => rfl) kept
  rw [windowOrMonth]
  cases read : reading lookup "SUPPLYREG_RETENTION_DAYS" Decimal.signed? with
  | none => decide
  | some days =>
    have positive : 0 < days := by simpa [read] using wanted
    have whole : 1 ≤ days.toNat := by omega
    exact Nat.le_mul_of_pos_left 86400 whole

/-- The limit that is meant is never zero. -/
theorem limitOrTwenty_ne_zero : limitOrTwenty lookup ≠ some 0 := by
  rw [limitOrTwenty]
  split <;> simp_all

/-- A value that is not given, or blank. -/
def IsUnset (value : Option String) : Prop := ∀ text, value = some text → Text.isBlank text = true

/-- A value that is not given, or blank, counts as not given. -/
theorem given_eq_of_unset {lookup : Lookup} {key : String} (unset : IsUnset (lookup key)) :
    given lookup key = none := by
  rw [given, Option.filter_eq_none_iff]
  intro text written
  simp [unset text written]

/-- Only the texts under the thirteen keys matter, and of these not the blank ones. -/
theorem ofLookup_congr {other : Lookup}
    (same : ∀ rule ∈ rules, given other rule.key = given lookup rule.key) :
    ofLookup other = ofLookup lookup := by
  simp only [rules, List.forall_mem_cons] at same
  obtain ⟨base, most, limit, days, dispatch, retention, push, cache, leader, database, broker,
    producer, address, -⟩ := same
  simp only [ofLookup, positiveSeconds, seconds, maxAttemptsOf, retentionWindowOf, setting, base,
    most, limit, days, dispatch, retention, push, cache, leader, database, broker, producer,
    address]

end

/-- The settings are accepted exactly if every text that is given and not blank is of the kind that
its rule names. Then each setting is what its text stands for, or else the usual one. If they are
refused, the first broken rule is reported. -/
theorem accepted_exactly_by_rules (lookup : Lookup)
    (held : ∀ text days, lookup "SUPPLYREG_RETENTION_DAYS" = some text →
      Decimal.signed? (Text.trim text) = some days → days ≤ 106751991167) :
    ((∃ config, ofLookup lookup = .ok config) ↔
      ∀ rule ∈ rules, ∀ text, lookup rule.key = some text → Text.isBlank text = false →
        rule.kind.accepts (Text.trim text) = true) ∧
    (∀ config, ofLookup lookup = .ok config →
      config = intended lookup ∧
        0 < config.dispatchInterval.nanos ∧ 0 < config.retentionInterval.nanos ∧
        0 < config.pushTimeout.nanos ∧ 0 < config.cacheRefreshInterval.nanos ∧
        86400 ≤ config.retentionWindow ∧ config.retry.maxAttempts ≠ some 0) ∧
    (∀ error, ofLookup lookup = .error error →
      ∃ before rule after text, rules = before ++ rule :: after ∧
        (∀ earlier ∈ before, keeps lookup earlier = true) ∧
        lookup rule.key = some text ∧ Text.isBlank text = false ∧
        rule.kind.accepts (Text.trim text) = false ∧
        error = .invalid rule.key (rule.kind.shown text)) ∧
    ∀ other : Lookup,
      (∀ rule ∈ rules, other rule.key = lookup rule.key ∨
        IsUnset (other rule.key) ∧ IsUnset (lookup rule.key)) →
      ofLookup other = ofLookup lookup := by
  have judged : ofLookup lookup = verdict lookup rules (intended lookup) := ofLookup_eq_verdict held
  rw [judged]
  refine ⟨?_, ?_, ?_, ?_⟩
  · simp only [verdict_eq_ok_iff, exists_and_left, exists_eq, and_true, keeps_iff]
  · intro config accepted
    obtain ⟨kept, rfl⟩ := verdict_eq_ok_iff.mp accepted
    refine ⟨rfl, secondsOr_pos (by decide) ?_, secondsOr_pos (by decide) ?_,
      secondsOr_pos (by decide) ?_, secondsOr_pos (by decide) ?_, day_le_windowOrMonth ?_,
      limitOrTwenty_ne_zero⟩
    all_goals exact kept _ (by simp [rules])
  · intro error refused
    obtain ⟨before, rule, after, split, kept, broken, rfl⟩ := verdict_eq_error_iff.mp refused
    obtain ⟨text, written, visible, unaccepted, reported⟩ := report_of_broken broken
    exact ⟨before, rule, after, text, split, kept, written, visible, unaccepted, reported⟩
  · intro other same
    rw [← judged]
    refine ofLookup_congr fun rule member => ?_
    obtain same | ⟨unset, before⟩ := same rule member
    · rw [given, given, same]
    · rw [given_eq_of_unset unset, given_eq_of_unset before]

/-- Settings for a station that retries for ever, keeps what was sent for a week and does not
lead. -/
def weeklySettings (key : String) : Option String :=
  lookUp? key [("SUPPLYREG_RETRY_MAX_ATTEMPTS", "0"), ("SUPPLYREG_RETENTION_DAYS", " +7 "),
    ("SUPPLYREG_DISPATCH_INTERVAL_SECS", "5"), ("SUPPLYREG_BIND_ADDR", "  "),
    ("SUPPLYREG_IS_LEADER", "Off"), ("DATABASE_URL", "postgres://db"), ("HOME", "/root")]

/-- These settings without what does not matter: a blank text and a foreign key. -/
def plainSettings (key : String) : Option String :=
  if key = "SUPPLYREG_BIND_ADDR" ∨ key = "HOME" then none else weeklySettings key

/-- The settings of the relay that are meant. -/
def weeklyConfig : Config :=
  { default with
    databaseUrl := some "postgres://db"
    dispatchInterval := .ofSeconds 5
    retentionWindow := 7 * 86400
    retry := { RetryPolicy.default with maxAttempts := none }
    isLeader := false }

/-- These settings are accepted with the values that are meant, a signed number between blanks and a
word in any case among them. Without the blank text and the foreign key they are accepted with the
same values. -/
theorem weeklySettings_accepted :
    (∀ text days, weeklySettings "SUPPLYREG_RETENTION_DAYS" = some text →
      Decimal.signed? (Text.trim text) = some days → days ≤ 106751991167) ∧
    ofLookup weeklySettings = .ok weeklyConfig ∧ weeklyConfig = intended weeklySettings ∧
    0 < weeklyConfig.dispatchInterval.nanos ∧ weeklyConfig.retry.maxAttempts ≠ some 0 ∧
    ofLookup plainSettings = .ok weeklyConfig := by
  have held : ∀ text days, weeklySettings "SUPPLYREG_RETENTION_DAYS" = some text →
      Decimal.signed? (Text.trim text) = some days → days ≤ 106751991167 := by
    intro text days written read
    have given : weeklySettings "SUPPLYREG_RETENTION_DAYS" = some " +7 " := rfl
    obtain rfl := Option.some.inj (given.symm.trans written)
    have seven : Decimal.signed? (Text.trim " +7 ") = some 7 := by decide
    obtain rfl := Option.some.inj (seven.symm.trans read)
    decide
  have read : ofLookup weeklySettings = .ok weeklyConfig := rfl
  obtain ⟨-, values, -, same⟩ := accepted_exactly_by_rules weeklySettings held
  obtain ⟨meant, dispatch, -, -, -, -, limit⟩ := values weeklyConfig read
  refine ⟨held, read, meant, dispatch, limit, (same plainSettings ?_).trans read⟩
  intro rule member
  have known : rule.key ≠ "HOME" := (by decide : ∀ rule ∈ rules, rule.key ≠ "HOME") rule member
  by_cases address : rule.key = "SUPPLYREG_BIND_ADDR"
  · rw [address]
    have absent : IsUnset (plainSettings "SUPPLYREG_BIND_ADDR") := by
      intro text written
      cases written
    refine .inr ⟨absent, fun text written => ?_⟩
    have given : weeklySettings "SUPPLYREG_BIND_ADDR" = some "  " := rfl
    obtain rfl := Option.some.inj (given.symm.trans written)
    decide
  · exact .inl (if_neg (by simp [address, known]))

end Outbox.Config
