import Outbox.Config
import Outbox.Proofs.Calendar
import Outbox.Proofs.Outcome

/-!
# Limits and waiting times

A policy parks a record when its failures reach the limit. The settings name no limit of zero, since
zero stands for none, and none that cannot be counted up to. The time to wait after a failure is the
policy's delay, or a day when the delay is longer than any span that can be added to a moment.
-/

namespace Outbox

open Calendar

namespace RetryPolicy

variable {policy : RetryPolicy} {most : Nat}

/-- The limit of attempts, if there is one, leaves a first attempt and can be counted up to. -/
def Sensible (policy : RetryPolicy) : Prop :=
  ∀ most, policy.maxAttempts = some most → 1 ≤ most ∧ most ≤ mostAttempts

/-- Under a limit a record is parked exactly when the limit is reached. -/
theorem shouldPark_iff (limit : policy.maxAttempts = some most) (attempts : Nat) :
    policy.shouldPark attempts = true ↔ most ≤ attempts := by
  rw [shouldPark, limit, decide_eq_true_eq]

/-- Before the first attempt a record is not parked. -/
theorem shouldPark_zero (sensible : policy.Sensible) : policy.shouldPark 0 = false := by
  cases limit : policy.maxAttempts with
  | none => rw [shouldPark, limit]
  | some most =>
    rw [← Bool.not_eq_true, shouldPark_iff limit]
    have first := (sensible most limit).1
    omega

/-! ## Waiting times -/

/-- Nothing has to be waited for before the first failure. -/
theorem waitingSpan_zero (policy : RetryPolicy) : policy.waitingSpan 0 = 0 := by
  have none : policy.delayMillis 0 = 0 := by simp [delayMillis]
  rw [waitingSpan, none]
  rfl

/-- Without a first waiting time there is none. -/
theorem waitingSpan_of_zero (atOnce : policy.baseDelay = .zero) (attempt : Nat) :
    policy.waitingSpan attempt = 0 := by
  have base : Decimal.roundToBits policy.baseDelay.millis = 0 := by
    rw [atOnce]
    rfl
  have none : policy.delayMillis attempt = 0 := by
    rw [delayMillis, base]
    cases policy.strategy <;> simp [Decimal.roundToBits]
  rw [waitingSpan, none]
  rfl

/-- No waiting time is below zero. -/
theorem waitingSpan_nonneg (policy : RetryPolicy) (attempt : Nat) :
    0 ≤ policy.waitingSpan attempt := by
  rw [waitingSpan]
  split <;> exact Int.natCast_nonneg _

/-- The waiting time is the delay if that can be added to a moment, and a day otherwise. -/
theorem waitingSpan_eq (policy : RetryPolicy) (attempt : Nat) :
    policy.waitingSpan attempt =
      if policy.delayMillis attempt ≤ longestSpan then (policy.delayForAttempt attempt).nanos
      else (Duration.ofSeconds secondsPerDay).nanos := by
  rw [waitingSpan]
  split <;> rfl

/-- A failure leads to an attempt that is not before the failure. -/
theorem upTo_of_recordFailure? {previous : Option Delivery} {event : Identifier} {error : String}
    {now : Timestamp} {delivery : Delivery}
    (remembered : policy.recordFailure? previous event error now = some delivery) :
    now.upTo delivery.nextAttemptAt = true := by
  obtain ⟨next, added, rfl⟩ := Option.map_eq_some_iff.mp remembered
  exact Timestamp.upTo_of_add? (waitingSpan_nonneg _ _) added

end RetryPolicy

namespace Config

/-- A setting that is given is read from its text. -/
theorem setting_ok {Value : Type} {lookup : Lookup} {key : String}
    {parse : String → Option Value} {value : Value}
    (read : setting lookup key parse = .ok (some value)) : ∃ text, parse text = some value := by
  rw [setting] at read
  cases written : given lookup key with
  | none =>
    rw [written] at read
    cases read
  | some text =>
    rw [written] at read
    refine ⟨Text.trim text, ?_⟩
    cases parsed : parse (Text.trim text) with
    | none => simp [parsed] at read
    | some other => simpa [parsed] using read

/-- A number that is read is below the bound of its type. -/
theorem lt_of_unsigned? {bound number : Nat} {text : String}
    (read : Decimal.unsigned? bound text = some number) : number < bound := by
  rw [Decimal.unsigned?, Option.filter_eq_some_iff] at read
  exact of_decide_eq_true read.2

/-- A limit that is set is neither zero nor too large to be counted up to. -/
theorem maxAttemptsOf_ok {lookup : Lookup} {most : Nat}
    (read : maxAttemptsOf lookup = .ok (some most)) :
    1 ≤ most ∧ most ≤ RetryPolicy.mostAttempts := by
  obtain ⟨found, asked, read⟩ := ok_of_bind read
  match found with
  | none =>
    obtain rfl := Option.some.inj (Except.ok.inj read)
    decide
  | some 0 => cases read
  | some (attempts + 1) =>
    obtain rfl := Option.some.inj (Except.ok.inj read)
    obtain ⟨text, parsed⟩ := setting_ok asked
    have below : attempts + 1 < Nat.pow 2 32 := lt_of_unsigned? parsed
    exact ⟨Nat.succ_pos attempts, Nat.le_sub_one_of_lt below⟩

/-- A configuration holds the times that its settings give, the limit of attempts and the window.
The other settings are of no account for retries. -/
theorem ofLookup_ok {lookup : Lookup} {config : Config} (read : ofLookup lookup = .ok config) :
    seconds lookup "SUPPLYREG_RETRY_BASE_SECS" default.retry.baseDelay =
        .ok config.retry.baseDelay ∧
      seconds lookup "SUPPLYREG_RETRY_MAX_SECS" default.retry.maxDelay =
        .ok config.retry.maxDelay ∧
      maxAttemptsOf lookup = .ok config.retry.maxAttempts ∧
      retentionWindowOf lookup = .ok config.retentionWindow ∧
      config.retry.strategy = .exponential := by
  obtain ⟨_, base, read⟩ := ok_of_bind read
  obtain ⟨_, most, read⟩ := ok_of_bind read
  obtain ⟨_, limit, read⟩ := ok_of_bind read
  obtain ⟨_, window, read⟩ := ok_of_bind read
  obtain ⟨_, _, read⟩ := ok_of_bind read
  obtain ⟨_, _, read⟩ := ok_of_bind read
  obtain ⟨_, _, read⟩ := ok_of_bind read
  obtain ⟨_, _, read⟩ := ok_of_bind read
  obtain ⟨_, _, read⟩ := ok_of_bind read
  obtain rfl := Except.ok.inj read
  exact ⟨base, most, limit, window, rfl⟩

/-- Every configuration has a sensible limit or none. -/
theorem sensible_retry {lookup : Lookup} {config : Config} (read : ofLookup lookup = .ok config) :
    config.retry.Sensible := by
  obtain ⟨_, _, chosen, _, _⟩ := ofLookup_ok read
  intro most limit
  rw [limit] at chosen
  exact maxAttemptsOf_ok chosen

end Config

end Outbox
