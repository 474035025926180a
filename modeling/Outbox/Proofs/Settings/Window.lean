import Outbox.Proofs.Settings.Acceptance

/-!
# Settings that crash

A window is given as a number of days, and a text may write more days than a span of time can hold.
Such a number is not refused like any other unacceptable one: where it is reached, reading the
settings crashes. It is reached when the three settings that are looked at before it are acceptable.
Every other number, under this key or another one, is accepted or refused by its rule.
-/

namespace Outbox.Config

open Calendar

/-- A number of days is given and reached, and no span of time holds so many. -/
structure Unheld (lookup : Lookup) (days : Int) : Prop where
  /-- What is looked at before the window is acceptable. -/
  reached : ∀ rule ∈ rules.take 3, keeps lookup rule = true
  given : ∃ text, lookup "SUPPLYREG_RETENTION_DAYS" = some text ∧ Text.isBlank text = false ∧
    Decimal.signed? (Text.trim text) = some days
  long : longestWindow < days

section

variable {lookup : Lookup}

/-- Reading a window that no span of time holds crashes. -/
theorem retentionWindowOf_of_unheld {days : Int} (unheld : Unheld lookup days) :
    retentionWindowOf lookup = .error (.windowTooLong days) := by
  obtain ⟨-, ⟨text, written, visible, read⟩, long⟩ := unheld
  have shown : given lookup "SUPPLYREG_RETENTION_DAYS" = some text := by
    simp [given, written, visible]
  have positive : ¬ days ≤ 0 := by
    simp only [longestWindow] at long
    omega
  simp [retentionWindowOf_eq, setting, shown, read, positive, long, bind, Except.bind]

/-- The settings before a window that no span of time holds are read, and then there is the
crash. -/
theorem ofLookup_of_unheld {days : Int} (unheld : Unheld lookup days) :
    ofLookup lookup = .error (.windowTooLong days) := by
  have reached := unheld.reached
  simp only [rules, List.take_succ_cons, List.take_zero, List.forall_mem_cons] at reached
  obtain ⟨base, most, limit, -⟩ := reached
  unfold ofLookup
  refine (bind_of_kept (seconds_eq_verdict "SUPPLYREG_RETRY_BASE_SECS" 15) base).trans ?_
  refine (bind_of_kept (seconds_eq_verdict "SUPPLYREG_RETRY_MAX_SECS" 3600) most).trans ?_
  refine (bind_of_kept maxAttemptsOf_eq_verdict limit).trans ?_
  rw [retentionWindowOf_of_unheld unheld]
  rfl

/-- Where no such window is reached, reading the settings is the verdict by all rules. -/
theorem ofLookup_of_held (held : ∀ days, ¬ Unheld lookup days) :
    ofLookup lookup = verdict lookup rules (intended lookup) := by
  refine ofLookup_eq_verdict_of_reached fun reached text days shown read => ?_
  obtain ⟨written, visible⟩ := Option.filter_eq_some_iff.mp shown
  refine Int.not_lt.mp fun long => held days ⟨reached, ?_, long⟩
  exact ⟨text, written, by simpa using visible, read⟩

/-- A verdict is never a crash. -/
theorem verdict_ne_crash {Value : Type} {rules : List Rule} {value : Value} (days : Int) :
    verdict lookup rules value ≠ .error (.windowTooLong days) := by
  intro crashed
  obtain ⟨_, rule, _, _, _, _, reported⟩ := verdict_eq_error_iff.mp crashed
  cases reported

end

/-- Reading the settings crashes exactly on a number of days that is given, is reached and is too
large for a span of time. Otherwise the settings are accepted and as intended, or a key is named
whose text is given and unacceptable, whatever the texts under all keys are. -/
theorem crashes_exactly_on_unheld (lookup : Lookup) :
    (∀ days, ofLookup lookup = .error (.windowTooLong days) ↔ Unheld lookup days) ∧
    ((∀ days, ¬ Unheld lookup days) →
      ofLookup lookup = .ok (intended lookup) ∨
        ∃ rule ∈ rules, ∃ text, lookup rule.key = some text ∧ Text.isBlank text = false ∧
          rule.kind.accepts (Text.trim text) = false ∧
          ofLookup lookup = .error (.invalid rule.key (rule.kind.shown text))) := by
  constructor
  · intro days
    refine ⟨fun crashed => ?_, ofLookup_of_unheld⟩
    by_cases some : ∃ other, Unheld lookup other
    · obtain ⟨other, unheld⟩ := some
      rw [ofLookup_of_unheld unheld, Except.error.injEq, ConfigError.windowTooLong.injEq] at crashed
      exact crashed ▸ unheld
    · rw [ofLookup_of_held (not_exists.mp some)] at crashed
      exact absurd crashed (verdict_ne_crash days)
  · intro held
    rw [ofLookup_of_held held]
    cases judged : verdict lookup rules (intended lookup) with
    | ok config =>
      obtain ⟨-, rfl⟩ := verdict_eq_ok_iff.mp judged
      exact .inl rfl
    | error error =>
      obtain ⟨before, rule, after, split, -, broken, rfl⟩ := verdict_eq_error_iff.mp judged
      obtain ⟨text, written, visible, unaccepted, reported⟩ := report_of_broken broken
      have member : rule ∈ rules := by simp [split]
      exact .inr ⟨rule, member, text, written, visible, unaccepted, by rw [reported]⟩

/-- Settings of nothing but a number of days. -/
def daysOnly (days key : String) : Option String :=
  lookUp? key [("SUPPLYREG_RETENTION_DAYS", days)]

/-- The longest window that a span of time holds is accepted. With one day more neither settings
come out nor is a key named. -/
theorem one_day_more_crashes :
    ofLookup (daysOnly "106751991167") =
        .ok { default with retentionWindow := 106751991167 * 86400 } ∧
      ofLookup (daysOnly "106751991168") = .error (.windowTooLong 106751991168) ∧
      ¬ ((∃ config, ofLookup (daysOnly "106751991168") = .ok config) ∨
        ∃ key value, ofLookup (daysOnly "106751991168") = .error (.invalid key value)) := by
  have crashed : ofLookup (daysOnly "106751991168") = .error (.windowTooLong 106751991168) := rfl
  refine ⟨rfl, crashed, ?_⟩
  rw [crashed]
  simp

end Outbox.Config
