import Outbox.Proofs.Calendar

/-!
# How far the calendar reaches

A span of time leads to a moment as long as it stays within the calendar. Forwards it is enough that
the span is no longer than the whole seconds that are left. Backwards in whole seconds it is known
exactly: a leap second is left for the second behind it.
-/

namespace Outbox.Calendar.Timestamp

/-- A moment is made of seconds and nanoseconds exactly if these are those of a moment. -/
theorem ofParts?_isSome_iff (seconds : Int) (nanos : Nat) :
    (∃ moment, ofParts? seconds nanos = some moment) ↔ IsMoment seconds nanos := by
  constructor
  · rintro ⟨moment, made⟩
    obtain ⟨rfl, rfl⟩ := ofParts?_eq_some made
    exact moment.isMoment
  · intro isMoment
    exact ⟨⟨seconds, nanos, isMoment⟩, dif_pos isMoment⟩

/-- A span that is no longer than the whole seconds left in the calendar leads to a moment, from a
leap second as from any other one. -/
theorem add?_of_reach {moment : Timestamp} {span : Int} (forwards : 0 ≤ span)
    (reach : span ≤ (lastSecond - moment.seconds) * nanosPerSecond) :
    ∃ next, moment.add? span = some next := by
  obtain ⟨first, _, below, minute⟩ := moment.isMoment
  rw [add?, Int.tdiv_eq_ediv_of_nonneg forwards, Int.tmod_eq_emod_of_nonneg forwards]
  cases leap : moment.isLeap with
  | true =>
    rw [if_pos rfl]
    rw [isLeap, decide_eq_true_eq] at leap
    split
    · rw [ofParts?_isSome_iff, IsMoment]
      simp only [nanosPerSecond, firstSecond, lastSecond] at *
      omega
    · next stays =>
      rw [if_neg (by simp only [nanosPerSecond]; omega), ofParts?_isSome_iff, IsMoment]
      have last := minute leap
      simp only [nanosPerSecond, firstSecond, lastSecond] at *
      omega
  | false =>
    rw [if_neg Bool.false_ne_true]
    rw [isLeap_eq_false] at leap
    rw [ofParts?_isSome_iff, IsMoment]
    simp only [nanosPerSecond, firstSecond, lastSecond] at *
    omega

/-- Outside of leap seconds a span that leads beyond the last second leads nowhere. -/
theorem add?_beyond {moment : Timestamp} {span : Int} (plain : moment.isLeap = false)
    (beyond : (lastSecond + 1 - moment.seconds) * nanosPerSecond ≤ moment.nanos + span) :
    moment.add? span = none := by
  cases added : moment.add? span with
  | none => rfl
  | some next =>
    obtain ⟨nextPlain, exact⟩ := span_of_add? plain added
    obtain ⟨_, last, _⟩ := next.isMoment
    rw [isLeap_eq_false] at nextPlain
    simp only [nanosPerSecond] at *
    omega

/-- Some whole seconds back lies a moment exactly if the calendar has begun by then. From within a
leap second the first second back leads to its beginning. -/
theorem add?_back_iff (moment : Timestamp) {seconds : Nat} (passed : 0 < seconds) :
    (∃ former, moment.add? (-(seconds * nanosPerSecond)) = some former) ↔
      firstSecond + seconds ≤ moment.seconds + if moment.isLeap then 1 else 0 := by
  have whole : (-((seconds : Int) * (nanosPerSecond : Int))).tdiv nanosPerSecond = -seconds := by
    rw [Int.neg_tdiv, Int.mul_tdiv_cancel _ (by decide)]
  have rest : (-((seconds : Int) * (nanosPerSecond : Int))).tmod nanosPerSecond = 0 := by
    rw [Int.neg_tmod, Int.mul_tmod_left, Int.neg_zero]
  obtain ⟨_, last, below, _⟩ := moment.isMoment
  rw [add?, whole, rest]
  cases leap : moment.isLeap with
  | true =>
    rw [isLeap, decide_eq_true_eq] at leap
    rw [if_pos rfl, if_neg (by omega), if_pos (by omega), ofParts?_isSome_iff, IsMoment, if_pos rfl]
    simp only [nanosPerSecond, firstSecond, lastSecond] at *
    omega
  | false =>
    rw [isLeap_eq_false] at leap
    rw [if_neg Bool.false_ne_true, ofParts?_isSome_iff, IsMoment, if_neg Bool.false_ne_true]
    simp only [nanosPerSecond, firstSecond, lastSecond] at *
    omega

end Outbox.Calendar.Timestamp
