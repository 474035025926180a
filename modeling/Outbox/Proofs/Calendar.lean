import Outbox.Calendar.Timestamp

/-!
# Moments and spans of time

Moments are ordered by their seconds and then by their nanoseconds. A span of time that is not below
zero never leads back, also out of a leap second and within one. Outside of leap seconds a span is
the number of nanoseconds between the moments that it connects.
-/

namespace Outbox.Calendar.Timestamp

/-! ## Order -/

/-- Moments are compared by their seconds first and by their nanoseconds then. -/
theorem before_iff (left right : Timestamp) :
    left.before right = true ↔
      left.seconds < right.seconds ∨ left.seconds = right.seconds ∧ left.nanos < right.nanos := by
  simp [before]

/-- One moment is up to another if it comes before it or is the same moment. -/
theorem upTo_iff (left right : Timestamp) :
    left.upTo right = true ↔
      left.seconds < right.seconds ∨ left.seconds = right.seconds ∧ left.nanos ≤ right.nanos := by
  have reverse := before_iff right left
  rw [upTo, Bool.not_eq_true', Bool.eq_false_iff, ne_eq, reverse]
  omega

/-- Every moment is up to itself. -/
theorem upTo_refl (moment : Timestamp) : moment.upTo moment = true := by
  rw [upTo_iff]
  omega

/-- What is up to a moment that is up to a third one is up to the third one. -/
theorem upTo_trans {first second third : Timestamp} (earlier : first.upTo second = true)
    (later : second.upTo third = true) : first.upTo third = true := by
  rw [upTo_iff] at *
  omega

/-- What comes before a moment comes before every later one. -/
theorem before_of_upTo {first second third : Timestamp} (earlier : first.before second = true)
    (later : second.upTo third = true) : first.before third = true := by
  rw [before_iff] at *
  rw [upTo_iff] at later
  omega

/-- A moment before another one is not reached from that one on. -/
theorem upTo_eq_false (left right : Timestamp) :
    left.upTo right = false ↔ right.before left = true := by
  rw [upTo, Bool.not_eq_false']

/-- A moment lies in a leap second exactly if its nanoseconds fill more than a second. -/
theorem isLeap_eq_false (moment : Timestamp) :
    moment.isLeap = false ↔ moment.nanos < 1000000000 := by
  rw [isLeap, decide_eq_false_iff_not, Nat.not_le]
  rfl

/-! ## Spans -/

/-- A moment that is made of seconds and nanoseconds has just these. -/
theorem ofParts?_eq_some {seconds : Int} {nanos : Nat} {moment : Timestamp}
    (made : ofParts? seconds nanos = some moment) :
    moment.seconds = seconds ∧ moment.nanos = nanos := by
  rw [ofParts?] at made
  split at made
  · cases made
    exact ⟨rfl, rfl⟩
  · cases made

/-- A moment is made of its parts. -/
theorem ofParts?_self (moment : Timestamp) :
    ofParts? moment.seconds moment.nanos = some moment :=
  dif_pos moment.isMoment

/-- After no time at all it is the same moment. This holds within leap seconds as well, from which
spans are counted in another way. -/
theorem add?_zero (moment : Timestamp) : moment.add? 0 = some moment := by
  rw [add?, Int.zero_tdiv, Int.zero_tmod]
  cases leap : moment.isLeap with
  | true =>
    simp only [if_true, Int.add_zero, Int.toNat_natCast, Int.lt_irrefl, false_and, or_false,
      if_false]
    exact ofParts?_self moment
  | false =>
    rw [isLeap_eq_false] at leap
    have seconds : moment.seconds + 0 + ((moment.nanos : Int) + 0) / (nanosPerSecond : Int) =
        moment.seconds := by
      simp only [nanosPerSecond]
      omega
    have nanos : (((moment.nanos : Int) + 0) % (nanosPerSecond : Int)).toNat = moment.nanos := by
      simp only [nanosPerSecond]
      omega
    rw [if_neg Bool.false_ne_true]
    dsimp only
    rw [seconds, nanos]
    exact ofParts?_self moment

/-- A span that is not below zero never leads back. From within a leap second it may stay there, so
the two ways of counting are looked at apart. -/
theorem upTo_of_add? {moment next : Timestamp} {span : Int} (forwards : 0 ≤ span)
    (added : moment.add? span = some next) : moment.upTo next = true := by
  rw [add?, Int.tdiv_eq_ediv_of_nonneg forwards, Int.tmod_eq_emod_of_nonneg forwards] at added
  obtain ⟨_, _, below, _⟩ := moment.isMoment
  rw [upTo_iff]
  cases leap : moment.isLeap with
  | true =>
    rw [if_pos leap] at added
    split at added
    · next leaves =>
      obtain ⟨seconds, nanos⟩ := ofParts?_eq_some added
      simp only [nanosPerSecond] at *
      omega
    · next stays =>
      split at added
      · next backwards =>
        simp only [nanosPerSecond] at backwards
        omega
      · obtain ⟨seconds, nanos⟩ := ofParts?_eq_some added
        simp only [nanosPerSecond] at *
        omega
  | false =>
    rw [if_neg (by simp [leap])] at added
    obtain ⟨seconds, nanos⟩ := ofParts?_eq_some added
    simp only [nanosPerSecond] at *
    omega

/-- Outside of a leap second a span is the number of nanoseconds that it leads on, and it does not
lead into a leap second. -/
theorem span_of_add? {moment next : Timestamp} {span : Int} (plain : moment.isLeap = false)
    (added : moment.add? span = some next) :
    next.isLeap = false ∧
      (next.seconds - moment.seconds) * nanosPerSecond + next.nanos - moment.nanos = span := by
  have whole := Int.mul_tdiv_add_tmod span nanosPerSecond
  rw [add?, if_neg (by simp [plain])] at added
  obtain ⟨seconds, nanos⟩ := ofParts?_eq_some added
  rw [isLeap_eq_false]
  simp only [nanosPerSecond] at *
  omega

/-- Outside of leap seconds the same span leads from the later one of two moments to the later
one. -/
theorem upTo_of_both_add? {earlier later fromEarlier fromLater : Timestamp} {span : Int}
    (earlierPlain : earlier.isLeap = false) (laterPlain : later.isLeap = false)
    (inOrder : earlier.upTo later = true) (added : earlier.add? span = some fromEarlier)
    (laterAdded : later.add? span = some fromLater) : fromEarlier.upTo fromLater = true := by
  obtain ⟨plain, exact⟩ := span_of_add? earlierPlain added
  obtain ⟨plain', exact'⟩ := span_of_add? laterPlain laterAdded
  rw [upTo_iff] at *
  rw [isLeap_eq_false] at *
  simp only [nanosPerSecond] at *
  omega

/-- Outside of leap seconds the nanoseconds between two moments are counted straight. -/
theorem nanosSince_of_plain {later earlier : Timestamp} (laterPlain : later.isLeap = false)
    (earlierPlain : earlier.isLeap = false) :
    later.nanosSince earlier =
      (later.seconds - earlier.seconds) * nanosPerSecond + later.nanos - earlier.nanos := by
  simp [nanosSince, laterPlain, earlierPlain]

/-- Outside of leap seconds, at least as much time has passed since the earlier one of two moments
as since the later one. -/
theorem nanosSince_le {now earlier later : Timestamp} (plain : now.isLeap = false)
    (earlierPlain : earlier.isLeap = false) (laterPlain : later.isLeap = false)
    (inOrder : earlier.upTo later = true) : now.nanosSince later ≤ now.nanosSince earlier := by
  rw [nanosSince_of_plain plain earlierPlain, nanosSince_of_plain plain laterPlain]
  rw [upTo_iff] at inOrder
  rw [isLeap_eq_false] at earlierPlain laterPlain
  simp only [nanosPerSecond]
  omega

/-- Between two moments outside of leap seconds lie at least the nanoseconds of a span, when the
span leads from the first one up to the second one. -/
theorem span_le_nanosSince {earlier later next : Timestamp} {span : Int}
    (earlierPlain : earlier.isLeap = false) (laterPlain : later.isLeap = false)
    (added : earlier.add? span = some next) (reached : next.upTo later = true) :
    span ≤ later.nanosSince earlier := by
  obtain ⟨nextPlain, exact⟩ := span_of_add? earlierPlain added
  rw [nanosSince_of_plain laterPlain earlierPlain]
  rw [upTo_iff] at reached
  rw [isLeap_eq_false] at nextPlain laterPlain
  simp only [nanosPerSecond] at *
  omega

end Outbox.Calendar.Timestamp
