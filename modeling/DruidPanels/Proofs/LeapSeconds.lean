import DruidPanels.Proofs.Directions

/-! # Leap seconds

A leap second follows the last second of a minute, and no other (`Regular`); the two parts
of an instant do not say so by themselves. Every notation gives such instants alone, since
offsets are whole minutes, and every step of date math keeps them. So on a clock that shows
no other leap second, no edge of a range lies in one (`TimeRange.regular_of_resolve`). -/

namespace DruidPanels

namespace Instant

/-- If the instant lies in a leap second, then in one that ends a minute. -/
def Regular (t : Instant) : Prop := t.isLeap = true → t.seconds % 60 = 59

theorem regular_of_not_leap {t : Instant} (h : t.isLeap = false) : t.Regular :=
  fun hleap => nomatch hleap.symm.trans h

theorem regular_of_of? {seconds : Int} {nanos : Nat} {t : Instant} (h : of? seconds nanos = some t)
    (hregular : nanosPerSecond ≤ nanos → seconds % 60 = 59) : t.Regular := by
  obtain ⟨rfl, rfl⟩ := of?_eq_some_iff.mp h
  exact fun hleap => hregular (of_decide_eq_true hleap)

theorem regular_of_ofMillis? {ms : Int} {t : Instant} (h : ofMillis? ms = some t) : t.Regular :=
  regular_of_not_leap (ofMillis?_eq_some_iff.mp h).not_leap

/-! ## Read instants -/

/-- An offset is a whole number of minutes. -/
theorem emod_of_offset? {cs : List Char} {offset : Int} (h : offset? cs = some offset) :
    offset % 60 = 0 := by
  unfold offset? at h
  split at h
  · cases h
  · split at h
    · split at h
      · cases h
        rfl
      · cases h
    · simp only [Option.bind_eq_bind, Option.bind_eq_some_iff] at h
      obtain ⟨sign, _, ⟨hours, _⟩, _, _, _, ⟨minutes, _⟩, _, h⟩ := h
      dsimp only at h
      split at h
      · cases h
        push_cast
        rw [show sign * ((hours : Int) * 3600 + minutes * 60) =
          sign * (hours * 60 + minutes) * 60 by ring]
        exact Int.mul_emod_left _ _
      · cases h

/-- The leap second of a time of day comes after second 59. -/
theorem emod_of_timeOfDay? {hour minute second nanos : Nat} {time : Nat × Nat}
    (h : timeOfDay? hour minute second nanos = some time) (hleap : nanosPerSecond ≤ time.2) :
    time.1 % 60 = 59 := by
  unfold timeOfDay? at h
  split at h
  · next hvalid =>
    dsimp only at h
    split at h
    · cases h
      omega
    · cases h
      omega
  · cases h

theorem regular_of_ofLocal? {date : Date} {time : Nat × Nat} {offset : Int} {t : Instant}
    (h : ofLocal? date time offset = some t)
    (htime : nanosPerSecond ≤ time.2 → time.1 % 60 = 59) (hoffset : offset % 60 = 0) :
    t.Regular := by
  refine regular_of_of? h fun hleap => ?_
  have := htime hleap
  simp only [secondsPerDay]
  omega

theorem regular_of_ofRfc3339? {cs : List Char} {t : Instant} (h : ofRfc3339? cs = some t) :
    t.Regular := by
  unfold ofRfc3339? at h
  obtain ⟨⟨year, cs⟩, _, h⟩ := Option.bind_eq_some_iff.mp h
  obtain ⟨cs, _, h⟩ := Option.bind_eq_some_iff.mp h
  obtain ⟨⟨month, cs⟩, _, h⟩ := Option.bind_eq_some_iff.mp h
  obtain ⟨cs, _, h⟩ := Option.bind_eq_some_iff.mp h
  obtain ⟨⟨day, cs⟩, _, h⟩ := Option.bind_eq_some_iff.mp h
  obtain ⟨⟨divider, cs⟩, _, h⟩ := Option.bind_eq_some_iff.mp h
  dsimp only at h
  split at h
  · cases h
  obtain ⟨⟨hour, cs⟩, _, h⟩ := Option.bind_eq_some_iff.mp h
  obtain ⟨cs, _, h⟩ := Option.bind_eq_some_iff.mp h
  obtain ⟨⟨minute, cs⟩, _, h⟩ := Option.bind_eq_some_iff.mp h
  obtain ⟨cs, _, h⟩ := Option.bind_eq_some_iff.mp h
  obtain ⟨⟨second, cs⟩, _, h⟩ := Option.bind_eq_some_iff.mp h
  obtain ⟨⟨nanos, cs⟩, _, h⟩ := Option.bind_eq_some_iff.mp h
  obtain ⟨offset, hoffset, h⟩ := Option.bind_eq_some_iff.mp h
  obtain ⟨date, _, h⟩ := Option.bind_eq_some_iff.mp h
  obtain ⟨time, htime, h⟩ := Option.bind_eq_some_iff.mp h
  exact regular_of_ofLocal? h (emod_of_timeOfDay? htime) (emod_of_offset? hoffset)

theorem emod_of_looseTime? {cs : List Char} {time : Nat × Nat} (h : looseTime? cs = some time)
    (hleap : nanosPerSecond ≤ time.2) : time.1 % 60 = 59 := by
  unfold looseTime? at h
  obtain ⟨⟨hour, cs⟩, _, h⟩ := Option.bind_eq_some_iff.mp h
  obtain ⟨cs, _, h⟩ := Option.bind_eq_some_iff.mp h
  obtain ⟨⟨minute, cs⟩, _, h⟩ := Option.bind_eq_some_iff.mp h
  obtain ⟨cs, _, h⟩ := Option.bind_eq_some_iff.mp h
  obtain ⟨⟨second, cs⟩, _, h⟩ := Option.bind_eq_some_iff.mp h
  dsimp only at h
  split at h
  · exact emod_of_timeOfDay? h hleap
  · cases h

theorem regular_of_ofDate? {date : Date} {t : Instant} (h : ofDate? date = some t) : t.Regular :=
  regular_of_of? h fun hleap => absurd hleap (by decide)

/-- Whatever the notation, what is read is regular. -/
theorem regular_of_parse? {text : String} {t : Instant} (h : parse? text = some t) :
    t.Regular := by
  unfold parse? at h
  dsimp only at h
  split at h
  · exact regular_of_ofMillis? h
  rcases Option.or_eq_some_iff.mp h with h | ⟨_, h⟩
  · exact regular_of_ofRfc3339? h
  rcases Option.or_eq_some_iff.mp h with h | ⟨_, h⟩
  · unfold ofDateTime? at h
    obtain ⟨⟨date, cs⟩, _, h⟩ := Option.bind_eq_some_iff.mp h
    obtain ⟨time, htime, h⟩ := Option.bind_eq_some_iff.mp h
    exact regular_of_ofLocal? h (emod_of_looseTime? htime) rfl
  · unfold ofDateText? at h
    obtain ⟨⟨date, cs⟩, _, h⟩ := Option.bind_eq_some_iff.mp h
    dsimp only at h
    split at h
    · exact regular_of_ofDate? h
    · cases h

/-! ## Date math -/

/-- A shift by seconds leaves every leap second, unless it is by none. -/
theorem Regular.addSeconds? {t s : Instant} (ht : t.Regular) {count : Int}
    (h : t.addSeconds? count = some s) : s.Regular := by
  unfold Instant.addSeconds? at h
  split at h
  · cases h
    exact ht
  split at h
  · have := t.nanos_lt
    exact regular_of_of? h fun hleap => by simp only [nanosPerSecond] at *; omega
  · next hleap =>
    exact regular_of_of? h fun hnanos => absurd (decide_eq_true hnanos) hleap

/-- A shift by months keeps the second of the day. -/
theorem Regular.addMonths? {t s : Instant} (ht : t.Regular) {count : Int}
    (h : t.addMonths? count = some s) : s.Regular := by
  refine regular_of_of? h fun hleap => ?_
  have := ht (decide_eq_true hleap)
  simp only [secondOfDay, secondsPerDay]
  omega

end Instant

namespace Step

theorem regular_of_shiftBy {amount : Int} {unit : TimeUnit} {t s : Instant} (ht : t.Regular)
    (h : shiftBy amount unit t = .ok s) : s.Regular := by
  unfold shiftBy at h
  split at h
  · split at h
    · cases h
    · exact ht.addSeconds? (orUnrepresentable_eq_ok_iff.mp h)
  · exact ht.addMonths? (orUnrepresentable_eq_ok_iff.mp h)

theorem regular_of_run {rounding : Rounding} {step : Step} {t s : Instant} (ht : t.Regular)
    (h : run rounding t step = .ok s) : s.Regular := by
  cases step with
  | shift amount unit => exact regular_of_shiftBy ht h
  | round unit => exact Instant.regular_of_not_leap (not_leap_of_roundTo h)

theorem regular_of_foldlM {rounding : Rounding} {steps : List Step} {t s : Instant}
    (ht : t.Regular) (h : steps.foldlM (run rounding) t = .ok s) : s.Regular := by
  induction steps generalizing t with
  | nil =>
    cases h
    exact ht
  | cons step rest ih =>
    rw [List.foldlM_cons] at h
    obtain ⟨next, hstep, hrest⟩ := Itemwise.bind_eq_ok_iff.mp h
    exact ih (regular_of_run ht hstep) hrest

end Step

/-! ## Expressions and ranges -/

namespace TimeExpression

theorem regular_of_anchor? {now t : Instant} {cs steps : List Char} (hnow : now.Regular)
    (h : anchor? now cs = some (t, steps)) : t.Regular := by
  unfold anchor? at h
  split at h
  · cases h
    exact hnow
  split at h
  · obtain ⟨t, hparse, ht⟩ := Option.map_eq_some_iff.mp h
    cases ht
    exact Instant.regular_of_parse? hparse
  · obtain ⟨t, hparse, ht⟩ := Option.map_eq_some_iff.mp h
    cases ht
    exact Instant.regular_of_parse? hparse

theorem regular_of_resolve {now t : Instant} {rounding : Rounding} {expression : String}
    (hnow : now.Regular) (h : resolve now rounding expression = .ok t) : t.Regular := by
  rw [resolve_eq] at h
  split at h
  · next anchor steps hanchor =>
    obtain ⟨_, hfold⟩ := Step.runText_eq_ok_iff.mp (mapError_eq_ok_iff.mp h)
    exact Step.regular_of_foldlM (regular_of_anchor? hnow hanchor) hfold
  · cases h

end TimeExpression

theorem TimeRange.regular_of_resolve {now : Instant} {start stop : String} {range : TimeRange}
    (hnow : now.Regular) (h : TimeRange.resolve now start stop = .ok range) :
    range.start.Regular ∧ range.stop.Regular := by
  obtain ⟨first, hfirst, h⟩ := Itemwise.bind_eq_ok_iff.mp h
  obtain ⟨last, hlast, h⟩ := Itemwise.bind_eq_ok_iff.mp h
  unfold TimeRange.of at h
  split at h
  · cases h
    exact ⟨TimeExpression.regular_of_resolve hnow hfirst,
      TimeExpression.regular_of_resolve hnow hlast⟩
  · cases h

end DruidPanels
