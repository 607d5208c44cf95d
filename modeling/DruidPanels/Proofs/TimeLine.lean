import DruidPanels.Time.Instant

/-! # Instants on the line of time

Instants are ordered by their seconds first. Outside leap seconds an instant is one number
of nanoseconds from 1970, and the order is that of these numbers. The instant of a number of
milliseconds is the one that lies exactly there (`ofMillis?_eq_some_iff`). -/

namespace DruidPanels.Instant

theorem eq_of_parts {s t : Instant} (hseconds : s.seconds = t.seconds)
    (hnanos : s.nanos = t.nanos) : s = t :=
  Option.some.inj
    ((of?_eq_some_iff.mpr ⟨hseconds, hnanos⟩).symm.trans (of?_eq_some_iff.mpr ⟨rfl, rfl⟩))

theorem le_refl (t : Instant) : t ≤ t := .inr ⟨rfl, Nat.le_refl _⟩

theorem le_of_not_lt {s t : Instant} (h : ¬ s < t) : t ≤ s := by
  change ¬ (s.seconds < t.seconds ∨ s.seconds = t.seconds ∧ s.nanos < t.nanos) at h
  change t.seconds < s.seconds ∨ t.seconds = s.seconds ∧ t.nanos ≤ s.nanos
  omega

theorem not_lt_of_le {s t : Instant} (h : s ≤ t) : ¬ t < s := by
  change s.seconds < t.seconds ∨ s.seconds = t.seconds ∧ s.nanos ≤ t.nanos at h
  change ¬ (t.seconds < s.seconds ∨ t.seconds = s.seconds ∧ t.nanos < s.nanos)
  omega

theorem le_of_lt {s t : Instant} (h : s < t) : s ≤ t := by
  rcases h with hlt | ⟨heq, hnanos⟩
  · exact .inl hlt
  · exact .inr ⟨heq, Nat.le_of_lt hnanos⟩

theorem le_trans {r s t : Instant} (hrs : r ≤ s) (hst : s ≤ t) : r ≤ t := by
  change r.seconds < s.seconds ∨ r.seconds = s.seconds ∧ r.nanos ≤ s.nanos at hrs
  change s.seconds < t.seconds ∨ s.seconds = t.seconds ∧ s.nanos ≤ t.nanos at hst
  change r.seconds < t.seconds ∨ r.seconds = t.seconds ∧ r.nanos ≤ t.nanos
  omega

theorem seconds_le_of_le {s t : Instant} (h : s ≤ t) : s.seconds ≤ t.seconds := by
  rcases h with hlt | ⟨heq, _⟩
  · exact Int.le_of_lt hlt
  · exact Int.le_of_eq heq

/-- The second of the day is not negative, and below the length of a day. -/
theorem secondOfDay_bounds (t : Instant) : 0 ≤ t.secondOfDay ∧ t.secondOfDay < secondsPerDay :=
  ⟨Int.emod_nonneg _ (by decide), Int.emod_lt_of_pos _ (by decide)⟩

/-- Nanoseconds from 1970. A leap second counts on into the second after it. -/
def nanosFrom1970 (t : Instant) : Int := t.seconds * nanosPerSecond + t.nanos

theorem nanos_lt_of_not_leap {t : Instant} (h : t.isLeap = false) : t.nanos < 1000000000 :=
  Nat.lt_of_not_le (of_decide_eq_false h)

theorem le_iff_nanosFrom1970_le {s t : Instant} (hs : s.isLeap = false) (ht : t.isLeap = false) :
    s ≤ t ↔ s.nanosFrom1970 ≤ t.nanosFrom1970 := by
  have hsNanos := nanos_lt_of_not_leap hs
  have htNanos := nanos_lt_of_not_leap ht
  change s.seconds < t.seconds ∨ s.seconds = t.seconds ∧ s.nanos ≤ t.nanos ↔ _
  simp only [nanosFrom1970, nanosPerSecond]
  omega

theorem millis_eq (t : Instant) : t.millis = t.nanosFrom1970 / 1000000 := by
  simp only [millis, nanosFrom1970, nanosPerSecond]
  omega

/-- Outside leap seconds milliseconds are counted in order. -/
theorem millis_le_millis {s t : Instant} (hs : s.isLeap = false) (ht : t.isLeap = false)
    (h : s ≤ t) : s.millis ≤ t.millis := by
  have htotal := (le_iff_nanosFrom1970_le hs ht).mp h
  rw [millis_eq, millis_eq]
  omega

/-- The instant lies just so many milliseconds from 1970. -/
structure AtMillis (ms : Int) (t : Instant) : Prop where
  nanosFrom1970_eq : t.nanosFrom1970 = ms * 1000000
  not_leap : t.isLeap = false

theorem ofMillis?_eq_some_iff {ms : Int} {t : Instant} :
    ofMillis? ms = some t ↔ t.AtMillis ms := by
  rw [ofMillis?, of?_eq_some_iff]
  constructor
  · rintro ⟨hseconds, hnanos⟩
    refine ⟨?_, ?_⟩
    · rw [nanosFrom1970, hseconds, hnanos, nanosPerSecond]
      omega
    · refine decide_eq_false (Nat.not_le_of_lt ?_)
      rw [hnanos, nanosPerSecond]
      omega
  · rintro ⟨htotal, hleap⟩
    have hnanos := nanos_lt_of_not_leap hleap
    rw [nanosFrom1970, nanosPerSecond] at htotal
    omega

theorem AtMillis.millis_eq {ms : Int} {t : Instant} (h : t.AtMillis ms) : t.millis = ms := by
  rw [t.millis_eq, h.nanosFrom1970_eq]
  omega

end DruidPanels.Instant
