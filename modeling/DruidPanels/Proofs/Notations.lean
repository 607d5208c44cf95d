import DruidPanels.Proofs.TrimmedTexts
import DruidPanels.Proofs.WholeSeconds
import DruidPanels.Proofs.WrittenInstants

/-! # Notations of one instant

An instant of whole milliseconds can be said in several notations (`Instant.Says`): as its
number of milliseconds, in RFC 3339 at any offset from UTC, and as a date with a time of day
or a date alone if there is nothing else to say. The readers are tried in a fixed order, and
none of them takes a text that is meant for a later one. So all notations of an instant, and
the number itself, stand for the same time (`Timestamp.notations_agree`). -/

namespace DruidPanels

namespace Text

/-! ## Digits are not blank -/

theorem not_isBlank_of_isDigit {c : Char} (h : c.isDigit = true) : isBlank c = false := by
  refine not_isBlank_of_isNumeral ?_
  rw [isNumeral, h]
  rfl

namespace DigitsOf

variable {width n : Nat} {ds : List Char}

theorem not_isBlank (h : DigitsOf width n ds) : ∀ c ∈ ds, isBlank c = false :=
  fun c hc => not_isBlank_of_isDigit (h.isDigit c hc)

theorem trimmed (h : DigitsOf (width + 1) n ds) : Trimmed ds :=
  trimmed_of_not_isBlank h.ne_nil h.not_isBlank

/-- No blanks stand before a number of fixed width. -/
theorem dropWhile_isBlank_append (h : DigitsOf (width + 1) n ds) (rest : List Char) :
    (ds ++ rest).dropWhile isBlank = ds ++ rest := by
  have hhead : ∀ c ∈ (ds ++ rest).head?, isBlank c = false := by
    rw [List.head?_append_of_ne_nil _ h.ne_nil]
    exact h.trimmed.head
  exact dropWhile_append_of_head (List.forall_mem_nil _) hhead

end DigitsOf

end Text

namespace Instant

/-! ## Notations -/

/-- A date in four, two and two digits. -/
inductive WritesDate : Date → List Char → Prop
  | intro {year month day : Nat} {y m d : List Char} (hyear : Text.DigitsOf 4 year y)
      (hmonth : Text.DigitsOf 2 month m) (hday : Text.DigitsOf 2 day d) :
      WritesDate ⟨year, month, day⟩ (y ++ '-' :: (m ++ '-' :: d))

/-- A second of the day as an hour, a minute and a second in two digits each. -/
inductive WritesClock : Nat → List Char → Prop
  | intro {hour minute second : Nat} {h m s : List Char} (hhour : Text.DigitsOf 2 hour h)
      (hminute : Text.DigitsOf 2 minute m) (hsecond : Text.DigitsOf 2 second s)
      (hhour_lt : hour < 24) (hminute_lt : minute < 60) (hsecond_lt : second < 60) :
      WritesClock (hour * 3600 + minute * 60 + second) (h ++ ':' :: (m ++ ':' :: s))

/-- Seconds east of UTC: a `Z` in either case, or less than a day in hours and minutes. -/
inductive WritesOffset : Int → List Char → Prop
  | utc {mark : Char} (hmark : mark = 'Z' ∨ mark = 'z') : WritesOffset 0 [mark]
  | east {hours minutes : Nat} {h m : List Char} (hhours : Text.DigitsOf 2 hours h)
      (hminutes : Text.DigitsOf 2 minutes m) (hhours_lt : hours < 24)
      (hminutes_lt : minutes < 60) :
      WritesOffset (hours * 3600 + minutes * 60 : Nat) ('+' :: (h ++ ':' :: m))
  | west {hours minutes : Nat} {h m : List Char} (hhours : Text.DigitsOf 2 hours h)
      (hminutes : Text.DigitsOf 2 minutes m) (hhours_lt : hours < 24)
      (hminutes_lt : minutes < 60) :
      WritesOffset (-(hours * 3600 + minutes * 60 : Nat)) ('-' :: (h ++ ':' :: m))

/-- So many seconds east of UTC, the second of the instant is this one of this day. -/
structure ReadsAt (t : Instant) (east : Int) (date : Date) (second : Nat) : Prop where
  valid : date.valid = true
  seconds_eq : date.toEpochDay * secondsPerDay + second = t.seconds + east

/-- The text says the instant. -/
inductive Says (t : Instant) : List Char → Prop
  | millis {ds : List Char} (hne : ds ≠ []) (hdigits : ∀ c ∈ ds, c.isDigit = true)
      (hvalue : Text.readDigits ds = t.millis) : Says t ds
  | rfc3339 {east : Int} {date : Date} {second thousandths : Nat}
      {day clock fraction offset : List Char} {divider : Char}
      (hlocal : t.ReadsAt east date second) (hnanos : t.nanos = thousandths * 1000000)
      (hday : WritesDate date day) (hdivider : divider = 'T' ∨ divider = 't')
      (hclock : WritesClock second clock) (hfraction : WritesFraction thousandths fraction)
      (hoffset : WritesOffset east offset) :
      Says t (day ++ divider :: (clock ++ (fraction ++ offset)))
  | dateTime {date : Date} {second : Nat} {day clock : List Char}
      (hlocal : t.ReadsAt 0 date second) (hnanos : t.nanos = 0) (hday : WritesDate date day)
      (hclock : WritesClock second clock) : Says t (day ++ ' ' :: clock)
  | date {date : Date} {day : List Char} (hlocal : t.ReadsAt 0 date 0) (hnanos : t.nanos = 0)
      (hday : WritesDate date day) : Says t day

/-! ## Parts of notations -/

theorem WritesDate.trimmed {date : Date} {day : List Char} (h : WritesDate date day) :
    Text.Trimmed day := by
  cases h with
  | intro hyear hmonth hday =>
    simpa using hyear.trimmed.append hday.trimmed ('-' :: (_ ++ ['-']))

theorem WritesDate.hyphen_mem {date : Date} {day : List Char} (h : WritesDate date day) :
    '-' ∈ day := by
  cases h with
  | intro => exact List.mem_append_right _ List.mem_cons_self

theorem WritesDate.of?_eq {date : Date} {day : List Char} (h : WritesDate date day)
    (hvalid : date.valid = true) : Date.of? date.year date.month date.day = some date := by
  cases h with
  | @intro year _ _ _ _ _ hyear hmonth hday =>
    have hlast : (year : Int) ≤ 9999 := Int.ofNat_le.mpr (Nat.le_of_lt_succ hyear.lt)
    exact Date.of?_of_valid hvalid (Int.natCast_nonneg year) hlast

theorem WritesClock.trimmed {second : Nat} {clock : List Char} (h : WritesClock second clock) :
    Text.Trimmed clock := by
  cases h with
  | intro hhour hminute hsecond =>
    simpa using hhour.trimmed.append hsecond.trimmed (':' :: (_ ++ [':']))

theorem WritesOffset.trimmed {east : Int} {offset : List Char} (h : WritesOffset east offset) :
    Text.Trimmed offset := by
  cases h with
  | utc hmark => rcases hmark with rfl | rfl <;> exact Text.trimmed_singleton rfl
  | east hhours hminutes =>
    have hfront : Text.Trimmed ['+'] := Text.trimmed_singleton rfl
    simpa using hfront.append hminutes.trimmed (_ ++ [':'])
  | west hhours hminutes =>
    have hfront : Text.Trimmed ['-'] := Text.trimmed_singleton rfl
    simpa using hfront.append hminutes.trimmed (_ ++ [':'])

/-- An offset does not go on with the fraction before it. -/
theorem WritesOffset.head {east : Int} {offset : List Char} (h : WritesOffset east offset) :
    ∀ c ∈ offset.head?, c.isDigit = false ∧ c ≠ '.' := by
  cases h with
  | utc hmark => rcases hmark with rfl | rfl <;> simp
  | east | west => simp

theorem offset?_hoursMinutes {mark : Char} {sign : Int} (hsign : offsetSign? mark = some sign)
    (hmark : ¬ (mark = 'Z' ∨ mark = 'z')) {hours minutes : Nat} {h m : List Char}
    (hhours : Text.DigitsOf 2 hours h) (hminutes : Text.DigitsOf 2 minutes m)
    (hhours_lt : hours < 24) (hminutes_lt : minutes < 60) :
    offset? (mark :: (h ++ ':' :: m)) = some (sign * (hours * 3600 + minutes * 60 : Nat)) := by
  refine (if_neg hmark).trans ?_
  refine (bind_of_eq_some hsign _).trans ?_
  refine (bind_of_eq_some (hhours.fixedDigits?_append _) _).trans ?_
  refine (bind_of_eq_some (dropChar?_cons ':' _) _).trans ?_
  refine (bind_of_eq_some hminutes.fixedDigits?_self _).trans ?_
  exact if_pos (by simp [hhours_lt, hminutes_lt])

theorem WritesOffset.offset?_eq {east : Int} {offset : List Char} (h : WritesOffset east offset) :
    offset? offset = some east := by
  cases h with
  | utc hmark => rcases hmark with rfl | rfl <;> rfl
  | east hhours hminutes hhours_lt hminutes_lt =>
    have hsign : offsetSign? '+' = some 1 := rfl
    rw [offset?_hoursMinutes hsign (by decide) hhours hminutes hhours_lt hminutes_lt, Int.one_mul]
  | west hhours hminutes hhours_lt hminutes_lt =>
    have hsign : offsetSign? '-' = some (-1) := rfl
    rw [offset?_hoursMinutes hsign (by decide) hhours hminutes hhours_lt hminutes_lt,
      Int.neg_one_mul]

theorem WritesFraction.lt {thousandths : Nat} {fraction : List Char}
    (h : WritesFraction thousandths fraction) : thousandths < 1000 := by
  cases h with
  | whole => decide
  | @point _ ds hne hdigits hvalue =>
    have hbelow : thousandths * 10 ^ ds.length < 1000 * 10 ^ ds.length := by
      rw [← hvalue, Nat.mul_comm 1000]
      exact Nat.mul_lt_mul_of_pos_right (Text.readDigits_lt hdigits) (by decide)
    exact Nat.lt_of_mul_lt_mul_right hbelow

/-! ## Loose readers -/

theorem looseYear?_append {n : Nat} {ds : List Char} (h : Text.DigitsOf 4 n ds)
    (rest : List Char) : looseYear? (ds ++ rest) = some ((n : Int), rest) := by
  have hblank := h.dropWhile_isBlank_append rest
  have hread := h.upToDigits?_append rest
  have hsign : ∀ c ∈ (ds ++ rest).head?, c.isDigit = true := by
    rw [List.head?_append_of_ne_nil _ h.ne_nil]
    exact fun c hc => h.isDigit c (List.mem_of_mem_head? hc)
  unfold looseYear?
  rw [hblank]
  -- the first character is a digit, so no sign
  split
  · next heq =>
    rw [heq] at hsign
    cases hsign '-' rfl
  · next heq =>
    rw [heq] at hsign
    cases hsign '+' rfl
  · rw [hread]
    rfl

theorem looseNumber?_append {n : Nat} {ds : List Char} (h : Text.DigitsOf 2 n ds)
    (rest : List Char) : looseNumber? (ds ++ rest) = some (n, rest) := by
  rw [looseNumber?, h.dropWhile_isBlank_append, h.upToDigits?_append]

theorem WritesDate.looseDate?_append {date : Date} {day : List Char} (h : WritesDate date day)
    (hvalid : date.valid = true) (rest : List Char) :
    looseDate? (day ++ rest) = some (date, rest) := by
  have hdate := h.of?_eq hvalid
  cases h with
  | intro hyear hmonth hday =>
    simp only [List.append_assoc, List.cons_append]
    refine (bind_of_eq_some (looseYear?_append hyear _) _).trans ?_
    refine (bind_of_eq_some (dropChar?_cons '-' _) _).trans ?_
    refine (bind_of_eq_some (looseNumber?_append hmonth _) _).trans ?_
    refine (bind_of_eq_some (dropChar?_cons '-' _) _).trans ?_
    refine (bind_of_eq_some (looseNumber?_append hday _) _).trans ?_
    exact bind_of_eq_some hdate _

theorem timeOfDay?_of_lt {hour minute second nanos : Nat} (hhour : hour < 24)
    (hminute : minute < 60) (hsecond : second < 60) (hnanos : nanos < nanosPerSecond) :
    timeOfDay? hour minute second nanos =
      some (hour * 3600 + minute * 60 + second, nanos) := by
  rw [timeOfDay?, if_pos ⟨hhour, hminute, Nat.le_of_lt hsecond, hnanos⟩]
  simp only [if_neg (Nat.ne_of_lt hsecond)]

/-- One blank may stand before a time of day. -/
theorem WritesClock.looseTime?_eq {second : Nat} {clock : List Char}
    (h : WritesClock second clock) : looseTime? (' ' :: clock) = some (second, 0) := by
  cases h with
  | @intro _ _ _ h m s hhour hminute hsecond hhour_lt hminute_lt hsecond_lt =>
    -- the blank is passed over
    have hfirst : looseNumber? (' ' :: (h ++ ':' :: (m ++ ':' :: s))) =
        some (_, ':' :: (m ++ ':' :: s)) := looseNumber?_append hhour _
    have hlast := looseNumber?_append hsecond []
    rw [List.append_nil] at hlast
    refine (bind_of_eq_some hfirst _).trans ?_
    refine (bind_of_eq_some (dropChar?_cons ':' _) _).trans ?_
    refine (bind_of_eq_some (looseNumber?_append hminute _) _).trans ?_
    refine (bind_of_eq_some (dropChar?_cons ':' _) _).trans ?_
    refine (bind_of_eq_some hlast _).trans ?_
    exact (if_pos rfl).trans (timeOfDay?_of_lt hhour_lt hminute_lt hsecond_lt (by decide))

theorem ReadsAt.ofLocal?_eq {t : Instant} {east : Int} {date : Date} {second : Nat}
    (h : t.ReadsAt east date second) : ofLocal? date (second, t.nanos) east = some t := by
  rw [ofLocal?, of?_eq_some_iff]
  refine ⟨?_, rfl⟩
  have hseconds := h.seconds_eq
  change t.seconds = date.toEpochDay * secondsPerDay + second - east
  omega

/-! ## RFC 3339 -/

/-- A date and a time of day: what is read hangs on what follows them. -/
theorem ofRfc3339?_append {date : Date} {second : Nat} {day clock : List Char} {divider : Char}
    (hday : WritesDate date day) (hvalid : date.valid = true)
    (hdivider : isDivider divider = true) (hclock : WritesClock second clock)
    (rest : List Char) :
    ofRfc3339? (day ++ divider :: (clock ++ rest)) = (do
      let (nanos, cs) ← fraction? rest
      let offset ← offset? cs
      if nanos < nanosPerSecond then ofLocal? date (second, nanos) offset else none) := by
  have hdate := hday.of?_eq hvalid
  cases hday with
  | intro hyear hmonth hday =>
    cases hclock with
    | intro hhour hminute hsecond hhour_lt hminute_lt hsecond_lt =>
      simp only [List.append_assoc, List.cons_append]
      refine (ofRfc3339?_of_digits hyear hmonth hday hdivider hhour hminute hsecond rest).trans ?_
      refine bind_congr fun (nanos, cs) => bind_congr fun offset => ?_
      refine (bind_of_eq_some hdate _).trans ?_
      by_cases hnanos : nanos < nanosPerSecond
      · rw [if_pos hnanos]
        exact bind_of_eq_some (timeOfDay?_of_lt hhour_lt hminute_lt hsecond_lt hnanos) _
      · rw [if_neg hnanos, timeOfDay?, if_neg fun h => hnanos h.2.2.2]
        rfl

/-- A time of day without an offset is not RFC 3339. -/
theorem ofRfc3339?_dateTime {date : Date} {second : Nat} {day clock : List Char}
    (hday : WritesDate date day) (hvalid : date.valid = true) (hclock : WritesClock second clock) :
    ofRfc3339? (day ++ ' ' :: clock) = none := by
  have hblank : isDivider ' ' = true := rfl
  have h := ofRfc3339?_append hday hvalid hblank hclock []
  rwa [List.append_nil] at h

/-- Nor is a date without a time of day. -/
theorem ofRfc3339?_date {date : Date} {day : List Char} (hday : WritesDate date day) :
    ofRfc3339? day = none := by
  cases hday with
  | @intro _ _ _ y m d hyear hmonth hday =>
    refine (bind_of_eq_some (hyear.fixedDigits?_append _) _).trans ?_
    refine (bind_of_eq_some (dropChar?_cons '-' _) _).trans ?_
    refine (bind_of_eq_some (hmonth.fixedDigits?_append _) _).trans ?_
    refine (bind_of_eq_some (dropChar?_cons '-' _) _).trans ?_
    exact bind_of_eq_some hday.fixedDigits?_self _

namespace ReadsAt

variable {t : Instant} {date : Date} {day : List Char}

theorem ofRfc3339?_eq {east : Int} {second thousandths : Nat} {clock fraction offset : List Char}
    {divider : Char} (h : t.ReadsAt east date second) (hnanos : t.nanos = thousandths * 1000000)
    (hday : WritesDate date day) (hdivider : divider = 'T' ∨ divider = 't')
    (hclock : WritesClock second clock) (hfraction : WritesFraction thousandths fraction)
    (hoffset : WritesOffset east offset) :
    ofRfc3339? (day ++ divider :: (clock ++ (fraction ++ offset))) = some t := by
  have hdivides : isDivider divider = true := by rcases hdivider with rfl | rfl <;> rfl
  have hbelow : thousandths * 1000000 < nanosPerSecond :=
    Nat.mul_lt_mul_of_pos_right hfraction.lt (show 0 < 1000000 by decide)
  refine (ofRfc3339?_append hday h.valid hdivides hclock _).trans ?_
  refine (bind_of_eq_some (fraction?_append hfraction hoffset.head) _).trans ?_
  refine (bind_of_eq_some hoffset.offset?_eq _).trans ?_
  rw [if_pos hbelow, ← hnanos]
  exact h.ofLocal?_eq

theorem ofDateTime?_eq {second : Nat} {clock : List Char} (h : t.ReadsAt 0 date second)
    (hnanos : t.nanos = 0) (hday : WritesDate date day) (hclock : WritesClock second clock) :
    ofDateTime? (day ++ ' ' :: clock) = some t := by
  have hlocal := h.ofLocal?_eq
  rw [hnanos] at hlocal
  refine (bind_of_eq_some (hday.looseDate?_append h.valid _) _).trans ?_
  exact (bind_of_eq_some hclock.looseTime?_eq _).trans hlocal

/-- A date alone is no date with a time of day, and is the start of its day. -/
theorem ofDateText?_eq (h : t.ReadsAt 0 date 0) (hnanos : t.nanos = 0)
    (hday : WritesDate date day) : ofDateTime? day = none ∧ ofDateText? day = some t := by
  have hdate := hday.looseDate?_append h.valid []
  rw [List.append_nil] at hdate
  refine ⟨bind_of_eq_some hdate _, (bind_of_eq_some hdate _).trans ?_⟩
  refine of?_eq_some_iff.mpr ⟨?_, hnanos⟩
  have hseconds := h.seconds_eq
  omega

end ReadsAt

/-! ## All notations -/

namespace Says

variable {t : Instant} {text : List Char}

theorem trimmed (h : t.Says text) : Text.Trimmed text := by
  cases h with
  | millis hne hdigits =>
    exact Text.trimmed_of_not_isBlank hne fun c hc => Text.not_isBlank_of_isDigit (hdigits c hc)
  | rfc3339 _ _ hday _ _ _ hoffset =>
    simpa using hday.trimmed.append hoffset.trimmed (_ :: (_ ++ _))
  | dateTime _ _ hday hclock => simpa using hday.trimmed.append hclock.trimmed [' ']
  | date _ _ hday => exact hday.trimmed

/-- A hyphen makes a text more than a number, so the three other readers have their turn. -/
theorem parse?_of_hyphen_mem {cs : List Char} (h : '-' ∈ cs) :
    parse? (String.ofList cs) = (ofRfc3339? cs).or ((ofDateTime? cs).or (ofDateText? cs)) := by
  rw [parse?, String.toList_ofList, Text.natural?_of_hyphen h]

/-- Every notation of an instant of whole milliseconds is read as that instant. -/
theorem parse?_eq (h : t.Says text) (hmillis : t.nanos % 1000000 = 0)
    (hleap : t.isLeap = false) : parse? (String.ofList text) = some t := by
  cases h with
  | millis hne hdigits hvalue =>
    have hat : t.AtMillis (Text.readDigits text) := by
      refine ⟨?_, hleap⟩
      rw [hvalue]
      simp only [nanosFrom1970, nanosPerSecond, Instant.millis]
      omega
    rw [parse?, String.toList_ofList, Text.natural?_of_digits hne hdigits]
    exact ofMillis?_eq_some_iff.mpr hat
  | rfc3339 hlocal hnanos hday hdivider hclock hfraction hoffset =>
    rw [parse?_of_hyphen_mem (List.mem_append_left _ hday.hyphen_mem),
      hlocal.ofRfc3339?_eq hnanos hday hdivider hclock hfraction hoffset, Option.some_or]
  | dateTime hlocal hnanos hday hclock =>
    rw [parse?_of_hyphen_mem (List.mem_append_left _ hday.hyphen_mem),
      ofRfc3339?_dateTime hday hlocal.valid hclock,
      hlocal.ofDateTime?_eq hnanos hday hclock, Option.none_or, Option.some_or]
  | date hlocal hnanos hday =>
    obtain ⟨hlong, hread⟩ := hlocal.ofDateText?_eq hnanos hday
    rw [parse?_of_hyphen_mem hday.hyphen_mem, ofRfc3339?_date hday, hlong, hread,
      Option.none_or, Option.none_or]

end Says

/-- What is written for an instant of whole milliseconds is one of its notations. -/
theorem says_rfc3339 {t : Instant} (h : t.InFourDigitYear) (hmillis : t.nanos % 1000000 = 0)
    (hleap : t.isLeap = false) : t.Says t.rfc3339.toList := by
  obtain ⟨hmonth, hday⟩ := Date.bounds_of_valid (Date.valid_ofEpochDay t.epochDay)
  have hbounds := t.secondOfDay_bounds
  have hnanos := nanos_lt_of_not_leap hleap
  have hlast := h.2
  simp only [secondsPerDay] at hbounds
  have hyear : ((t.date.year.toNat : Nat) : Int) = t.date.year := Int.toNat_of_nonneg h.1
  have hdate : WritesDate t.date (padded 4 t.date.year.toNat ++ '-' :: (padded 2 t.date.month ++
      '-' :: padded 2 t.date.day)) := by
    have hparts : t.date = ⟨t.date.year.toNat, t.date.month, t.date.day⟩ := by rw [hyear]
    rw [hparts]
    refine .intro (digitsOf_padded (by decide) ?_) (digitsOf_padded (by decide) ?_)
      (digitsOf_padded (by decide) ?_)
    · omega
    · exact Nat.lt_of_le_of_lt hmonth (by decide)
    · exact Nat.lt_of_le_of_lt hday (by decide)
  have hclock : WritesClock t.secondOfDay.toNat (padded 2 (t.secondOfDay.toNat / 3600) ++ ':' ::
      (padded 2 (t.secondOfDay.toNat / 60 % 60) ++ ':' ::
        padded 2 (t.secondOfDay.toNat % 60))) := by
    have hsum : t.secondOfDay.toNat = t.secondOfDay.toNat / 3600 * 3600 +
        t.secondOfDay.toNat / 60 % 60 * 60 + t.secondOfDay.toNat % 60 := by omega
    nth_rewrite 1 [hsum]
    refine .intro (digitsOf_padded (by decide) ?_) (digitsOf_padded (by decide) ?_)
      (digitsOf_padded (by decide) ?_) ?_ ?_ ?_ <;> omega
  have hlocal : t.ReadsAt 0 t.date t.secondOfDay.toNat := by
    refine ⟨Date.valid_ofEpochDay _, ?_⟩
    have hcount : t.date.toEpochDay = t.epochDay := Date.toEpochDay_ofEpochDay _
    rw [hcount]
    simp only [epochDay, secondOfDay, secondsPerDay] at *
    omega
  have hthousandths : t.nanos / 1000000 < 1000 := by omega
  have hfraction := writesFraction_padded hthousandths
  have hwhole : t.nanos = t.nanos / 1000000 * 1000000 := by omega
  have htext := Says.rfc3339 hlocal hwhole hdate (.inl rfl) hclock hfraction (.utc (.inl rfl))
  have hsecond : t.nanos % nanosPerSecond = t.nanos := Nat.mod_eq_of_lt hnanos
  rw [toList_rfc3339 h, hleap, hsecond]
  simpa using htext

end Instant

namespace Timestamp

/-- **All notations of an instant agree.** Take an instant of whole milliseconds outside
leap seconds. Its number of milliseconds is the time of the instant, and so is every text
that says it, with any blanks around it: that number in digits, RFC 3339 at any offset below
a day with any digits of a fraction, and in UTC a date with a whole second or a date for its
midnight. The text is read as the instant itself. In years of four digits the text that is
written for the instant is one that says it. -/
theorem notations_agree (t : Instant) (hmillis : t.nanos % 1000000 = 0)
    (hleap : t.isLeap = false) :
    millis? (.num (.int t.millis)) = some t.millis ∧
      (∀ {before text after : List Char}, t.Says text → (∀ c ∈ before, Text.isBlank c = true) →
        (∀ c ∈ after, Text.isBlank c = true) →
        millis? (.str (String.ofList (before ++ (text ++ after)))) = some t.millis) ∧
      (t.InFourDigitYear → t.Says t.rfc3339.toList) := by
  refine ⟨?_, ?_, fun hyear => Instant.says_rfc3339 hyear hmillis hleap⟩
  · obtain ⟨hleast, hgreatest⟩ := t.millis_fits
    rw [millis?, Timestamp.ofNumber, Word.saturate_eq_self hleast hgreatest]
  · intro before text after htext hbefore hafter
    rw [millis?, htext.trimmed.trim_append hbefore hafter,
      htext.parse?_eq hmillis hleap]
    rfl

/-- A quarter of a second before 1970: in the east it is early on New Year's Day. -/
def quarterSecondBefore1970 : Instant where
  __ := TimeExpression.secondBefore1970
  nanos := 750000000
  nanos_lt := by decide

theorem says_quarterSecondBefore1970 : quarterSecondBefore1970.Says
    ((['1', '9', '7', '0'] ++ '-' :: (['0', '1'] ++ '-' :: ['0', '1'])) ++ 't' ::
      ((['0', '5'] ++ ':' :: (['2', '9'] ++ ':' :: ['5', '9'])) ++
        ('.' :: '7' :: '5' :: List.replicate 9 '0' ++
          '+' :: (['0', '5'] ++ ':' :: ['3', '0'])))) := by
  have hlocal : quarterSecondBefore1970.ReadsAt (5 * 3600 + 30 * 60 : Nat) ⟨(1970 : Nat), 1, 1⟩
      (5 * 3600 + 29 * 60 + 59) := ⟨by decide, by decide⟩
  have hfraction : Instant.WritesFraction 750 ('.' :: '7' :: '5' :: List.replicate 9 '0') :=
    .point (List.cons_ne_nil _ _) (List.all_eq_true.mp rfl) (by decide)
  refine .rfc3339 hlocal (by decide) (.intro ?_ ?_ ?_) (.inr rfl) (.intro ?_ ?_ ?_ ?_ ?_ ?_)
    hfraction (.east ?_ ?_ ?_ ?_)
  all_goals decide

/-- The midnight at the start of the leap day of 2000. -/
def leapDay2000 : Instant := ⟨951782400, 0, by decide, by decide, Instant.epoch.nanos_lt⟩

theorem readsAt_leapDay2000 : leapDay2000.ReadsAt 0 ⟨(2000 : Nat), 2, 29⟩ 0 where
  valid := by decide
  seconds_eq := by decide

theorem writesDate_leapDay2000 : Instant.WritesDate ⟨(2000 : Nat), 2, 29⟩
    (['2', '0', '0', '0'] ++ '-' :: (['0', '2'] ++ '-' :: ['2', '9'])) :=
  .intro (by decide) (by decide) (by decide)

theorem notations_agree_aroundMidnight :
    (quarterSecondBefore1970.nanos % 1000000 = 0 ∧ quarterSecondBefore1970.isLeap = false ∧
      millis? (.num (.int (-250))) = some (-250) ∧
      millis? (.str "\t1970-01-01t05:29:59.75000000000+05:30 ") = some (-250) ∧
      quarterSecondBefore1970.Says "1969-12-31T23:59:59.750Z".toList) ∧
    leapDay2000.nanos % 1000000 = 0 ∧ leapDay2000.isLeap = false ∧
      millis? (.num (.int 951782400000)) = some 951782400000 ∧
      millis? (.str "951782400000") = some 951782400000 ∧
      millis? (.str "2000-02-29 00:00:00") = some 951782400000 ∧
      millis? (.str " 2000-02-29") = some 951782400000 := by
  have hnone : ∀ c ∈ ([] : List Char), Text.isBlank c = true := List.forall_mem_nil _
  have htab : ∀ c ∈ ['\t'], Text.isBlank c = true := List.forall_mem_singleton.mpr rfl
  have hspace : ∀ c ∈ [' '], Text.isBlank c = true := List.forall_mem_singleton.mpr rfl
  have hdigits : leapDay2000.Says
      ['9', '5', '1', '7', '8', '2', '4', '0', '0', '0', '0', '0'] :=
    .millis (List.cons_ne_nil _ _) (List.all_eq_true.mp rfl) (by decide)
  have hmidnight : Instant.WritesClock (0 * 3600 + 0 * 60 + 0)
      (['0', '0'] ++ ':' :: (['0', '0'] ++ ':' :: ['0', '0'])) := by
    refine .intro ?_ ?_ ?_ ?_ ?_ ?_
    all_goals decide
  have hday := writesDate_leapDay2000
  obtain ⟨hearly, htexts, hwritten⟩ :=
    notations_agree quarterSecondBefore1970 (by decide) (by decide)
  obtain ⟨hlate, hleapTexts, _⟩ := notations_agree leapDay2000 (by decide) (by decide)
  have hmillis : quarterSecondBefore1970.millis = -250 := by decide
  have hleapMillis : leapDay2000.millis = 951782400000 := by decide
  rw [hmillis] at hearly htexts
  rw [hleapMillis] at hlate hleapTexts
  have hrfc3339 : quarterSecondBefore1970.rfc3339 = "1969-12-31T23:59:59.750Z" := by
    decide +kernel
  refine ⟨⟨by decide, by decide, hearly, ?_, ?_⟩, by decide, by decide, hlate, ?_, ?_, ?_⟩
  · simpa [List.replicate] using htexts says_quarterSecondBefore1970 htab hspace
  · exact hrfc3339 ▸ hwritten ⟨by decide, by decide⟩
  · simpa using hleapTexts hdigits hnone hnone
  · simpa using hleapTexts (.dateTime readsAt_leapDay2000 rfl hday hmidnight) hnone hnone
  · simpa using hleapTexts (.date readsAt_leapDay2000 rfl hday) hspace hnone

end Timestamp

end DruidPanels
