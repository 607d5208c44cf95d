import DruidPanels.Proofs.LeapSeconds
import DruidPanels.Proofs.NumericEdges
import DruidPanels.Proofs.StepRuns

/-! # Written instants, read back

Numbers are written in a fixed number of digits, so each part of a written instant is read
back by the reader of as many digits, and the text after it is left alone. A fraction of a
second may have any digits that make up thousandths (`WritesFraction`). In years of four
digits the whole text is read back as the instant itself, cut to the millisecond
(`parse?_rfc3339`). -/

namespace DruidPanels

namespace Date

/-- No month is longer than 31 days, and there are twelve. -/
theorem bounds_of_valid {d : Date} (h : d.valid = true) : d.month ≤ 12 ∧ d.day ≤ 31 := by
  have hall : ∀ leap : Bool, ∀ m < 12, (Calendar.monthLengths leap).getD m 0 ≤ 31 := by decide
  obtain ⟨_, hmonth, _, hday⟩ := (valid_iff d).mp h
  exact ⟨hmonth, Nat.le_trans hday (hall _ (d.month - 1) (by omega))⟩

/-- The calendar covers all years of four digits. -/
theorem of?_of_valid {d : Date} (hvalid : d.valid = true) (hfirst : 0 ≤ d.year)
    (hlast : d.year ≤ 9999) : of? d.year d.month d.day = some d := by
  have hfirstYear : firstYear ≤ d.year := Int.le_trans (by decide) hfirst
  have hlastYear : d.year ≤ lastYear := Int.le_trans hlast (by decide)
  have hcovered : d.covered = true := by
    rw [covered, decide_eq_true hfirstYear, decide_eq_true hlastYear]
    rfl
  simp only [of?, hvalid, hcovered, Bool.and_self, if_true]

end Date

namespace Instant

/-! ## Numbers of fixed width -/

theorem length_padded {width n : Nat} (hwidth : 0 < width) (h : n < 10 ^ width) :
    (padded width n).length = width := by
  have hdigits : (Nat.toDigits 10 n).length ≤ width :=
    (Nat.length_toDigits_le_iff (by decide) hwidth).mpr h
  rw [padded, List.length_append, List.length_replicate, Nat.sub_add_cancel hdigits]

theorem isDigit_of_mem_padded {width n : Nat} {c : Char} (h : c ∈ padded width n) :
    c.isDigit = true := by
  rcases List.mem_append.mp h with hzero | hdigit
  · rw [List.eq_of_mem_replicate hzero]
    rfl
  · exact Text.isDigit_of_mem_toDigits hdigit

theorem readDigits_padded (width n : Nat) : Text.readDigits (padded width n) = n := by
  rw [Text.readDigits, padded, Nat.ofDigitChars_append, Nat.ofDigitChars_replicate_zero,
    Nat.mul_zero, Nat.ofDigitChars_ten_toDigits]

theorem digitsOf_padded {width n : Nat} (hwidth : 0 < width) (h : n < 10 ^ width) :
    Text.DigitsOf width n (padded width n) where
  length_eq := length_padded hwidth h
  isDigit := fun _ hc => isDigit_of_mem_padded hc
  readDigits_eq := readDigits_padded width n

/-! ## Fractions of a second -/

/-- What follows a second: nothing for a whole second, or a point and any digits that make
up so many thousandths. -/
inductive WritesFraction : Nat → List Char → Prop
  | whole : WritesFraction 0 []
  | point {thousandths : Nat} {ds : List Char} (hne : ds ≠ [])
      (hdigits : ∀ c ∈ ds, c.isDigit = true)
      (hvalue : Text.readDigits ds * 1000 = thousandths * 10 ^ ds.length) :
      WritesFraction thousandths ('.' :: ds)

/-- Digits beyond the ninth do not count, and where there are only thousandths they are
zeros. -/
theorem readDigits_take_nine {thousandths : Nat} {ds : List Char}
    (hdigits : ∀ c ∈ ds, c.isDigit = true)
    (hvalue : Text.readDigits ds * 1000 = thousandths * 10 ^ ds.length) :
    Text.readDigits (ds.take 9) * Nat.pow 10 (9 - (ds.take 9).length) =
      thousandths * 1000000 := by
  change _ * 10 ^ (9 - (ds.take 9).length) = _
  rw [List.length_take]
  rcases Nat.le_total ds.length 9 with hshort | hlong
  · rw [List.take_of_length_le hshort, Nat.min_eq_right hshort]
    have hpower : 10 ^ ds.length * 10 ^ (9 - ds.length) = 1000000000 := by
      rw [← Nat.pow_add, Nat.add_sub_cancel' hshort]
    have hscaled : Text.readDigits ds * 1000 * 10 ^ (9 - ds.length) =
        thousandths * 1000000000 := by
      rw [hvalue, Nat.mul_assoc, hpower]
    rw [Nat.mul_right_comm] at hscaled
    omega
  · rw [Nat.min_eq_left hlong, Nat.sub_self, Nat.pow_zero, Nat.mul_one]
    have hsplit : Text.readDigits ds = 10 ^ (ds.drop 9).length * Text.readDigits (ds.take 9) +
        Text.readDigits (ds.drop 9) := by
      rw [← Text.readDigits_append, List.take_append_drop]
    have htail : Text.readDigits (ds.drop 9) < 10 ^ (ds.drop 9).length :=
      Text.readDigits_lt fun c hc => hdigits c (List.mem_of_mem_drop hc)
    have hlength : 10 ^ ds.length = 10 ^ (ds.drop 9).length * 1000000000 := by
      rw [List.length_drop, ← Nat.pow_add 10 _ 9, Nat.sub_add_cancel hlong]
    have hwhole : Text.readDigits ds = 10 ^ (ds.drop 9).length * (thousandths * 1000000) := by
      refine Nat.eq_of_mul_eq_mul_right (show 0 < 1000 by decide) ?_
      rw [hvalue, hlength]
      ring
    -- both are the quotient by the power of ten of the digits that do not count
    have hquotient := congrArg (· / 10 ^ (ds.drop 9).length) (hsplit.symm.trans hwhole)
    have hpower : 0 < 10 ^ (ds.drop 9).length := Nat.pow_pos (by decide)
    simpa only [Nat.mul_add_div hpower, Nat.div_eq_of_lt htail, Nat.add_zero,
      Nat.mul_div_cancel_left _ hpower] using hquotient

theorem fraction?_append {thousandths : Nat} {text : List Char}
    (h : WritesFraction thousandths text) {rest : List Char}
    (hrest : ∀ c ∈ rest.head?, c.isDigit = false ∧ c ≠ '.') :
    fraction? (text ++ rest) = some (thousandths * 1000000, rest) := by
  cases h with
  | whole =>
    rw [List.nil_append]
    unfold fraction?
    split
    · exact absurd rfl (hrest '.' rfl).2
    · rw [Nat.zero_mul]
  | @point _ ds hne hdigits hvalue =>
    have hstop : ∀ c ∈ rest.head?, c.isDigit = false := fun c hc => (hrest c hc).1
    have hrun : (ds ++ rest).takeWhile Char.isDigit = ds :=
      Text.takeWhile_append_of_head hdigits hstop
    have hafter : (ds ++ rest).dropWhile Char.isDigit = rest :=
      Text.dropWhile_append_of_head hdigits hstop
    have hsome : ds.isEmpty = false := List.isEmpty_eq_false_iff.mpr hne
    rw [List.cons_append]
    simp only [fraction?, Text.digits, hrun, hafter, hsome, Bool.false_eq_true, if_false,
      readDigits_take_nine hdigits hvalue]

/-- Three digits are thousandths. -/
theorem writesFraction_padded {n : Nat} (h : n < 1000) :
    WritesFraction n ('.' :: padded 3 n) := by
  have hdigits : Text.DigitsOf 3 n (padded 3 n) := digitsOf_padded (by decide) h
  refine .point hdigits.ne_nil hdigits.isDigit ?_
  rw [hdigits.readDigits_eq, hdigits.length_eq]
  rfl

/-! ## The parts of a written instant -/

/-- The instant without what is less than a millisecond. -/
def cutToMilli (t : Instant) : Instant where
  seconds := t.seconds
  nanos := t.nanos / 1000000 * 1000000
  firstSecond_le := t.firstSecond_le
  le_lastSecond := t.le_lastSecond
  nanos_lt := Nat.lt_of_le_of_lt (Nat.div_mul_le_self _ _) t.nanos_lt

theorem cutToMilli_le_cutToMilli {s t : Instant} (h : s ≤ t) : s.cutToMilli ≤ t.cutToMilli := by
  rcases h with hlt | ⟨heq, hnanos⟩
  · exact .inl hlt
  · exact .inr ⟨heq, Nat.mul_le_mul_right _ (Nat.div_le_div_right hnanos)⟩

theorem ofLocal?_date (t : Instant) :
    ofLocal? t.date (t.secondOfDay.toNat, t.cutToMilli.nanos) 0 = some t.cutToMilli := by
  rw [ofLocal?, of?_eq_some_iff]
  refine ⟨?_, rfl⟩
  have hbounds := t.secondOfDay_bounds
  have hday : t.date.toEpochDay = t.epochDay := Date.toEpochDay_ofEpochDay _
  change t.seconds = _
  simp only [hday, epochDay, secondOfDay, secondsPerDay] at *
  omega

/-- The time of day of a regular instant; a leap second stands as second 60. -/
theorem timeOfDay?_secondOfDay {t : Instant} (h : t.Regular) :
    timeOfDay? (t.secondOfDay.toNat / 3600) (t.secondOfDay.toNat / 60 % 60)
        (t.secondOfDay.toNat % 60 + if t.isLeap then 1 else 0)
        (t.nanos % nanosPerSecond / 1000000 * 1000000) =
      some (t.secondOfDay.toNat, t.cutToMilli.nanos) := by
  have hbounds := t.secondOfDay_bounds
  have hnanos := t.nanos_lt
  have hsecond : (t.secondOfDay.toNat : Int) % 60 = t.seconds % 60 := by
    simp only [secondOfDay, secondsPerDay] at *
    omega
  simp only [secondsPerDay, nanosPerSecond] at hbounds hnanos
  have hvalid : t.secondOfDay.toNat / 3600 < 24 ∧ t.secondOfDay.toNat / 60 % 60 < 60 ∧
      t.secondOfDay.toNat % 60 + (if t.isLeap then 1 else 0) ≤ 60 ∧
      t.nanos % nanosPerSecond / 1000000 * 1000000 < nanosPerSecond := by
    simp only [nanosPerSecond]
    split <;> omega
  rw [timeOfDay?, if_pos hvalid]
  cases hleap : t.isLeap with
  | true =>
    have hlast : t.seconds % 60 = 59 := h hleap
    have hfrom : 1000000000 ≤ t.nanos := of_decide_eq_true hleap
    have hsixty : t.secondOfDay.toNat % 60 + 1 = 60 := by omega
    simp only [if_true, if_pos hsixty]
    refine congrArg some (Prod.ext ?_ ?_)
    · change t.secondOfDay.toNat / 3600 * 3600 + t.secondOfDay.toNat / 60 % 60 * 60 + 59 = _
      omega
    · simp only [nanosPerSecond, cutToMilli]
      omega
  | false =>
    have hbelow := nanos_lt_of_not_leap hleap
    have hsixty : t.secondOfDay.toNat % 60 + 0 ≠ 60 := by omega
    simp only [Bool.false_eq_true, if_false, if_neg hsixty]
    refine congrArg some (Prod.ext ?_ ?_)
    · change t.secondOfDay.toNat / 3600 * 3600 + t.secondOfDay.toNat / 60 % 60 * 60 +
        (t.secondOfDay.toNat % 60 + 0) = _
      omega
    · simp only [nanosPerSecond, cutToMilli]
      omega

/-- The instant lies in a year that is written in four digits and no sign. -/
def InFourDigitYear (t : Instant) : Prop := 0 ≤ t.date.year ∧ t.date.year ≤ 9999

instance (t : Instant) : Decidable t.InFourDigitYear := inferInstanceAs (Decidable (_ ∧ _))

theorem toList_rfc3339 {t : Instant} (h : t.InFourDigitYear) :
    t.rfc3339.toList = padded 4 t.date.year.toNat ++ '-' :: (padded 2 t.date.month ++ '-' ::
      (padded 2 t.date.day ++ 'T' :: (padded 2 (t.secondOfDay.toNat / 3600) ++ ':' ::
      (padded 2 (t.secondOfDay.toNat / 60 % 60) ++ ':' ::
      (padded 2 (t.secondOfDay.toNat % 60 + if t.isLeap then 1 else 0) ++ '.' ::
      (padded 3 (t.nanos % nanosPerSecond / 1000000) ++ ['Z'])))))) := by
  have hyear : yearText t.date.year = padded 4 t.date.year.toNat := if_pos h
  rw [rfc3339, String.toList_ofList, hyear]
  simp only [List.append_assoc, List.cons_append]

theorem bind_of_eq_some {α β : Type} {found : Option α} {a : α} (h : found = some a)
    (next : α → Option β) : (found >>= next) = next a := by
  rw [h]
  rfl

theorem dropChar?_cons (c : Char) (rest : List Char) : dropChar? c (c :: rest) = some rest :=
  if_pos rfl

/-- What is written part by part is read part by part: a date and a time of day in numbers
of fixed width, and what follows the seconds. -/
theorem ofRfc3339?_of_digits {year month day hour minute second : Nat}
    {y mo d h mi s : List Char} (hyear : Text.DigitsOf 4 year y) (hmonth : Text.DigitsOf 2 month mo)
    (hday : Text.DigitsOf 2 day d) {divider : Char} (hdivider : isDivider divider = true)
    (hhour : Text.DigitsOf 2 hour h) (hminute : Text.DigitsOf 2 minute mi)
    (hsecond : Text.DigitsOf 2 second s) (rest : List Char) :
    ofRfc3339? (y ++ '-' :: (mo ++ '-' :: (d ++ divider :: (h ++ ':' :: (mi ++ ':' ::
      (s ++ rest)))))) = (do
        let (nanos, cs) ← fraction? rest
        let offset ← offset? cs
        ofLocal? (← Date.of? year month day) (← timeOfDay? hour minute second nanos) offset) := by
  unfold ofRfc3339?
  refine (bind_of_eq_some (hyear.fixedDigits?_append _) _).trans ?_
  refine (bind_of_eq_some (dropChar?_cons '-' _) _).trans ?_
  refine (bind_of_eq_some (hmonth.fixedDigits?_append _) _).trans ?_
  refine (bind_of_eq_some (dropChar?_cons '-' _) _).trans ?_
  refine (bind_of_eq_some (hday.fixedDigits?_append _) _).trans ?_
  refine (bind_of_eq_some (a := (divider, _)) rfl _).trans ?_
  refine (if_neg (by simp [hdivider])).trans ?_
  refine (bind_of_eq_some (hhour.fixedDigits?_append _) _).trans ?_
  refine (bind_of_eq_some (dropChar?_cons ':' _) _).trans ?_
  refine (bind_of_eq_some (hminute.fixedDigits?_append _) _).trans ?_
  refine (bind_of_eq_some (dropChar?_cons ':' _) _).trans ?_
  exact bind_of_eq_some (hsecond.fixedDigits?_append _) _

/-! ## Whole instants -/

theorem ofRfc3339?_rfc3339 {t : Instant} (h : t.InFourDigitYear) (hregular : t.Regular) :
    ofRfc3339? t.rfc3339.toList = some t.cutToMilli := by
  obtain ⟨hmonth, hday⟩ := Date.bounds_of_valid (Date.valid_ofEpochDay t.epochDay)
  have hyear : (t.date.year.toNat : Int) = t.date.year := Int.toNat_of_nonneg h.1
  have hdate : Date.of? t.date.year.toNat t.date.month t.date.day = some t.date := by
    rw [hyear]
    exact Date.of?_of_valid (Date.valid_ofEpochDay _) h.1 h.2
  have hlast := h.2
  have hbounds := t.secondOfDay_bounds
  simp only [secondsPerDay] at hbounds
  have hthousandths : t.nanos % nanosPerSecond / 1000000 < 1000 := by
    simp only [nanosPerSecond]
    omega
  have hend : ∀ c ∈ ['Z'].head?, c.isDigit = false ∧ c ≠ '.' := by simp
  have hfraction := fraction?_append (writesFraction_padded hthousandths) hend
  rw [toList_rfc3339 h]
  refine (ofRfc3339?_of_digits (digitsOf_padded (by decide) ?_) (digitsOf_padded (by decide) ?_)
    (digitsOf_padded (by decide) ?_) rfl (digitsOf_padded (by decide) ?_)
    (digitsOf_padded (by decide) ?_) (digitsOf_padded (by decide) ?_) _).trans ?_
  · omega
  · exact Nat.lt_of_le_of_lt hmonth (by decide)
  · exact Nat.lt_of_le_of_lt hday (by decide)
  · omega
  · omega
  · split <;> omega
  · refine (bind_of_eq_some hfraction _).trans ?_
    -- the rest is the `Z`
    refine (bind_of_eq_some (a := 0) rfl _).trans ?_
    refine (bind_of_eq_some hdate _).trans ?_
    exact (bind_of_eq_some (timeOfDay?_secondOfDay hregular) _).trans t.ofLocal?_date

/-- In years of four digits a regular instant is read back, cut to the millisecond. -/
theorem parse?_rfc3339 {t : Instant} (h : t.InFourDigitYear) (hregular : t.Regular) :
    parse? t.rfc3339 = some t.cutToMilli := by
  have hhyphen : '-' ∈ t.rfc3339.toList := by
    rw [toList_rfc3339 h]
    exact List.mem_append_right _ List.mem_cons_self
  rw [parse?, Text.natural?_of_hyphen hhyphen, ofRfc3339?_rfc3339 h hregular]
  rfl

/-! ## The slash -/

theorem slash_not_mem_padded (width n : Nat) : '/' ∉ padded width n := by
  intro h
  cases (isDigit_of_mem_padded h).symm.trans (show '/'.isDigit = false from rfl)

/-- No written instant has the character that stands between two of them. -/
theorem slash_not_mem_rfc3339 (t : Instant) : '/' ∉ t.rfc3339.toList := by
  have hyear : '/' ∉ yearText t.date.year := by
    unfold yearText
    split
    · exact slash_not_mem_padded _ _
    · split <;> simp [slash_not_mem_padded]
  simp [rfc3339, hyear, slash_not_mem_padded]

end Instant

end DruidPanels
