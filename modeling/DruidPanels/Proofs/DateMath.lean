import DruidPanels.Time.Expression

/-! # Date math that is abandoned

An expression starts from an instant, the clock or a written one, and its steps are run
on it (`resolve_eq`). A step that cannot be computed is of one of two kinds: a shift
over a span whose milliseconds do not fit into sixty-four bits, or a rounding to a week
that starts before the calendar does. An expression is abandoned exactly if its run
comes to such a step (`resolve_abandoned_iff`); every other one is answered or
refused. -/

namespace DruidPanels

namespace Instant

/-- The start of the first Monday of the calendar, which starts on a Thursday. -/
def firstMonday : Int := firstSecond + 4 * secondsPerDay

/-- The Monday of an instant lies in the calendar from the first Monday on. -/
theorem firstSecond_le_monday_iff (t : Instant) :
    firstSecond ≤ (t.epochDay - daysSinceMonday t.epochDay) * secondsPerDay ↔
      firstMonday ≤ t.seconds := by
  have := t.firstSecond_le
  simp only [firstMonday, firstSecond, secondsPerDay, epochDay, daysSinceMonday] at *
  omega

theorem monday_le_lastSecond (t : Instant) :
    (t.epochDay - daysSinceMonday t.epochDay) * secondsPerDay ≤ lastSecond := by
  have := t.le_lastSecond
  simp only [lastSecond, secondsPerDay, epochDay, daysSinceMonday] at *
  omega

end Instant

namespace Step

/-! ## One step -/

/-- The step cannot be computed on `t`. -/
def abandoned (t : Instant) : Step → Bool
  | .shift amount unit =>
    match unit.reach with
    | .seconds count => Word.greatest < (amount * count * 1000).natAbs
    | .months _ => false
  | .round unit => unit = .week && t.seconds < Instant.firstMonday

theorem orUnrepresentable_ne_abort (found : Option Instant) :
    orUnrepresentable found ≠ .error .abort := by
  cases found <;> simp [orUnrepresentable]

theorem shiftBy_eq_abort_iff (t : Instant) (amount : Int) (unit : TimeUnit) :
    shiftBy amount unit t = .error .abort ↔ (shift amount unit).abandoned t = true := by
  cases hreach : unit.reach with
  | months count => simp [shiftBy, abandoned, hreach, orUnrepresentable_ne_abort]
  | seconds count =>
    have hspan : spanBound < (amount * count).natAbs ↔
        Word.greatest < (amount * count * 1000).natAbs := by
      simp only [spanBound, Word.greatest]
      omega
    simp only [shiftBy, abandoned, hreach, ← hspan, decide_eq_true_eq]
    split
    · next h => simp [h]
    · next h => simp [h, orUnrepresentable_ne_abort]

/-- One unit spans a week at most, or is counted in months. -/
theorem shiftBy_one_ne_abort (t : Instant) (unit : TimeUnit) :
    shiftBy 1 unit t ≠ .error .abort := by
  rw [Ne, shiftBy_eq_abort_iff]
  cases unit <;> exact Bool.false_ne_true

theorem startOf_week_eq_abort_iff (t : Instant) :
    startOf .week t = .error .abort ↔ t.seconds < Instant.firstMonday := by
  have hlast := t.monday_le_lastSecond
  have hfirst := t.firstSecond_le_monday_iff
  simp only [startOf]
  cases hmonday : Instant.of?
      ((t.epochDay - daysSinceMonday t.epochDay) * Instant.secondsPerDay) 0 with
  | some start =>
    have hcovered := start.firstSecond_le
    rw [(Instant.of?_eq_some_iff.mp hmonday).1] at hcovered
    have := hfirst.mp hcovered
    simp only [reduceCtorEq, false_iff]
    omega
  | none =>
    have hout := (Instant.of?_eq_none_iff (by decide)).mp hmonday
    simp only [true_iff]
    omega

theorem startOf_eq_abort_iff (t : Instant) (unit : TimeUnit) :
    startOf unit t = .error .abort ↔ (round unit).abandoned t = true := by
  cases unit with
  | week => simp [abandoned, startOf_week_eq_abort_iff]
  | second | minute | hour | month | year =>
    simp [startOf, abandoned, orUnrepresentable_ne_abort]
  | day => simp [startOf, abandoned]

theorem roundTo_eq_abort_iff (rounding : Rounding) (t : Instant) (unit : TimeUnit) :
    roundTo rounding unit t = .error .abort ↔ (round unit).abandoned t = true := by
  rw [← startOf_eq_abort_iff]
  cases rounding with
  | down => rfl
  | up =>
    simp only [roundTo]
    cases startOf unit t with
    | error fault => rfl
    | ok start =>
      -- past the start, the next start and the millisecond before it are only refused
      change (shiftBy 1 unit start >>= fun next => _) = _ ↔ _
      cases hnext : shiftBy 1 unit start with
      | error fault =>
        have := hnext ▸ shiftBy_one_ne_abort start unit
        simpa [bind, Except.bind] using this
      | ok next => simpa [bind, Except.bind] using orUnrepresentable_ne_abort _

theorem run_eq_abort_iff (rounding : Rounding) (t : Instant) (step : Step) :
    run rounding t step = .error .abort ↔ step.abandoned t = true := by
  cases step with
  | shift amount unit => exact shiftBy_eq_abort_iff t amount unit
  | round unit => exact roundTo_eq_abort_iff rounding t unit

/-! ## A run of steps -/

/-- A run over steps comes to one that cannot be computed. -/
def AbandonedIn (rounding : Rounding) (t : Instant) (steps : List Step) : Prop :=
  ∃ before step after reached, steps = before ++ step :: after ∧
    before.foldlM (run rounding) t = .ok reached ∧ step.abandoned reached = true

theorem abandonedIn_cons_iff {rounding : Rounding} {t : Instant} {step : Step}
    {rest : List Step} :
    AbandonedIn rounding t (step :: rest) ↔ step.abandoned t = true ∨
      ∃ reached, run rounding t step = .ok reached ∧ AbandonedIn rounding reached rest := by
  constructor
  · rintro ⟨before, last, after, reached, hsteps, hrun, hlast⟩
    cases before with
    | nil =>
      cases hsteps
      cases hrun
      exact .inl hlast
    | cons first before =>
      cases hsteps
      rw [List.foldlM_cons] at hrun
      cases hfirst : run rounding t step with
      | error fault => rw [hfirst] at hrun; cases hrun
      | ok next =>
        rw [hfirst] at hrun
        exact .inr ⟨next, rfl, before, last, after, reached, rfl, hrun, hlast⟩
  · rintro (hstep | ⟨next, hnext, before, last, after, reached, rfl, hrun, hlast⟩)
    · exact ⟨[], step, rest, t, rfl, rfl, hstep⟩
    · refine ⟨step :: before, last, after, reached, rfl, ?_, hlast⟩
      rw [List.foldlM_cons, hnext]
      exact hrun

/-- A run is abandoned exactly at a step that cannot be computed. -/
theorem foldlM_eq_abort_iff (rounding : Rounding) (t : Instant) (steps : List Step) :
    steps.foldlM (run rounding) t = .error .abort ↔ AbandonedIn rounding t steps := by
  induction steps generalizing t with
  | nil =>
    constructor
    · nofun
    · rintro ⟨before, step, after, reached, hsteps, _⟩
      cases before <;> cases hsteps
  | cons step rest ih =>
    rw [List.foldlM_cons, abandonedIn_cons_iff, ← run_eq_abort_iff rounding]
    cases hrun : run rounding t step with
    | error fault => simp [bind, Except.bind]
    | ok reached => simp [bind, Except.bind, ih]

theorem runText_eq_abort_iff (rounding : Rounding) (t : Instant) (text : List Char) :
    runText rounding t text = .error .abort ↔ AbandonedIn rounding t (readAll text).1 := by
  rw [← foldlM_eq_abort_iff]
  unfold runText
  obtain ⟨steps, complete⟩ := readAll text
  cases hrun : steps.foldlM (run rounding) t with
  | error fault => simp [hrun, bind, Except.bind]
  | ok result => cases complete <;> simp [hrun, bind, Except.bind, pure, Except.pure, throw, throwThe, MonadExceptOf.throw]

end Step

/-! ## Expressions -/

namespace TimeExpression

/-- The instant that the core of an expression starts from, and the text of its steps:
the clock or a written instant, or a written instant alone without steps. -/
def anchor? (now : Instant) (cs : List Char) : Option (Instant × List Char) :=
  match Text.after? "now".toList cs with
  | some steps => some (now, steps)
  | none =>
    match Text.splitAt? ['|', '|'] cs with
    | some (anchor, steps) => (Instant.parse? (String.ofList anchor)).map (·, steps)
    | none => (Instant.parse? (String.ofList cs)).map (·, [])

theorem anchor?_nil (now : Instant) : anchor? now [] = none := rfl

/-- What is said of an expression that is refused. -/
def refusal (expression : String) : TimeError :=
  if (core expression).isEmpty then .empty else .invalid (String.ofList (core expression))

/-- An expression is its steps, run on its anchor. -/
theorem resolve_eq (now : Instant) (rounding : Rounding) (expression : String) :
    resolve now rounding expression =
      match anchor? now (core expression) with
      | some (t, steps) => (Step.runText rounding t steps).mapError
          (stepFault (String.ofList (core expression)))
      | none => .error (refusal expression).fault := by
  unfold resolve refusal
  cases hcore : core expression with
  | nil => rfl
  | cons c cs =>
    simp only [List.isEmpty_cons, Bool.false_eq_true, if_false, anchor?]
    cases Text.after? "now".toList (c :: cs) with
    | some steps => rfl
    | none =>
      cases Text.splitAt? ['|', '|'] (c :: cs) with
      | some parts =>
        obtain ⟨anchor, steps⟩ := parts
        cases hparse : Instant.parse? (String.ofList anchor) <;> simp [hparse]
      | none =>
        -- a written instant alone has no steps to run
        cases Instant.parse? (String.ofList (c :: cs)) <;> rfl

/-- A step is refused in the words that the whole expression is refused in. -/
theorem stepFault_eq {now t : Instant} {expression : String} {steps : List Char}
    (h : anchor? now (core expression) = some (t, steps)) :
    stepFault (String.ofList (core expression)) .unrepresentable =
      (refusal expression).fault := by
  unfold refusal
  cases hcore : core expression with
  | nil => rw [hcore, anchor?_nil] at h; cases h
  | cons c cs => rfl

/-- **An expression is abandoned exactly at a step that cannot be computed.** Whatever
the clock and the direction, an expression gives an instant, is refused in its own
words, or is abandoned; and it is abandoned if and only if it starts from an instant and
its steps, run from there, come to a shift by more than a greatest word of milliseconds
or to a rounding to a week before the first Monday of the calendar. -/
theorem resolve_abandoned_iff (now : Instant) (rounding : Rounding) (expression : String) :
    (∀ fault, resolve now rounding expression = .error fault →
        fault = (refusal expression).fault ∨ fault = .abort) ∧
      (resolve now rounding expression = .error .abort ↔
        ∃ t steps, anchor? now (core expression) = some (t, steps) ∧
          Step.AbandonedIn rounding t (Step.readAll steps).1) := by
  rw [resolve_eq]
  cases hanchor : anchor? now (core expression) with
  | none =>
    refine ⟨fun fault h => .inl (Except.error.inj h).symm, ?_⟩
    simp [TimeError.fault]
  | some start =>
    obtain ⟨t, steps⟩ := start
    have hrun : (∃ t' steps', some (t, steps) = some (t', steps') ∧
        Step.AbandonedIn rounding t' (Step.readAll steps').1) ↔
          Step.runText rounding t steps = .error .abort := by
      rw [Step.runText_eq_abort_iff]
      constructor
      · rintro ⟨_, _, ⟨⟩, h⟩
        exact h
      · exact fun h => ⟨t, steps, rfl, h⟩
    have hwords := stepFault_eq hanchor
    rw [hrun]
    dsimp only
    cases Step.runText rounding t steps with
    | ok result => exact ⟨nofun, nofun, nofun⟩
    | error fault =>
      cases fault with
      | unrepresentable =>
        exact ⟨fun fault h => .inl ((Except.error.inj h).symm.trans hwords), nofun, nofun⟩
      | abort => exact ⟨fun fault h => .inr (Except.error.inj h).symm, fun _ => rfl, fun _ => rfl⟩

/-- A shift by the greatest amount that a step can have, in seconds. -/
theorem resolve_greatestShift :
    resolve .epoch .down "now+9223372036854775807s" = .error .abort := by
  refine (resolve_abandoned_iff .epoch .down _).2.mpr
    ⟨.epoch, "+9223372036854775807s".toList, by decide, ?_⟩
  have hread : (Step.readAll "+9223372036854775807s".toList).1 =
      [.shift 9223372036854775807 .second] := by decide
  rw [hread]
  exact ⟨[], _, [], .epoch, rfl, rfl, by decide⟩

end TimeExpression

end DruidPanels
