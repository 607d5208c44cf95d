import DruidPanels.Proofs.Itemwise
import DruidPanels.Proofs.Rounding
import DruidPanels.Proofs.TimeLine

/-! # Both directions of an expression

The same steps, run down and run up, part at the first rounding: down goes to the start
of a unit and up to the end of the same one (`Straddles`). No leap second is left then,
and the steps after it keep the two in order, roundings because they never take a later
second to an earlier unit, shifts by seconds because both go equally far. Shifts by
months do not, so they must come first. -/

namespace DruidPanels

namespace TimeUnit

/-! ## Units in order -/

theorem monotone_numberAt (unit : TimeUnit) : Monotone fun second => unit.numberAt second := by
  intro a b hab
  have hlow := unit.startSecond_numberAt_le a
  have hhigh := unit.lt_startSecond_numberAt_succ b
  have hlt : unit.numberAt a < unit.numberAt b + 1 :=
    unit.strictMono_startSecond.lt_iff_lt.mp (hlow.trans_lt (hab.trans_lt hhigh))
  exact Int.le_of_lt_add_one hlt

/-- A later second of the same unit is taken to the start after it too. -/
theorem Overshoots.of_numberAt_eq {unit : TimeUnit} {a b : Int} (h : unit.Overshoots a)
    (hab : a ≤ b) (hnumber : unit.numberAt a = unit.numberAt b) : unit.Overshoots b := by
  have hstartsAt := h.startsAt_epoch
  obtain ⟨hunit, hbefore, hinside⟩ := h
  refine ⟨hunit, ?_, ?_⟩
  · -- 1970 starts a unit, so the unit of `a` is over by then
    have hepoch : unit.startSecond (unit.numberAt a + 1) ≤ 0 :=
      (unit.isLeast_startSecond a).2 ⟨hstartsAt, hbefore⟩
    have hb := unit.lt_startSecond_numberAt_succ b
    rw [← hnumber] at hb
    exact hb.trans_le hepoch
  · intro hstart
    have hb := startSecond_numberAt hstart
    have ha := unit.startSecond_numberAt_le a
    rw [← hnumber] at hb
    rw [hb] at ha
    exact hinside (Int.le_antisymm hab ha ▸ hstart)

theorem monotone_roundedNumber (unit : TimeUnit) :
    Monotone fun second => unit.roundedNumber second := by
  intro a b hab
  have hnumber : unit.numberAt a ≤ unit.numberAt b := unit.monotone_numberAt hab
  have hover : unit.Overshoots a → unit.numberAt a = unit.numberAt b → unit.Overshoots b :=
    fun h heq => h.of_numberAt_eq hab heq
  simp only [roundedNumber]
  split
  · next ha =>
    split
    · omega
    · next hb =>
      have hne : unit.numberAt a ≠ unit.numberAt b := fun heq => hb (hover ha heq)
      omega
  · split <;> omega

end TimeUnit

/-- Two instants in order, neither of them in a leap second. -/
structure Straddles (first last : Instant) : Prop where
  le : first ≤ last
  first_not_leap : first.isLeap = false
  last_not_leap : last.isLeap = false

namespace Step

/-- The step is a rounding. -/
def rounds : Step → Bool
  | .shift _ _ => false
  | .round _ => true

/-- The step is a shift by months or years. -/
def shiftsMonths : Step → Bool
  | .shift _ unit =>
    match unit.reach with
    | .seconds _ => false
    | .months _ => true
  | .round _ => false

/-- No shift by months or years comes after a rounding. -/
def MonthsFirst (steps : List Step) : Prop :=
  steps.Pairwise fun earlier later => earlier.rounds = true → later.shiftsMonths = false

instance (steps : List Step) : Decidable (MonthsFirst steps) :=
  inferInstanceAs (Decidable (List.Pairwise _ _))

/-! ## One step -/

theorem run_eq_of_not_rounds {step : Step} (h : step.rounds = false) (t : Instant) :
    run .down t step = run .up t step := by
  cases step with
  | shift amount unit => rfl
  | round unit => cases h

/-- Outside leap seconds a shift by seconds moves the second and nothing else. -/
theorem parts_of_shiftBy {unit : TimeUnit} {count amount : Int} {t s : Instant}
    (hreach : unit.reach = .seconds count) (hleap : t.isLeap = false)
    (h : shiftBy amount unit t = .ok s) :
    s.seconds = t.seconds + amount * count ∧ s.nanos = t.nanos := by
  simp only [shiftBy, hreach] at h
  split at h
  · cases h
  · rw [orUnrepresentable_eq_ok_iff, Instant.addSeconds?_of_not_leap hleap] at h
    exact Instant.of?_eq_some_iff.mp h

theorem straddles_shiftBy {unit : TimeUnit} {count amount : Int} {first last s e : Instant}
    (h : Straddles first last) (hreach : unit.reach = .seconds count)
    (hfirst : shiftBy amount unit first = .ok s)
    (hlast : shiftBy amount unit last = .ok e) : Straddles s e := by
  obtain ⟨hsSeconds, hsNanos⟩ := parts_of_shiftBy hreach h.first_not_leap hfirst
  obtain ⟨heSeconds, heNanos⟩ := parts_of_shiftBy hreach h.last_not_leap hlast
  refine ⟨?_, ?_, ?_⟩
  · rcases h.le with hlt | ⟨heq, hnanos⟩
    · exact .inl (by omega)
    · exact .inr ⟨by omega, by omega⟩
  · rw [Instant.isLeap, hsNanos]
    exact h.first_not_leap
  · rw [Instant.isLeap, heNanos]
    exact h.last_not_leap

/-- The start of one unit and the last millisecond of the same or a later one. -/
theorem straddles_roundTo {unit : TimeUnit} {first last s e : Instant}
    (h : first.seconds ≤ last.seconds) (hdown : roundTo .down unit first = .ok s)
    (hup : roundTo .up unit last = .ok e) : Straddles s e := by
  obtain ⟨hsSeconds, hsNanos⟩ := ((brackets_roundedNumber unit first).down_iff s).mp hdown
  obtain ⟨_, _, heSeconds, heNanos⟩ := ((brackets_roundedNumber unit last).up_iff e).mp hup
  have hstart : unit.startSecond (unit.roundedNumber first.seconds) ≤
      unit.startSecond (unit.roundedNumber last.seconds) :=
    unit.strictMono_startSecond.monotone (unit.monotone_roundedNumber h)
  have hnext := unit.startSecond_lt_succ (unit.roundedNumber last.seconds)
  refine ⟨?_, ?_, ?_⟩
  · rcases Int.lt_or_eq_of_le (show s.seconds ≤ e.seconds by omega) with hlt | heq
    · exact .inl hlt
    · exact .inr ⟨heq, by omega⟩
  · exact not_leap_of_roundTo hdown
  · exact not_leap_of_roundTo hup

theorem straddles_run {step : Step} {first last s e : Instant} (h : Straddles first last)
    (hstep : step.shiftsMonths = false) (hdown : run .down first step = .ok s)
    (hup : run .up last step = .ok e) : Straddles s e := by
  cases step with
  | round unit => exact straddles_roundTo (Instant.seconds_le_of_le h.le) hdown hup
  | shift amount unit =>
    cases hreach : unit.reach with
    | seconds count => exact straddles_shiftBy h hreach hdown hup
    | months count =>
      rw [shiftsMonths, hreach] at hstep
      cases hstep

/-! ## A run of steps -/

theorem foldlM_eq_of_not_rounds {steps : List Step} (h : ∀ step ∈ steps, step.rounds = false)
    (t : Instant) : steps.foldlM (run .down) t = steps.foldlM (run .up) t := by
  induction steps generalizing t with
  | nil => rfl
  | cons step rest ih =>
    have hstep : run .down t step = run .up t step :=
      run_eq_of_not_rounds (h step List.mem_cons_self) t
    rw [List.foldlM_cons, List.foldlM_cons, hstep]
    exact bind_congr fun s => ih (fun later hlater => h later (List.mem_cons_of_mem _ hlater)) s

theorem straddles_foldlM {steps : List Step} {first last s e : Instant}
    (h : Straddles first last) (hsteps : ∀ step ∈ steps, step.shiftsMonths = false)
    (hdown : steps.foldlM (run .down) first = .ok s)
    (hup : steps.foldlM (run .up) last = .ok e) : Straddles s e := by
  induction steps generalizing first last with
  | nil =>
    cases hdown
    cases hup
    exact h
  | cons step rest ih =>
    rw [List.foldlM_cons] at hdown hup
    obtain ⟨s', hs', hdown⟩ := Itemwise.bind_eq_ok_iff.mp hdown
    obtain ⟨e', he', hup⟩ := Itemwise.bind_eq_ok_iff.mp hup
    have hstep := straddles_run h (hsteps step List.mem_cons_self) hs' he'
    exact ih hstep (fun later hlater => hsteps later (List.mem_cons_of_mem _ hlater)) hdown hup

/-- From one instant the two runs are the same up to the first rounding, and straddle from
there on. -/
theorem foldlM_down_le_up {steps : List Step} {t s e : Instant} (h : MonthsFirst steps)
    (hdown : steps.foldlM (run .down) t = .ok s) (hup : steps.foldlM (run .up) t = .ok e) :
    s ≤ e := by
  induction steps generalizing t with
  | nil =>
    cases hdown
    cases hup
    exact Instant.le_refl _
  | cons step rest ih =>
    obtain ⟨hstep, hrest⟩ := List.pairwise_cons.mp h
    rw [List.foldlM_cons] at hdown hup
    obtain ⟨s', hs', hdownRest⟩ := Itemwise.bind_eq_ok_iff.mp hdown
    obtain ⟨e', he', hupRest⟩ := Itemwise.bind_eq_ok_iff.mp hup
    cases step with
    | shift amount unit =>
      have hsame : Except.ok s' = Except.ok e' := hs'.symm.trans he'
      cases hsame
      exact ih hrest hdownRest hupRest
    | round unit =>
      have hparted := straddles_roundTo le_rfl hs' he'
      have hmonths : ∀ later ∈ rest, later.shiftsMonths = false :=
        fun later hlater => hstep later hlater rfl
      exact (straddles_foldlM hparted hmonths hdownRest hupRest).le

theorem runText_eq_ok_iff {rounding : Rounding} {t s : Instant} {text : List Char} :
    runText rounding t text = .ok s ↔
      (readAll text).2 = true ∧ (readAll text).1.foldlM (run rounding) t = .ok s := by
  unfold runText
  obtain ⟨steps, complete⟩ := readAll text
  rw [Itemwise.bind_eq_ok_iff]
  cases complete with
  | true =>
    simp only [if_true, true_and]
    constructor
    · rintro ⟨_, hrun, hresult⟩
      cases hresult
      exact hrun
    · intro hrun
      exact ⟨s, hrun, rfl⟩
  | false =>
    constructor
    · rintro ⟨_, _, hresult⟩
      cases hresult
    · rintro ⟨hcomplete, _⟩
      cases hcomplete

end Step

/-! ## Expressions -/

namespace TimeExpression

/-- The steps of an expression, as far as they can be read. -/
def steps (now : Instant) (expression : String) : List Step :=
  match anchor? now (core expression) with
  | some (_, text) => (Step.readAll text).1
  | none => []

/-- **Down is never after up.** Whatever the clock, an expression without a rounding
leads to the same result in both directions, refusals included. And if no shift by months
or years comes after a rounding, the instant that it is rounded down to is not after the
one that it is rounded up to, wherever there are both. -/
theorem resolve_down_le_up (now : Instant) (expression : String) :
    ((∀ step ∈ steps now expression, step.rounds = false) →
      resolve now .down expression = resolve now .up expression) ∧
    (Step.MonthsFirst (steps now expression) → ∀ first last,
      resolve now .down expression = .ok first → resolve now .up expression = .ok last →
      first ≤ last) := by
  rw [resolve_eq, resolve_eq, steps]
  cases anchor? now (core expression) with
  | none =>
    refine ⟨fun _ => rfl, ?_⟩
    intro _ first last hdown
    cases hdown
  | some start =>
    obtain ⟨t, text⟩ := start
    constructor
    · intro hsteps
      have hrun : Step.runText .down t text = Step.runText .up t text := by
        simp only [Step.runText, Step.foldlM_eq_of_not_rounds hsteps]
      exact congrArg (Except.mapError _) hrun
    · intro hsteps first last hdown hup
      obtain ⟨_, hdown⟩ := Step.runText_eq_ok_iff.mp (mapError_eq_ok_iff.mp hdown)
      obtain ⟨_, hup⟩ := Step.runText_eq_ok_iff.mp (mapError_eq_ok_iff.mp hup)
      exact Step.foldlM_down_le_up hsteps hdown hup

/-- A month and half a minute before 1970, to the hour and then to the week a day and a
half later: the hour is the one after, and the week starts with December. -/
theorem down_le_up_december1969 :
    Step.MonthsFirst (steps .epoch "now-1M-30s/h+36h/w") ∧
      (∀ step ∈ steps .epoch "now-1M+36h", step.rounds = false) ∧
      resolve .epoch .down "now-1M+36h" = resolve .epoch .up "now-1M+36h" ∧
      ∃ first last, resolve .epoch .down "now-1M-30s/h+36h/w" = .ok first ∧
        resolve .epoch .up "now-1M-30s/h+36h/w" = .ok last ∧
        first.seconds = -2678400 ∧ last.seconds = -2073601 ∧ first ≤ last := by
  have hmonths : Step.MonthsFirst (steps .epoch "now-1M-30s/h+36h/w") := by decide +kernel
  have hplain : ∀ step ∈ steps .epoch "now-1M+36h", step.rounds = false := by decide +kernel
  have hdown : resolve .epoch .down "now-1M-30s/h+36h/w" =
      .ok ⟨-2678400, 0, by decide, by decide, by decide⟩ := by decide +kernel
  have hup : resolve .epoch .up "now-1M-30s/h+36h/w" =
      .ok ⟨-2073601, 999000000, by decide, by decide, by decide⟩ := by decide +kernel
  exact ⟨hmonths, hplain, (resolve_down_le_up .epoch _).1 hplain, _, _, hdown, hup, rfl, rfl,
    (resolve_down_le_up .epoch _).2 hmonths _ _ hdown hup⟩

end TimeExpression

end DruidPanels
