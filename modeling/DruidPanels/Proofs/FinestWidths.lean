import DruidPanels.Proofs.PlannedBuckets
import Mathlib.Data.Rat.Floor

/-! # Finest widths

Of the widths whose buckets fit a budget of points the one with the shortest buckets is
chosen, and days if there is none (`IsFinest`). Such a choice can only become finer where
more widths fit, so it becomes no coarser when a budget is raised or removed, and no finer
when the range gets longer. Sixty-four bits hold every number on the way to it, whatever
the instants and the budget (`finest_isFinest`). -/

namespace DruidPanels

/-! ## Budgets -/

namespace PointBudget

/-- So many points are within the budget. -/
def Allows (budget : Option Nat) (points : Int) : Prop := ∀ most ∈ budget, points ≤ (most : Int)

/-- The second budget is the first one, raised or removed. -/
inductive Loosens : Option Nat → Option Nat → Prop
  | raised {budget more : Nat} (h : budget ≤ more) : Loosens (some budget) (some more)
  | removed (budget : Option Nat) : Loosens budget none

theorem allows_smaller_iff (panel target : Option Nat) (points : Int) :
    Allows (smaller panel target) points ↔ Allows panel points ∧ Allows target points := by
  unfold Allows smaller
  cases panel with
  | none => simp
  | some most =>
    cases target with
    | none => simp
    | some other =>
      simp only [Option.mem_some_iff, forall_eq']
      omega

theorem Loosens.allows {budget budget' : Option Nat} (h : Loosens budget budget') {points : Int}
    (hallows : Allows budget points) : Allows budget' points := by
  cases h with
  | raised hle =>
    intro most hmost
    have hpoints := hallows _ rfl
    cases hmost
    omega
  | removed => nofun

end PointBudget

namespace BucketWidth

open PointBudget (Allows Loosens smaller)

/-! ## The table of widths -/

theorem mem_all (w : BucketWidth) : w ∈ all := by cases w <;> decide

theorem pairwise_all : all.Pairwise fun v w => v.seconds < w.seconds := by decide

theorem minute_le_seconds (w : BucketWidth) : minute.seconds ≤ w.seconds := by
  cases w <;> decide

theorem seconds_le_day (w : BucketWidth) : w.seconds ≤ day.seconds := by cases w <;> decide

/-- The width has the shortest buckets of those that fit, or it is that of days and none
fits. -/
structure IsFinest (fits : BucketWidth → Prop) (w : BucketWidth) : Prop where
  fits_or_day : fits w ∨ w = .day ∧ ∀ v, ¬ fits v
  least : ∀ v, fits v → w.seconds ≤ v.seconds

/-- Where more widths fit, the finest is no coarser. -/
theorem IsFinest.seconds_le {fits more : BucketWidth → Prop} {w v : BucketWidth}
    (hw : IsFinest fits w) (hv : IsFinest more v) (h : ∀ u, fits u → more u) :
    v.seconds ≤ w.seconds := by
  rcases hw.fits_or_day with hfits | ⟨hday, _⟩
  · exact hv.least w (h w hfits)
  · rw [hday]
    exact v.seconds_le_day

theorem isFinest_find? (fits : BucketWidth → Prop) [DecidablePred fits] :
    IsFinest fits ((all.find? fun w => fits w).getD .day) := by
  cases hfound : all.find? fun w => fits w with
  | none =>
    have hnone : ∀ v, ¬ fits v := fun v hv =>
      List.find?_eq_none.mp hfound v v.mem_all (decide_eq_true hv)
    exact ⟨.inr ⟨rfl, hnone⟩, fun v hv => absurd hv (hnone v)⟩
  | some w =>
    obtain ⟨hfits, before, after, hall, hbefore⟩ := List.find?_eq_some_iff_append.mp hfound
    refine ⟨.inl (of_decide_eq_true hfits), fun v hv => ?_⟩
    -- a width that fits is none of those before, and those after have longer buckets
    have hsorted := pairwise_all
    have hmem := v.mem_all
    rw [hall] at hsorted hmem
    rcases List.mem_append.mp hmem with hv' | hv'
    · have hnot := hbefore v hv'
      simp [hv] at hnot
    · rcases List.mem_cons.mp hv' with hsame | hafter
      · exact Int.le_of_eq (congrArg seconds hsame.symm)
      · have hcons := (List.pairwise_append.mp hsorted).2.1
        exact Int.le_of_lt ((List.pairwise_cons.mp hcons).1 v hafter)

/-! ## Buckets that a range needs -/

/-- The whole seconds from one instant to another; none if it lies before. -/
def span (start stop : Instant) : Int := max 0 (stop.seconds - start.seconds)

theorem span_le_span {start start' stop stop' : Instant} (hstart : start' ≤ start)
    (hstop : stop ≤ stop') : span start stop ≤ span start' stop' := by
  have hfrom := Instant.seconds_le_of_le hstart
  have hto := Instant.seconds_le_of_le hstop
  unfold span
  omega

/-- The buckets of a width that cover the seconds of a range are within the budget. -/
def Fits (start stop : Instant) (budget : Option Nat) (w : BucketWidth) : Prop :=
  Allows budget ⌈(span start stop : ℚ) / w.seconds⌉

theorem bucketsFor_eq_ceil (w : BucketWidth) (interval : Int) :
    w.bucketsFor interval = ⌈(interval : ℚ) / w.seconds⌉ := by
  have hseconds : (0 : ℚ) < w.seconds := Int.cast_pos.mpr w.seconds_pos
  refine eq_of_forall_ge_iff fun count => ?_
  rw [bucketsFor_le_iff, Int.ceil_le, div_le_iff₀ hseconds]
  exact_mod_cast Iff.rfl

theorem fits_some_iff {start stop : Instant} {budget : Nat} {w : BucketWidth} :
    Fits start stop (some budget) w ↔ w.bucketsFor (span start stop) ≤ (budget : Int) := by
  simp only [Fits, Allows, Option.mem_some_iff, forall_eq', bucketsFor_eq_ceil]

theorem isFinest_finest (start stop : Instant) (budget : Option Nat) :
    IsFinest (Fits start stop budget) (finest start stop budget) := by
  cases budget with
  | none => exact ⟨.inl nofun, fun v _ => v.minute_le_seconds⟩
  | some budget =>
    have hsame : Fits start stop (some budget) =
        fun w => w.bucketsFor (span start stop) ≤ (budget : Int) :=
      funext fun w => propext fits_some_iff
    rw [hsame]
    exact isFinest_find? _

theorem Fits.lengthen {start start' stop stop' : Instant} {budget : Option Nat} {w : BucketWidth}
    (hstart : start' ≤ start) (hstop : stop ≤ stop') (h : Fits start' stop' budget w) :
    Fits start stop budget w := by
  cases budget with
  | none => nofun
  | some budget =>
    have hspan := span_le_span hstart hstop
    rw [fits_some_iff, bucketsFor_le_iff] at h ⊢
    omega

/-! ## Sixty-four bits -/

/-- The buckets of a width, with every number on the way held to sixty-four bits. -/
def heldBuckets? (w : BucketWidth) (interval : Int) : Option Int := do
  let reached ← Word.held? (interval + w.seconds)
  let last ← Word.held? (reached - 1)
  Word.held? (last / w.seconds)

/-- The first of these widths that needs no more buckets than `most`, or days. -/
def heldSearch? (interval most : Int) : List BucketWidth → Option BucketWidth
  | [] => some .day
  | w :: rest => do
    let buckets ← heldBuckets? w interval
    if buckets ≤ most then some w else heldSearch? interval most rest

/-- The width that is chosen, with every number on the way held to sixty-four bits. A
budget that is too large for them is the greatest number that is not. -/
def heldFinest? (start stop : Instant) (budget : Option Nat) : Option BucketWidth := do
  let seconds ← Word.held? (stop.seconds - start.seconds)
  match budget with
  | none => some .minute
  | some budget => heldSearch? (max 0 seconds) ((Word.held? budget).getD Word.greatest) all

theorem span_bounds (start stop : Instant) :
    0 ≤ span start stop ∧ span start stop ≤ Instant.lastSecond - Instant.firstSecond := by
  have hfirst := start.firstSecond_le
  have hlast := stop.le_lastSecond
  simp only [span, Instant.firstSecond, Instant.lastSecond] at *
  omega

theorem heldBuckets?_eq {w : BucketWidth} {interval : Int} (hnonneg : 0 ≤ interval)
    (hle : interval ≤ Instant.lastSecond - Instant.firstSecond) :
    heldBuckets? w interval = some (w.bucketsFor interval) ∧
      w.bucketsFor interval ≤ Word.greatest := by
  have hpos := w.seconds_pos
  have hday : w.seconds ≤ 86400 := w.seconds_le_day
  simp only [Instant.firstSecond, Instant.lastSecond] at hle
  have hheld {n : Int} (h : n.natAbs ≤ 16544868191999) : Word.held? n = some n :=
    Word.held?_eq_some (by simp only [Word.least]; omega) (by simp only [Word.greatest]; omega)
  have hbuckets := Int.natAbs_ediv_le_natAbs (interval + w.seconds - 1) w.seconds
  have hcount : (w.bucketsFor interval).natAbs ≤ 16544868191999 := by
    unfold bucketsFor
    omega
  constructor
  · change (Word.held? (interval + w.seconds)).bind _ = _
    rw [hheld (n := interval + w.seconds) (by omega), Option.bind_some]
    change (Word.held? (interval + w.seconds - 1)).bind _ = _
    rw [hheld (n := interval + w.seconds - 1) (by omega), Option.bind_some]
    exact hheld hcount
  · simp only [Word.greatest]
    omega

theorem heldSearch?_eq {interval : Int} (hnonneg : 0 ≤ interval)
    (hle : interval ≤ Instant.lastSecond - Instant.firstSecond) (budget : Nat)
    (widths : List BucketWidth) :
    heldSearch? interval ((Word.held? budget).getD Word.greatest) widths =
      some ((widths.find? fun w => w.bucketsFor interval ≤ (budget : Int)).getD .day) := by
  induction widths with
  | nil => rfl
  | cons w rest ih =>
    obtain ⟨hbuckets, hgreatest⟩ := heldBuckets?_eq (w := w) hnonneg hle
    -- a budget beyond sixty-four bits has room for any count within them
    have hmost : w.bucketsFor interval ≤ (Word.held? budget).getD Word.greatest ↔
        w.bucketsFor interval ≤ (budget : Int) := by
      unfold Word.held?
      split
      · exact Iff.rfl
      · next hlarge =>
        rw [Word.fits_iff] at hlarge
        simp only [Option.getD_none, Word.least, Word.greatest] at *
        omega
    rw [heldSearch?, hbuckets, List.find?_cons]
    show (if _ then _ else _) = _
    rw [ih]
    by_cases hfits : w.bucketsFor interval ≤ (budget : Int)
    · rw [if_pos (hmost.mpr hfits), decide_eq_true hfits, Option.getD_some]
    · rw [if_neg fun h => hfits (hmost.mp h), decide_eq_false hfits]

theorem heldFinest?_eq (start stop : Instant) (budget : Option Nat) :
    heldFinest? start stop budget = some (finest start stop budget) := by
  obtain ⟨hnonneg, hle⟩ := span_bounds start stop
  have hseconds : Word.held? (stop.seconds - start.seconds) =
      some (stop.seconds - start.seconds) := by
    have hstart := start.le_lastSecond
    have hstop := stop.firstSecond_le
    simp only [Instant.firstSecond, Instant.lastSecond] at hstart hstop
    simp only [span, Instant.firstSecond, Instant.lastSecond] at hle
    refine Word.held?_eq_some ?_ ?_
    · simp only [Word.least]
      omega
    · simp only [Word.greatest]
      omega
  rw [heldFinest?, hseconds]
  cases budget with
  | none => rfl
  | some budget => exact heldSearch?_eq hnonneg hle budget all

/-! ## The choice -/

/-- **The finest width that fits is chosen, and a looser budget or a shorter range never
makes it coarser.** Whatever a panel and its target allow, a count is within the budget of
both exactly if it is within either one. Between any two instants the width that is chosen
is the finest of those whose buckets, a part of one counted in full, are within that
budget, or days if there is none, and sixty-four bits hold every number on the way to it.
To raise or remove either budget never gives a coarser width, and to move the start back
or the end on never gives a finer one. -/
theorem finest_isFinest (start stop : Instant) (panel target : Option Nat) :
    let budget := smaller panel target
    (∀ points, Allows budget points ↔ Allows panel points ∧ Allows target points) ∧
      IsFinest (Fits start stop budget) (finest start stop budget) ∧
      heldFinest? start stop budget = some (finest start stop budget) ∧
      (∀ panel' target', Loosens panel panel' → Loosens target target' →
        (finest start stop (smaller panel' target')).seconds ≤
          (finest start stop budget).seconds) ∧
      ∀ start' stop' : Instant, start' ≤ start → stop ≤ stop' →
        (finest start stop budget).seconds ≤ (finest start' stop' budget).seconds := by
  intro budget
  have hfinest := isFinest_finest start stop budget
  refine ⟨PointBudget.allows_smaller_iff panel target, hfinest,
    heldFinest?_eq start stop budget, ?_, ?_⟩
  · intro panel' target' hpanel htarget
    refine hfinest.seconds_le (isFinest_finest start stop _) fun w hw => ?_
    obtain ⟨hw, hw'⟩ := (PointBudget.allows_smaller_iff _ _ _).mp hw
    exact (PointBudget.allows_smaller_iff _ _ _).mpr ⟨hpanel.allows hw, htarget.allows hw'⟩
  · intro start' stop' hstart hstop
    exact (isFinest_finest start' stop' budget).seconds_le hfinest fun w => .lengthen hstart hstop

/-- Two minutes take one quarter of an hour. So quarters are chosen for one point, whatever
else the target allows, and minutes where only the target has a budget. -/
theorem finest_twoMinutes :
    let budget := smaller (some 1) (some (Word.size - 1))
    let range := Window.twoMinutes
    finest range.start range.stop budget = .fifteenMinutes ∧
      heldFinest? range.start range.stop budget = some .fifteenMinutes ∧
      Loosens (some 1) none ∧ Loosens (some (Word.size - 1)) (some Word.size) ∧
      (finest range.start range.stop (smaller none (some Word.size))).seconds ≤
        fifteenMinutes.seconds ∧
      range.start ≤ .epoch ∧ Instant.epoch ≤ range.stop ∧
      (finest .epoch .epoch budget).seconds ≤ fifteenMinutes.seconds := by
  intro budget range
  have hchosen : finest range.start range.stop budget = .fifteenMinutes := by decide
  have hraised : Loosens (some (Word.size - 1)) (some Word.size) := .raised (Nat.sub_le _ _)
  have hstart : range.start ≤ .epoch := .inl (by decide)
  have hstop : Instant.epoch ≤ range.stop := .inl (by decide)
  obtain ⟨_, _, hheld, hloosen, _⟩ :=
    finest_isFinest range.start range.stop (some 1) (some (Word.size - 1))
  obtain ⟨_, _, _, _, hlengthen⟩ :=
    finest_isFinest .epoch .epoch (some 1) (some (Word.size - 1))
  have hlooser := hloosen none (some Word.size) (.removed _) hraised
  have hlonger := hlengthen range.start range.stop hstart hstop
  change heldFinest? _ _ budget = some (finest _ _ budget) at hheld
  change _ ≤ (finest _ _ budget).seconds at hlooser hlonger
  rw [hchosen] at hheld hlooser hlonger
  exact ⟨hchosen, hheld, .removed _, hraised, hlooser, hstart, hstop, hlonger⟩

end BucketWidth

end DruidPanels
