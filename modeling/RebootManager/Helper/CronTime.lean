/-
# RebootManager.Helper.CronTime -- when the deferred reboot is due (cyclic_reboot.c)

`compute_cron_time` adds a minute and the pause to the local time with two loops: the first one borrows
hours while the minutes are below zero, the second one carries hours while there are sixty or more. The
minutes are not bounded, so neither is the number of turns; the hour wraps on the way. Each turn keeps the
minute of the day up to whole days (`ShowsTime.borrow`, `ShowsTime.carry`), and so does the sum of both
loops (`computeCronTime_modEq`).
-/
import RebootManager.Foundation.WhileLoop
import RebootManager.Helper.CyclicReboot

namespace RebootManager

open Foundation

/-! ## The two loops -/

/-- `while (mn < 0) { mn += 60; hr -= 1; if (hr < 0) hr = 23; }` on `(mn, hr)`. -/
def borrowLoop : WhileLoop (Int × Int) where
  guard s := s.1 < 0
  body s := (s.1 + 60, if s.2 - 1 < 0 then 23 else s.2 - 1)

/-- `while (mn >= 60) { mn -= 60; hr += 1; if (hr > 23) hr = 0; }` -/
def carryLoop : WhileLoop (Int × Int) where
  guard s := s.1 ≥ 60
  body s := (s.1 - 60, if s.2 + 1 > 23 then 0 else s.2 + 1)

theorem turns_borrowLoop (n : Nat) (mn hr : Int) : borrowLoop.turns n (mn, hr) = borrowHours n mn hr := by
  induction n generalizing mn hr with
  | zero => rfl
  | succ n ih =>
    rw [WhileLoop.turns, borrowHours, ← ih]
    simp [borrowLoop]

theorem turns_carryLoop (n : Nat) (mn hr : Int) : carryLoop.turns n (mn, hr) = carryHours n mn hr := by
  induction n generalizing mn hr with
  | zero => rfl
  | succ n ih =>
    rw [WhileLoop.turns, carryHours, ← ih]
    simp [carryLoop]

/-! ## One turn -/

/-- Minutes since midnight, where hour and minute are in range. -/
def minuteOfDay (s : Int × Int) : Int := 60 * s.2 + s.1

/-- The hour is in range, and with the minutes it is the time `total`, up to whole days. -/
structure ShowsTime (total : Int) (s : Int × Int) : Prop where
  hour : 0 ≤ s.2 ∧ s.2 < 24
  minutes : minuteOfDay s ≡ total [ZMOD 1440]

section Turn

variable {total : Int} {s : Int × Int}

/-- A number of whole days more or less is the same time. -/
theorem ShowsTime.of_days {mn hr : Int} (h : ShowsTime total s) (hhour : 0 ≤ hr ∧ hr < 24) (days : Int)
    (hdays : 60 * hr + mn = 60 * s.2 + s.1 + 1440 * days) : ShowsTime total (mn, hr) := by
  refine ⟨hhour, ?_⟩
  have hshift : minuteOfDay (mn, hr) = minuteOfDay s + 1440 * days := hdays
  rw [hshift]
  exact Int.add_modulus_mul_modEq_iff.mpr h.minutes

/-- An hour less and sixty minutes more, a day more where the hour wraps. -/
theorem ShowsTime.borrow (h : ShowsTime total s) : ShowsTime total (borrowLoop.body s) := by
  obtain ⟨hlow, hhigh⟩ := h.hour
  by_cases hwraps : s.2 - 1 < 0
  · -- back over midnight
    have hbody : borrowLoop.body s = (s.1 + 60, 23) := Prod.ext rfl (if_pos hwraps)
    rw [hbody]
    exact h.of_days (by omega) 1 (by omega)
  · have hbody : borrowLoop.body s = (s.1 + 60, s.2 - 1) := Prod.ext rfl (if_neg hwraps)
    rw [hbody]
    exact h.of_days (by omega) 0 (by omega)

/-- An hour more and sixty minutes less, a day less where the hour wraps. -/
theorem ShowsTime.carry (h : ShowsTime total s) : ShowsTime total (carryLoop.body s) := by
  obtain ⟨hlow, hhigh⟩ := h.hour
  by_cases hwraps : s.2 + 1 > 23
  · -- over midnight
    have hbody : carryLoop.body s = (s.1 - 60, 0) := Prod.ext rfl (if_pos hwraps)
    rw [hbody]
    exact h.of_days (by omega) (-1) (by omega)
  · have hbody : carryLoop.body s = (s.1 - 60, s.2 + 1) := Prod.ext rfl (if_neg hwraps)
    rw [hbody]
    exact h.of_days (by omega) 0 (by omega)

theorem guard_borrowLoop : borrowLoop.guard s = true ↔ s.1 < 0 := decide_eq_true_iff

theorem guard_carryLoop : carryLoop.guard s = true ↔ s.1 ≥ 60 := decide_eq_true_iff

end Turn

/-! ## The loops -/

section Loops

variable {mn hr total : Int} {t : Int × Int}

/-- The first loop ends: every turn brings the minutes nearer to zero. -/
theorem ends_borrowLoop (mn hr : Int) : borrowLoop.Ends (mn, hr) (borrowHours mn.natAbs mn hr) := by
  rw [← turns_borrowLoop]
  refine WhileLoop.ends_turns (fun s => (-s.1).toNat) (fun s hguard => ?_) ?_
  · rw [guard_borrowLoop] at hguard
    show (-(s.1 + 60)).toNat < (-s.1).toNat
    omega
  · show (-mn).toNat ≤ mn.natAbs
    omega

/-- So does the second one. -/
theorem ends_carryLoop (mn hr : Int) : carryLoop.Ends (mn, hr) (carryHours mn.natAbs mn hr) := by
  rw [← turns_carryLoop]
  refine WhileLoop.ends_turns (fun s => s.1.toNat) (fun s hguard => ?_) ?_
  · rw [guard_carryLoop] at hguard
    show (s.1 - 60).toNat < s.1.toNat
    omega
  · show mn.toNat ≤ mn.natAbs
    omega

theorem ShowsTime.borrowLoop_ends {s : Int × Int} (h : ShowsTime total s) (hends : borrowLoop.Ends s t) :
    ShowsTime total t ∧ 0 ≤ t.1 := by
  obtain ⟨hvisits, hguard⟩ := WhileLoop.ends_iff.mp hends
  refine ⟨hvisits.invariant (fun s hs _ => hs.borrow) h, ?_⟩
  rw [← Bool.not_eq_true, guard_borrowLoop] at hguard
  omega

/-- The second loop keeps the minutes from zero on, which the first one has brought about. -/
theorem ShowsTime.carryLoop_ends {s : Int × Int} (h : ShowsTime total s) (hminutes : 0 ≤ s.1)
    (hends : carryLoop.Ends s t) : ShowsTime total t ∧ 0 ≤ t.1 ∧ t.1 < 60 := by
  obtain ⟨hvisits, hguard⟩ := WhileLoop.ends_iff.mp hends
  -- a turn takes sixty of at least sixty minutes
  have hlow : 0 ≤ t.1 := by
    refine hvisits.invariant (I := fun s => 0 ≤ s.1) (fun s _ hturn => ?_) hminutes
    rw [guard_carryLoop] at hturn
    show 0 ≤ s.1 - 60
    omega
  rw [← Bool.not_eq_true, guard_carryLoop] at hguard
  exact ⟨hvisits.invariant (fun s hs _ => hs.carry) h, hlow, by omega⟩

/-- In the first loop the minutes stay where they began or come below an hour, -/
theorem visits_borrowLoop (h : borrowLoop.Visits (mn, hr) t) : mn ≤ t.1 ∧ (t.1 = mn ∨ t.1 < 60) := by
  refine h.invariant (I := fun s => mn ≤ s.1 ∧ (s.1 = mn ∨ s.1 < 60)) (fun s hs hguard => ?_)
    ⟨Int.le_refl mn, Or.inl rfl⟩
  rw [guard_borrowLoop] at hguard
  show mn ≤ s.1 + 60 ∧ (s.1 + 60 = mn ∨ s.1 + 60 < 60)
  omega

/-- and in the second one they go down, but not below zero. -/
theorem visits_carryLoop (hminutes : 0 ≤ mn) (h : carryLoop.Visits (mn, hr) t) : 0 ≤ t.1 ∧ t.1 ≤ mn := by
  refine h.invariant (I := fun s => 0 ≤ s.1 ∧ s.1 ≤ mn) (fun s hs hguard => ?_)
    ⟨hminutes, Int.le_refl mn⟩
  rw [guard_carryLoop] at hguard
  show 0 ≤ s.1 - 60 ∧ s.1 - 60 ≤ mn
  omega

end Loops

/-! ## The time of the cron entry -/

/-- The range of `int`. -/
def IsInt (v : Int) : Prop := -2 ^ 31 ≤ v ∧ v < 2 ^ 31

section CronTime

variable {env : HelperEnv} {addMinutes : Int} {mid out : Int × Int}

/-- Minute and hour in front of the first loop. -/
def cronStart (env : HelperEnv) (addMinutes : Int) : Int × Int :=
  ((env.localMin.val : Int) + 1 + addMinutes, env.localHour.val)

theorem ends_computeCronTime (env : HelperEnv) (addMinutes : Int) :
    ∃ mid, borrowLoop.Ends (cronStart env addMinutes) mid ∧
      carryLoop.Ends mid (computeCronTime env addMinutes) :=
  ⟨_, ends_borrowLoop _ _, ends_carryLoop _ _⟩

/-- Where the two loops end, that is the time. -/
theorem computeCronTime_of_ends (hborrow : borrowLoop.Ends (cronStart env addMinutes) mid)
    (hcarry : carryLoop.Ends mid out) : computeCronTime env addMinutes = out := by
  obtain ⟨mid', hborrow', hcarry'⟩ := ends_computeCronTime env addMinutes
  obtain rfl := hborrow'.unique hborrow
  exact hcarry'.unique hcarry

theorem showsTime_cronStart (env : HelperEnv) (addMinutes : Int) :
    ShowsTime (60 * env.localHour.val + env.localMin.val + 1 + addMinutes) (cronStart env addMinutes) := by
  have hhour := env.localHour.isLt
  refine ⟨⟨by show 0 ≤ (env.localHour.val : Int); omega, by show (env.localHour.val : Int) < 24; omega⟩, ?_⟩
  have hsum : minuteOfDay (cronStart env addMinutes)
      = 60 * env.localHour.val + env.localMin.val + 1 + addMinutes := by
    show 60 * (env.localHour.val : Int) + (env.localMin.val + 1 + addMinutes) = _
    omega
  rw [hsum]

/-- Only the sum in front of the loops can leave the range of `int`. -/
theorem isInt_of_visits (hsum : IsInt (cronStart env addMinutes).1) :
    (∀ s, borrowLoop.Visits (cronStart env addMinutes) s → IsInt s.1) ∧
      ∀ mid, borrowLoop.Ends (cronStart env addMinutes) mid → ∀ s, carryLoop.Visits mid s → IsInt s.1 := by
  have hborrow : ∀ s, borrowLoop.Visits (cronStart env addMinutes) s → IsInt s.1 := by
    intro s hvisits
    obtain ⟨hlow, hhigh⟩ := visits_borrowLoop hvisits
    have hsumhigh : (env.localMin.val : Int) + 1 + addMinutes < 2 ^ 31 := hsum.2
    exact ⟨Int.le_trans hsum.1 hlow, by omega⟩
  refine ⟨hborrow, fun mid hends s hvisits => ?_⟩
  have hmid := hborrow mid (WhileLoop.ends_iff.mp hends).1
  have hpositive := ((showsTime_cronStart env addMinutes).borrowLoop_ends hends).2
  obtain ⟨hlow, hhigh⟩ := visits_carryLoop hpositive hvisits
  exact ⟨by omega, Int.lt_of_le_of_lt hhigh hmid.2⟩

/-- **The cron entry is due `addMinutes` and one minute from now**, up to whole days: both loops end, with
hour and minute in range. -/
theorem computeCronTime_modEq (env : HelperEnv) (addMinutes : Int) :
    (∃ mid, borrowLoop.Ends (cronStart env addMinutes) mid ∧
      carryLoop.Ends mid (computeCronTime env addMinutes)) ∧
    (0 ≤ (computeCronTime env addMinutes).1 ∧ (computeCronTime env addMinutes).1 ≤ 59) ∧
    (0 ≤ (computeCronTime env addMinutes).2 ∧ (computeCronTime env addMinutes).2 ≤ 23) ∧
    60 * (computeCronTime env addMinutes).2 + (computeCronTime env addMinutes).1
      ≡ 60 * env.localHour.val + env.localMin.val + 1 + addMinutes [ZMOD 1440] := by
  obtain ⟨mid, hborrow, hcarry⟩ := ends_computeCronTime env addMinutes
  obtain ⟨hmid, hpositive⟩ := (showsTime_cronStart env addMinutes).borrowLoop_ends hborrow
  obtain ⟨hend, hlow, hhigh⟩ := hmid.carryLoop_ends hpositive hcarry
  obtain ⟨hhourlow, hhourhigh⟩ := hend.hour
  exact ⟨⟨mid, hborrow, hcarry⟩, ⟨hlow, by omega⟩, ⟨hhourlow, by omega⟩, hend.minutes⟩

end CronTime

end RebootManager
