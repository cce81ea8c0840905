/-
# RebootManager.Helper.CyclicReboot -- reboot-loop detection (cyclic_reboot.c)

`handle_cyclic_reboot` decides whether a requested reboot goes ahead. It compares the request with the
record of the previous one, counts repetitions in /opt/secure/reboot/rebootCounter, and at the
threshold arms stop mode: the rebootStop flag, `RebootStop.Enable`, and a cron entry that reboots later.

`handleCyclicReboot` is the function as it stands. `cyclicBranch` names the branch it takes, by what
the function logs there, and `handleCyclicReboot_eq` splits the function into that decision and
`CyclicBranch.act`, so that later proofs are by cases on the branch and never unfold the function again.
-/
import RebootManager.Platform.RebootInfo
import RebootManager.Helper.Rfc

namespace RebootManager

open Foundation

/-! ## Small files -/

/-- `read_rebootcounter`: what `*out` is afterwards. -/
def readRebootcounter (io : Io File) (d : Device) : Int :=
  if io.canRead .rebootCounterFile then
    match (d.files .rebootCounterFile).bind scanLong with
    | some v => toInt v
    | none => 0
  else 0

/-- `write_rebootcounter`. -/
def writeRebootcounter (io : Io File) (v : Int) : DeviceProg Unit :=
  writeFile io .rebootCounterFile (decimalInt v ++ ['\n'])

/-- `read_previous_reboot_info`. -/
def readPreviousRebootInfo (io : Io File) (d : Device) : Option Cause :=
  (io.read .previousRebootInfoFile 4095 d.files).bind parsePreviousRebootInfo

/-! ## The cron entry -/

/-- The first loop of `compute_cron_time`, with as many rounds as minutes are missing. -/
def borrowHours : Nat → Int → Int → Int × Int
  | 0, mn, hr => (mn, hr)
  | rounds + 1, mn, hr =>
    if mn < 0 then borrowHours rounds (mn + 60) (if hr - 1 < 0 then 23 else hr - 1) else (mn, hr)

/-- The second loop of `compute_cron_time`. -/
def carryHours : Nat → Int → Int → Int × Int
  | 0, mn, hr => (mn, hr)
  | rounds + 1, mn, hr =>
    if mn ≥ 60 then carryHours rounds (mn - 60) (if hr + 1 > 23 then 0 else hr + 1) else (mn, hr)

/-- `compute_cron_time`: minute and hour, one minute and `addMinutes` from now. -/
def computeCronTime (env : HelperEnv) (addMinutes : Int) : Int × Int :=
  let mn := (env.localMin.val : Int) + 1 + addMinutes
  let (mn, hr) := borrowHours mn.natAbs mn env.localHour.val
  carryHours mn.natAbs mn hr

/-- `"%d %d * * *"`, cut to the 64 bytes of `cron`. -/
def cronTimeText (env : HelperEnv) (addMinutes : Int) : Bytes :=
  let (mn, hr) := computeCronTime env addMinutes
  snprintf 64 (decimalInt mn ++ [' '] ++ decimalInt hr ++ " * * *".toList)

/-- The job name of the cyclic reboot. -/
def cronJob : Bytes := "rebootnow".toList

/-- `cron_entry`: 256 bytes. -/
def cronEntry (env : HelperEnv) (stopDuration : Int) : CronEntry where
  job := cronJob
  line := snprintf 256 (cronTimeText env stopDuration ++
    " /usr/bin/rebootnow -s \"CyclicReboot\" -o \"Rebooting device after expiry of Cyclic reboot pause window\"".toList)

/-- `sh /lib/rdk/cronjobs_update.sh ...`. -/
def cronjobsUpdate (env : HelperEnv) (op : DeviceOp) : DeviceProg Unit :=
  Prog.emitAll (if env.cronOk then [op] else [])

/-! ## handle_cyclic_reboot -/

/-- `REBOOT_WINDOW_SECS` -/
def rebootWindowSecs : Nat := 10 * 60

/-- `REBOOT_CYCLE_THRESHOLD` -/
def rebootCycleThreshold : Int := 5

/-- `detection_enabled`: true unless the parameter is read and says otherwise. -/
def detectionEnabled (d : Device) : Bool := (rfcGetBoolParam (d.rfc .rebootStopDetection)).getD true

/-- `stop_duration`, in minutes. -/
def stopDuration (d : Device) : Int :=
  match rfcGetIntParam (d.rfc .rebootStopDuration) with
  | some duration => if duration > 0 ∧ duration < 24 * 60 then duration else 30
  | none => 30

/-- The uptime is known and inside the window. -/
def withinWindow (env : HelperEnv) : Bool := env.uptime.any (· ≤ rebootWindowSecs)

/-- The `reboot_counter_reset` block. -/
def rebootCounterReset (env : HelperEnv) : DeviceProg Unit := do
  rfcSetBoolParam env .rebootStopEnable false
  writeRebootcounter env.io 0
  unlinkFile .rebootStopFlag
  cronjobsUpdate env (.cronRemove cronJob)

/-- What is done when the count has reached the threshold. -/
def armStopMode (env : HelperEnv) (duration : Int) : DeviceProg Unit := do
  touchFile env.io .rebootStopFlag
  rfcSetBoolParam env .rebootStopEnable true
  cronjobsUpdate env (.cronRemove cronJob)
  cronjobsUpdate env (.cronAdd (cronEntry env duration))
  touchFile env.io .rebootNowFlag

/-- `handle_cyclic_reboot`: true for 1 (reboot now), false for 0 (defer). -/
def handleCyclicReboot (env : HelperEnv) (cause : Cause) : DeviceProg Bool := do
  let d ← Prog.get
  let duration := stopDuration d
  if d.exists .rebootNowFlag && detectionEnabled d then
    unlinkFile .rebootNowFlag
    let d ← Prog.get
    match readPreviousRebootInfo env.io d with
    | some previous =>
      if withinWindow env then
        if cause = previous then
          if d.exists .rebootStopFlag then
            touchFile env.io .rebootNowFlag
            return false
          else
            let count := readRebootcounter env.io d
            if count ≥ rebootCycleThreshold then
              armStopMode env duration
              return false
            else
              writeRebootcounter env.io (count + 1)
              return true
        else
          rebootCounterReset env
          return true
      else
        rebootCounterReset env
        return true
    | none =>
      rebootCounterReset env
      return true
  else
    return true

/-! ## The decision -/

/-- The ways through `handle_cyclic_reboot`, by the message each one logs. -/
inductive CyclicBranch where
  /-- "Last reboot was not triggered by rebootnow binary" -/
  | notRebootnow
  /-- "Reboot Loop Detection disabled to check cyclic reboot scenarios" -/
  | detectionDisabled
  /-- "... file not found, proceed without reboot reason check!!!" -/
  | noPreviousInfo
  /-- "Reboot requested after the 10 mins reboot loop window" -/
  | outsideWindow
  /-- "Reboot requested before the 10 mins reboot loop window with different reason" -/
  | differentReason
  /-- "Reboot Operation Halted in the device to avoid continuous reboots with same reason!!!" -/
  | halted
  /-- "Detected Reboot Loop in device, Halting reboot for next ... mins" -/
  | loopDetected
  /-- "Checking device is stuck in cyclic reboot loop ..., Current Iteration: count" -/
  | counted (count : Int)
  deriving DecidableEq

/-- The branch `handle_cyclic_reboot` takes from `d`. -/
def cyclicBranch (env : HelperEnv) (cause : Cause) (d : Device) : CyclicBranch :=
  if d.exists .rebootNowFlag = false then .notRebootnow
  else if detectionEnabled d = false then .detectionDisabled
  else
    match readPreviousRebootInfo env.io d with
    | none => .noPreviousInfo
    | some previous =>
      if withinWindow env = false then .outsideWindow
      else if cause ≠ previous then .differentReason
      else if d.exists .rebootStopFlag then .halted
      else
        let count := readRebootcounter env.io d
        if count ≥ rebootCycleThreshold then .loopDetected else .counted count

/-- The flag, the switch and the record that lead past the first tests. -/
def Compared (env : HelperEnv) (previous : Cause) (d : Device) : Prop :=
  d.exists .rebootNowFlag = true ∧ detectionEnabled d = true ∧
    readPreviousRebootInfo env.io d = some previous

namespace CyclicBranch

/-- What holds when a branch is taken. -/
def Taken (env : HelperEnv) (cause : Cause) (d : Device) : CyclicBranch → Prop
  | .notRebootnow => d.exists .rebootNowFlag = false
  | .detectionDisabled => d.exists .rebootNowFlag = true ∧ detectionEnabled d = false
  | .noPreviousInfo =>
    d.exists .rebootNowFlag = true ∧ detectionEnabled d = true ∧
      readPreviousRebootInfo env.io d = none
  | .outsideWindow => ∃ previous, Compared env previous d ∧ withinWindow env = false
  | .differentReason =>
    ∃ previous, Compared env previous d ∧ withinWindow env = true ∧ cause ≠ previous
  | .halted =>
    Compared env cause d ∧ withinWindow env = true ∧ d.exists .rebootStopFlag = true
  | .loopDetected =>
    Compared env cause d ∧ withinWindow env = true ∧ d.exists .rebootStopFlag = false ∧
      rebootCycleThreshold ≤ readRebootcounter env.io d
  | .counted count =>
    Compared env cause d ∧ withinWindow env = true ∧ d.exists .rebootStopFlag = false ∧
      count = readRebootcounter env.io d ∧ count < rebootCycleThreshold

/-- "Reboot Reason for current and previous reboot is same" has been logged. -/
def sameReason : CyclicBranch → Bool
  | .halted | .loopDetected | .counted _ => true
  | _ => false

/-- The return value. -/
def proceeds : CyclicBranch → Bool
  | .halted | .loopDetected => false
  | _ => true

/-- What is done after the rebootNow flag has been removed. -/
def act (env : HelperEnv) (duration : Int) : CyclicBranch → DeviceProg Unit
  | .notRebootnow | .detectionDisabled => pure ()
  | .noPreviousInfo | .outsideWindow | .differentReason => do
    unlinkFile .rebootNowFlag
    rebootCounterReset env
  | .halted => do
    unlinkFile .rebootNowFlag
    touchFile env.io .rebootNowFlag
  | .loopDetected => do
    unlinkFile .rebootNowFlag
    armStopMode env duration
  | .counted count => do
    unlinkFile .rebootNowFlag
    writeRebootcounter env.io (count + 1)

end CyclicBranch

/-- The branch taken is one whose conditions hold. -/
theorem taken_cyclicBranch (env : HelperEnv) (cause : Cause) (d : Device) :
    (cyclicBranch env cause d).Taken env cause d := by
  unfold cyclicBranch
  by_cases hnow : d.exists .rebootNowFlag = false
  · rw [if_pos hnow]
    exact hnow
  have hnow' : d.exists .rebootNowFlag = true := Bool.not_eq_false _ ▸ hnow
  rw [if_neg hnow]
  by_cases hdet : detectionEnabled d = false
  · rw [if_pos hdet]
    exact ⟨hnow', hdet⟩
  have hdet' : detectionEnabled d = true := Bool.not_eq_false _ ▸ hdet
  rw [if_neg hdet]
  cases hprev : readPreviousRebootInfo env.io d with
  | none => exact ⟨hnow', hdet', hprev⟩
  | some previous =>
    have hcompared : Compared env previous d := ⟨hnow', hdet', hprev⟩
    dsimp only
    split
    · rename_i hwin
      exact ⟨previous, hcompared, hwin⟩
    rename_i hwin
    have hwin' : withinWindow env = true := Bool.not_eq_false _ ▸ hwin
    split
    · rename_i hdiff
      exact ⟨previous, hcompared, hwin', hdiff⟩
    rename_i hsame
    obtain rfl : cause = previous := not_not.mp hsame
    split
    · rename_i hstop
      exact ⟨hcompared, hwin', hstop⟩
    rename_i hstop
    have hstop' : d.exists .rebootStopFlag = false := Bool.not_eq_true _ ▸ hstop
    split
    · rename_i hcount
      exact ⟨hcompared, hwin', hstop', hcount⟩
    · rename_i hcount
      exact ⟨hcompared, hwin', hstop', rfl, Int.not_le.mp hcount⟩

/-- "Same reason" is logged exactly when the record read back is the request's own cause, in time. -/
theorem sameReason_iff (env : HelperEnv) (cause : Cause) (d : Device) :
    (cyclicBranch env cause d).sameReason = true ↔
      Compared env cause d ∧ withinWindow env = true := by
  constructor
  · intro h
    have htaken := taken_cyclicBranch env cause d
    cases hb : cyclicBranch env cause d with
    | halted =>
      rw [hb] at htaken
      exact ⟨htaken.1, htaken.2.1⟩
    | loopDetected =>
      rw [hb] at htaken
      exact ⟨htaken.1, htaken.2.1⟩
    | counted count =>
      rw [hb] at htaken
      exact ⟨htaken.1, htaken.2.1⟩
    | _ =>
      rw [hb] at h
      cases h
  · rintro ⟨⟨hnow, hdet, hprev⟩, hwin⟩
    simp only [cyclicBranch, hnow, hdet, hprev, hwin, Bool.true_eq_false, if_false, ne_eq, not_true]
    split
    · rfl
    · split <;> rfl

/-! ### What `handle_cyclic_reboot` reads is not what it removes -/

section Unlinked

variable (d : Device)

theorem readPreviousRebootInfo_unlinkFile (io : Io File) :
    readPreviousRebootInfo io ((unlinkFile .rebootNowFlag).final d) = readPreviousRebootInfo io d := by
  simp [readPreviousRebootInfo, Io.read, Function.update_of_ne]

theorem exists_rebootStopFlag_unlinkFile :
    ((unlinkFile .rebootNowFlag).final d).exists .rebootStopFlag = d.exists .rebootStopFlag := by
  simp [Device.exists, Function.update_of_ne]

theorem readRebootcounter_unlinkFile (io : Io File) :
    readRebootcounter io ((unlinkFile .rebootNowFlag).final d) = readRebootcounter io d := by
  simp [readRebootcounter, Function.update_of_ne]

end Unlinked

/-- `handle_cyclic_reboot` does what its branch does, and returns what its branch returns. -/
theorem handleCyclicReboot_eq (env : HelperEnv) (cause : Cause) (d : Device) :
    (handleCyclicReboot env cause).ops d
        = ((cyclicBranch env cause d).act env (stopDuration d)).ops d ∧
      (handleCyclicReboot env cause).result d = (cyclicBranch env cause d).proceeds := by
  have hnone := readPreviousRebootInfo_unlinkFile d env.io
  unfold handleCyclicReboot cyclicBranch
  simp only [Prog.ops_bind, Prog.result_bind, Prog.ops_get, Prog.result_get, Prog.final_get,
    List.nil_append]
  by_cases hnow : d.exists .rebootNowFlag
  case neg => simp [hnow, CyclicBranch.act, CyclicBranch.proceeds]
  by_cases hdet : detectionEnabled d
  case neg => simp [hnow, hdet, CyclicBranch.act, CyclicBranch.proceeds]
  simp only [hnow, hdet, Bool.and_self, if_true, Prog.ops_bind, Prog.result_bind, Prog.ops_get,
    Prog.result_get, Prog.final_get, hnone]
  cases hprev : readPreviousRebootInfo env.io d with
  | none => simp [CyclicBranch.act, CyclicBranch.proceeds]
  | some previous =>
    by_cases hwin : withinWindow env
    case neg => simp [hwin, CyclicBranch.act, CyclicBranch.proceeds]
    by_cases hsame : cause = previous
    case neg => simp [hwin, hsame, CyclicBranch.act, CyclicBranch.proceeds]
    simp only [hwin, hsame, if_true, exists_rebootStopFlag_unlinkFile, readRebootcounter_unlinkFile]
    by_cases hstop : d.exists .rebootStopFlag
    · simp [hstop, CyclicBranch.act, CyclicBranch.proceeds]
    · by_cases hcount : readRebootcounter env.io d ≥ rebootCycleThreshold
      · simp [hstop, hcount, CyclicBranch.act, CyclicBranch.proceeds]
      · simp [hstop, hcount, CyclicBranch.act, CyclicBranch.proceeds]

/-! ## What the branches leave -/

section Final

variable {env : HelperEnv}

theorem final_cronjobsUpdate (h : env.Ok) (op : DeviceOp) (d : Device) :
    (cronjobsUpdate env op).final d = op.run d := by
  rw [cronjobsUpdate, if_pos h.cron]
  rfl

/-- The reset block: stop mode off, counter back to zero, no cyclic cron entry. -/
theorem final_rebootCounterReset (h : env.Ok) (d : Device) :
    (rebootCounterReset env).final d =
      DeviceOp.run (.cronRemove cronJob)
        (((d.setRfc .rebootStopEnable "false".toList).setFile .rebootCounterFile
          (some (decimalInt 0 ++ ['\n']))).setFile .rebootStopFlag none) := by
  simp [rebootCounterReset, writeRebootcounter, final_cronjobsUpdate h, final_rfcSetBoolParam h,
    final_writeFile h.io]

/-- Stop mode armed: flag, parameter, one cron entry, and the rebootNow flag back in place. -/
theorem final_armStopMode (h : env.Ok) (duration : Int) (d : Device) :
    (armStopMode env duration).final d =
      (DeviceOp.run (.cronAdd (cronEntry env duration)) (DeviceOp.run (.cronRemove cronJob)
        ((d.setFile .rebootStopFlag (some ((d.files .rebootStopFlag).getD []))).setRfc
          .rebootStopEnable "true".toList))).setFile .rebootNowFlag
        (some ((d.files .rebootNowFlag).getD [])) := by
  simp [armStopMode, final_cronjobsUpdate h, final_rfcSetBoolParam h, final_touchFile h.io,
    DeviceOp.run, Function.update_of_ne]

end Final

end RebootManager
