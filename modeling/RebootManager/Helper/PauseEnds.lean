/-
# RebootManager.Helper.PauseEnds -- how stop mode ends (cyclic_reboot.c, and cron)

Nothing in `rebootnow` ends stop mode by the clock. What ends it is the entry that stop mode has put into
the cron table: it runs `rebootnow` with a source of its own, and that request has to go through
`handle_cyclic_reboot` like any other, where it finds the rebootNow flag set and the record of the request
that was deferred last.

So the end of the pause hangs on the whole life of the device before it. `Standing` is what stays true in
that life as long as the rebootStop flag is there; from it follow the one entry, its line, the words cron's
shell makes of it, the request `getopt` makes of these, and where that request goes (`pause_ends_iff`).
-/
import RebootManager.Foundation.ShellWords
import RebootManager.Helper.PauseExpiry
import RebootManager.Helper.StopCoherence
import RebootManager.Fetcher.BootLoop

namespace RebootManager

open Foundation

/-! ## The command of the entry -/

/-- The text that stop mode gives as the other reason. -/
def pauseReason : Bytes := "Rebooting device after expiry of Cyclic reboot pause window".toList

theorem noNul_pauseReason : '\x00' ∉ pauseReason := by decide +kernel

theorem noNul_cyclicReboot : '\x00' ∉ "CyclicReboot".toList := by decide

theorem noNul_sourceFlag : '\x00' ∉ "-s".toList := by decide

theorem noNul_reasonFlag : '\x00' ∉ "-o".toList := by decide

/-- The arguments cron's shell hands to `rebootnow`. -/
def pauseArgs : List CString :=
  [⟨"-s".toList, noNul_sourceFlag⟩, ⟨"CyclicReboot".toList, noNul_cyclicReboot⟩, ⟨"-o".toList, noNul_reasonFlag⟩,
    ⟨pauseReason, noNul_pauseReason⟩]

/-- The request of the entry. -/
def pauseRequest : Request :=
  ⟨⟨"CyclicReboot".toList, noNul_cyclicReboot⟩, false, unknownReason, ⟨pauseReason, noNul_pauseReason⟩⟩

theorem parseRequest_pauseArgs : parseRequest (getopt pauseArgs) = .ok pauseRequest := rfl

/-- The command as it was written. -/
def writtenCommand : List WrittenWord :=
  [.bare "/usr/bin/rebootnow".toList, .bare "-s".toList, .quoted "CyclicReboot".toList,
    .bare "-o".toList, .quoted pauseReason]

theorem shellWords_cyclicCommand :
    shellWords cyclicCommand = some ("/usr/bin/rebootnow".toList :: pauseArgs.map CString.bytes) := by
  have hwritten : cyclicCommand = writeWords writtenCommand := by decide +kernel
  have hplain : writtenCommand.all WrittenWord.plain = true := by decide +kernel
  rw [hwritten, shellWords_written hplain]
  rfl

theorem words_cyclicCommand {line : CronLine} (h : line.command = cyclicCommand) :
    line.words = some ("/usr/bin/rebootnow".toList :: pauseArgs.map CString.bytes) := by
  have hpercent : '%' ∉ cyclicCommand := by decide +kernel
  rw [CronLine.words, h, if_neg hpercent, shellWords_cyclicCommand]

/-! ## What stands as long as the flag is there -/

/-- An entry that stop mode has written at some time. -/
def PauseEntry (e : CronEntry) : Prop := ∃ (env : HelperEnv) (pause : Nat), e = cronEntry env pause

/-- Every entry of the job is one of stop mode. -/
def OnlyPauses (d : Device) : Prop := ∀ e ∈ d.cron, e.job = cronJob → PauseEntry e

/-- What is put into the cron table is an entry of stop mode. -/
def AddsPauses : DeviceOp → Prop
  | .cronAdd e => PauseEntry e
  | _ => True

theorem AddsPauses.keeps {o : DeviceOp} (ho : AddsPauses o) (d : Device) (h : OnlyPauses d) :
    OnlyPauses (Effect.apply o d) := by
  cases o with
  | cronAdd entry =>
    intro e he hjob
    rcases List.mem_append.mp he with hold | hnew
    · exact h e hold hjob
    · rw [List.mem_singleton.mp hnew]
      exact ho
  | cronRemove job =>
    intro e he hjob
    exact h e (List.mem_of_mem_filter he) hjob
  | file op => exact h
  | setRfc param value => exact h
  | reboot => exact h

theorem SparesCron.addsPauses {o : DeviceOp} (h : SparesCron o) : AddsPauses o := by
  cases o with
  | cronAdd entry => exact h.elim
  | _ => trivial

theorem onlyPauses_final {α : Type} {p : DeviceProg α} (hp : p.Emits AddsPauses) {d : Device}
    (h : OnlyPauses d) : OnlyPauses (p.final d) :=
  hp.keeps (fun _ ho d hd => ho.keeps d hd) d _ h (Prog.Cut.final p d)

/-- The decision adds an entry for the configured pause, if any. -/
theorem addsPauses_handleCyclicReboot (env : HelperEnv) (cause : Cause) :
    (handleCyclicReboot env cause).Emits AddsPauses := by
  intro d o ho
  obtain ⟨hpositive, -⟩ := stopDuration_bounds d
  have hpause : ((stopDuration d).toNat : Int) = stopDuration d := Int.toNat_of_nonneg (by omega)
  have hentry : AddsPauses (.cronAdd (cronEntry env (stopDuration d))) :=
    ⟨env, (stopDuration d).toNat, by rw [hpause]⟩
  rw [(handleCyclicReboot_eq env cause d).1] at ho
  exact emits_act_of_kinds (fun _ => trivial) (fun _ _ => trivial) trivial hentry _ d o ho

theorem addsPauses_requestReboot (env : HelperEnv) (req : Request) :
    (requestReboot env req).Emits AddsPauses := by
  refine Prog.Emits.bind (Prog.Emits.bind ?_ fun _ => addsPauses_handleCyclicReboot env _) fun b => ?_
  · exact (emits_saveRebootInfo env req).mono fun _ ho => ho.sparesCron.addsPauses
  · refine Prog.Emits.bind ?_ fun _ => Prog.emits_pure b
    exact (sparesCron_finishRequest env req b).mono fun _ => SparesCron.addsPauses

/-- Stop mode as the life of a device leaves it. -/
structure Standing (d : Device) : Prop where
  coherent : StopCoherent d
  rebootNow : (loopState d).rebootStop = true → (loopState d).rebootNow = true
  entries : OnlyPauses d

/-- Stop mode is entered and kept with the rebootNow flag set. -/
theorem rebootNow_decide {env : HelperEnv} {cause : Cause} {d : Device}
    (h : (loopState d).rebootStop = true → (loopState d).rebootNow = true) (proceed : Bool) :
    (((loopState d).decide (cyclicBranch env cause d)).finish proceed).rebootStop = true →
      (((loopState d).decide (cyclicBranch env cause d)).finish proceed).rebootNow = true := by
  intro hflag
  cases proceed with
  | true => rfl
  | false =>
    have htaken := taken_cyclicBranch env cause d
    cases hb : cyclicBranch env cause d with
    | notRebootnow =>
      rw [hb] at hflag
      exact h hflag
    | detectionDisabled =>
      rw [hb] at hflag
      exact h hflag
    | halted => rfl
    | loopDetected => rfl
    | counted count =>
      -- there is counting only while the flag is not there
      rw [hb] at hflag htaken
      have hstop : (loopState d).rebootStop = false := htaken.2.2.1
      exact absurd (hstop.symm.trans hflag) Bool.false_ne_true
    | _ =>
      rw [hb] at hflag
      cases hflag

section Life

variable {d : Device}

/-- What neither names a file of stop mode nor a cron entry keeps it. -/
theorem Standing.filesOnly {S : List File} (hnow : File.rebootNowFlag ∉ S)
    (hstop : File.rebootStopFlag ∉ S) (hcount : File.rebootCounterFile ∉ S) {α : Type}
    {p : DeviceProg α} (hp : p.Emits (FilesOnly S)) (h : Standing d) : Standing (p.final d) where
  coherent := stopCoherent_filesOnly hnow hstop hcount hp h.coherent
  rebootNow := by
    rw [loopState_cut_filesOnly hnow hstop hcount hp (Prog.Cut.final p d)]
    exact h.rebootNow
  entries := onlyPauses_final (hp.mono fun _ ho => ho.sparesCron.addsPauses) h.entries

theorem Standing.requestReboot {env : HelperEnv} (henv : env.Ok) (h : Standing d) (req : Request) :
    Standing ((requestReboot env req).final d) where
  coherent := stopCoherent_requestReboot henv h.coherent req
  rebootNow := by
    rw [loopState_requestReboot henv]
    exact rebootNow_decide h.rebootNow _
  entries := onlyPauses_final (addsPauses_requestReboot env req) h.entries

theorem Standing.rebootnowMain {env : HelperEnv} (henv : env.Ok) (h : Standing d) (opts : List Opt) :
    Standing ((rebootnowMain env opts).final d) := by
  have hguard : Standing ((pidfileWriteAndGuard env).final d) :=
    h.filesOnly (by decide) (by decide) (by decide) (emits_pidfileWriteAndGuard env)
  have hcleanup : ∀ {d : Device}, Standing d → Standing (cleanupPidfile.final d) := fun h =>
    h.filesOnly (by decide) (by decide) (by decide) (emits_unlinkFile .pidFile)
  rw [RebootManager.rebootnowMain, Prog.final_bind]
  split
  · split
    · exact hcleanup hguard
    · rw [Prog.final_bind, Prog.final_bind]
      exact hcleanup (hguard.requestReboot henv _)
  · exact hguard

/-- One event keeps it. -/
theorem Standing.step {d' : Device} {e : LifeEvent} (h : Standing d) (hstep : e.Step d d') :
    Standing d' := by
  have hcoherent := stopCoherent_step h.coherent hstep
  cases e with
  | rebootnow env opts =>
    obtain ⟨henv, rfl⟩ := hstep
    exact h.rebootnowMain henv opts
  | fetcher env =>
    obtain rfl : d' = _ := hstep
    exact h.filesOnly (by decide) (by decide) (by decide) (emits_fetcherMain env)
  | setDetection value =>
    obtain rfl : d' = _ := hstep
    exact ⟨hcoherent, h.rebootNow, h.entries⟩
  | reboot =>
    obtain rfl : d' = _ := hstep
    exact ⟨hcoherent, h.rebootNow, h.entries⟩

theorem FreshDevice.standing (h : FreshDevice d) : Standing d where
  coherent := h.stopCoherent
  rebootNow := fun hflag => absurd (h.rebootStop.symm.trans hflag) Bool.false_ne_true
  entries := by
    intro e he hjob
    have hnone := List.countP_eq_zero.mp h.scheduled e he
    simp [hjob] at hnone

theorem standing_of_reachable (h : Reachable FreshDevice LifeEvent.Step d) : Standing d :=
  h.invariant (fun _ hfresh => hfresh.standing) fun _ _ _ hs hstep => hs.step hstep

end Life

/-! ## The entry -/

/-- The lines of the job, as cron reads them. -/
def pauseLines (d : Device) : List (Option CronLine) :=
  (d.cron.filter fun e => e.job = cronJob).map fun e => parseCronLine e.line

/-- A line that is due at one time of the day, every day. -/
def DueDaily (line : CronLine) : Prop :=
  ∃ time, time < 1440 ∧ ∀ calendar t, line.due calendar t = true ↔ t % 1440 = time

/-- Stop mode has one line in the table. -/
theorem Standing.pauseLines {d : Device} (h : Standing d) (hstop : d.exists .rebootStopFlag = true) :
    ∃ line, pauseLines d = [some line] ∧ line.command = cyclicCommand ∧ DueDaily line := by
  have hone : (d.cron.filter fun e => e.job = cronJob).length = 1 := by
    have hpositive := h.coherent.scheduled.mp hstop
    have hsingle := h.coherent.single
    rw [cyclicJobs, List.countP_eq_length_filter] at hpositive hsingle
    omega
  obtain ⟨e, he⟩ := List.length_eq_one_iff.mp hone
  obtain ⟨hmem, hjob⟩ := List.mem_filter.mp (he ▸ List.mem_singleton_self e)
  obtain ⟨env, pause, rfl⟩ := h.entries e hmem (of_decide_eq_true hjob)
  obtain ⟨minute, hour, htime, hminute, hhour, -⟩ := @computeCronTime_timeOfDay env pause
  refine ⟨⟨.at minute, .at hour, .any, .any, .any, cyclicCommand⟩, ?_, rfl, 60 * hour + minute, by omega, ?_⟩
  · rw [RebootManager.pauseLines, he, List.map_singleton, parse_cronEntry env hminute hhour htime]
  · intro calendar t
    exact due_daily_iff ⟨rfl, rfl, rfl⟩ rfl rfl hminute hhour t

/-! ## Its request -/

/-- The request of the entry goes to the reset block. -/
def PauseEnds (env : HelperEnv) (d : Device) : Prop :=
  detectionEnabled d = true ∧
    ¬ (withinWindow env = true ∧ readPreviousRebootInfo env.io d = some pauseRequest.cause)

/-- The branches it can take while the flag is there. -/
theorem Standing.pauseBranch {env : HelperEnv} {d : Device} (h : Standing d)
    (hstop : d.exists .rebootStopFlag = true) (cause : Cause) :
    (cyclicBranch env cause d = .detectionDisabled ∧ detectionEnabled d = false) ∨
    (cyclicBranch env cause d = .halted ∧ detectionEnabled d = true ∧ withinWindow env = true ∧
      readPreviousRebootInfo env.io d = some cause) ∨
    (cyclicBranch env cause d ∈ [.noPreviousInfo, .outsideWindow, .differentReason] ∧
      detectionEnabled d = true ∧
      ¬ (withinWindow env = true ∧ readPreviousRebootInfo env.io d = some cause)) := by
  have hnow := h.rebootNow hstop
  have htaken := taken_cyclicBranch env cause d
  cases hb : cyclicBranch env cause d with
  | notRebootnow =>
    rw [hb] at htaken
    exact absurd (htaken.symm.trans hnow) Bool.false_ne_true
  | detectionDisabled =>
    rw [hb] at htaken
    exact Or.inl ⟨rfl, htaken.2⟩
  | noPreviousInfo =>
    rw [hb] at htaken
    obtain ⟨-, hdetection, hnone⟩ := htaken
    refine Or.inr (Or.inr ⟨by simp, hdetection, ?_⟩)
    rintro ⟨-, hsame⟩
    exact absurd (hnone.symm.trans hsame) nofun
  | outsideWindow =>
    rw [hb] at htaken
    obtain ⟨previous, hcompared, hlate⟩ := htaken
    refine Or.inr (Or.inr ⟨by simp, hcompared.2.1, ?_⟩)
    rintro ⟨hwithin, -⟩
    exact absurd (hlate.symm.trans hwithin) Bool.false_ne_true
  | differentReason =>
    rw [hb] at htaken
    obtain ⟨previous, hcompared, -, hother⟩ := htaken
    refine Or.inr (Or.inr ⟨by simp, hcompared.2.1, ?_⟩)
    rintro ⟨-, hsame⟩
    exact hother (Option.some.inj (hsame.symm.trans hcompared.2.2))
  | halted =>
    rw [hb] at htaken
    obtain ⟨hcompared, hwithin, -⟩ := htaken
    exact Or.inr (Or.inl ⟨rfl, hcompared.2.1, hwithin, hcompared.2.2⟩)
  | loopDetected =>
    rw [hb] at htaken
    exact absurd (htaken.2.2.1.symm.trans hstop) Bool.false_ne_true
  | counted count =>
    rw [hb] at htaken
    exact absurd (htaken.2.2.1.symm.trans hstop) Bool.false_ne_true

section Request

variable {env : HelperEnv} {opts : List Opt} {d : Device} {req : Request}

/-- The guard has no part in the decision. -/
theorem cyclicBranch_guarded (env : HelperEnv) (cause : Cause) (d : Device) :
    cyclicBranch env cause ((pidfileWriteAndGuard env).final d) = cyclicBranch env cause d := by
  have hquiet := quiet_pidfileWriteAndGuard env d
  apply cyclicBranch_congr
  · intro f hf
    have hout : f ∉ [File.rebootInfoLog, .pidFile] := by
      simp only [List.mem_cons, List.not_mem_nil, or_false] at hf
      rcases hf with rfl | rfl | rfl | rfl <;> decide
    exact files_execOps_of_quiet hquiet d hout
  · exact rfc_execOps_of_quiet hquiet d

theorem final_rebootnowMain_request (h : Requests env opts d req) :
    (rebootnowMain env opts).final d =
      cleanupPidfile.final ((requestReboot env req).final ((pidfileWriteAndGuard env).final d)) := by
  simp [rebootnowMain, h.guard, h.options]

/-- What is done around a request does not show in the loop state. -/
theorem loopState_rebootnowMain_request (henv : env.Ok) (h : Requests env opts d req) :
    loopState ((rebootnowMain env opts).final d) =
      ((loopState d).decide (cyclicBranch env req.cause d)).finish
        (cyclicBranch env req.cause d).proceeds := by
  have hcleanup := loopState_execOps_of_quiet
    (quiet_unlinkPidFile ((requestReboot env req).final ((pidfileWriteAndGuard env).final d)))
  have hguard := loopState_execOps_of_quiet (quiet_pidfileWriteAndGuard env d)
  rw [final_rebootnowMain_request h]
  refine (hcleanup _).trans ?_
  rw [loopState_requestReboot henv, cyclicBranch_guarded, Prog.final, hguard]

theorem reboot_mem_rebootnowMain_request (h : Requests env opts d req) :
    .reboot ∈ (rebootnowMain env opts).ops d ↔ (cyclicBranch env req.cause d).proceeds = true := by
  have hguard : .reboot ∉ (pidfileWriteAndGuard env).ops d := fun hmem =>
    quiet_pidfileWriteAndGuard env d _ hmem
  have hcleanup : ∀ d, .reboot ∉ cleanupPidfile.ops d := fun d hmem => quiet_unlinkPidFile d _ hmem
  rw [ops_rebootnowMain_request h, List.mem_append, List.mem_append, reboot_mem_requestReboot,
    result_requestReboot, cyclicBranch_guarded]
  simp [hguard, hcleanup]

/-- The two branches that leave stop mode as it is leave the table as it is. -/
theorem cron_rebootnowMain_request (h : Requests env opts d req)
    (hkeeps : cyclicBranch env req.cause d = .detectionDisabled ∨ cyclicBranch env req.cause d = .halted) :
    ((rebootnowMain env opts).final d).cron = d.cron := by
  have hspares : ∀ {α : Type} {p : DeviceProg α}, p.Emits SparesCron → ∀ d, (p.final d).cron = d.cron :=
    fun hp => hp.final Device.cron fun _ ho d => ho.cron_eq d
  have hguard : (pidfileWriteAndGuard env).Emits SparesCron :=
    (emits_pidfileWriteAndGuard env).mono fun _ => FilesOnly.sparesCron
  have hcleanup : cleanupPidfile.Emits SparesCron :=
    (emits_unlinkFile .pidFile).mono fun _ => FilesOnly.sparesCron
  have hsave : (saveRebootInfo env req).Emits SparesCron :=
    (emits_saveRebootInfo env req).mono fun _ => FilesOnly.sparesCron
  have hhalted : ∀ duration, (CyclicBranch.halted.act env duration).Emits SparesCron := fun _ =>
    ((emits_unlinkFile _).mono fun _ => FilesOnly.sparesCron).bind fun _ =>
      (emits_touchFile _ _).mono fun _ => FilesOnly.sparesCron
  have hdecide : ((handleCyclicReboot env req.cause).final ((saveRebootInfo env req).final
      ((pidfileWriteAndGuard env).final d))).cron = d.cron := by
    rw [Prog.final, (handleCyclicReboot_eq _ _ _).1, cyclicBranch_saveRebootInfo, cyclicBranch_guarded]
    rcases hkeeps with hb | hb
    · rw [hb]
      exact (hspares hsave _).trans (hspares hguard d)
    · rw [hb]
      exact (hspares (hhalted _) _).trans ((hspares hsave _).trans (hspares hguard d))
  rw [final_rebootnowMain_request h, hspares hcleanup, final_requestReboot,
    hspares (sparesCron_finishRequest env req _), decideReboot, Prog.final_bind, hdecide]

end Request

/-- With the flag set already, a reboot that goes ahead adds nothing. -/
theorem finish_of_rebootNow {s : LoopState} (h : s.rebootNow = true) (proceed : Bool) :
    s.finish proceed = s := by
  cases proceed with
  | false => rfl
  | true =>
    show { s with rebootNow := true } = s
    rw [← h]

/-- A device in stop mode is not fresh. -/
theorem not_freshDevice {d : Device} (hstop : (loopState d).rebootStop = true) : ¬ FreshDevice d := by
  intro hfresh
  exact absurd (hfresh.rebootStop.symm.trans hstop) Bool.false_ne_true

/-- A device with the loop state of a reset is. -/
theorem freshDevice_of_reset {d : Device} {s : LoopState} {b : CyclicBranch}
    (hb : b ∈ [CyclicBranch.noPreviousInfo, .outsideWindow, .differentReason])
    (hloop : loopState d = (s.decide b).finish b.proceeds) : FreshDevice d ∧ b.proceeds = true := by
  have hreset : b.proceeds = true ∧ (s.decide b).rebootStop = false ∧ (s.decide b).enable = some false ∧
      (s.decide b).scheduled = false ∧ (s.decide b).count = 0 := by
    simp only [List.mem_cons, List.not_mem_nil, or_false] at hb
    rcases hb with rfl | rfl | rfl <;> exact ⟨rfl, rfl, rfl, rfl, rfl⟩
  obtain ⟨hproceeds, hstop, henable, hscheduled, hcount⟩ := hreset
  rw [hproceeds] at hloop
  refine ⟨⟨(congrArg LoopState.rebootStop hloop).trans hstop, ?_, ?_,
    (congrArg LoopState.count hloop).trans hcount⟩, hproceeds⟩
  · intro hon
    have hoff : rfcGetBoolParam (d.rfc .rebootStopEnable) = some false :=
      (congrArg LoopState.enable hloop).trans henable
    rw [hoff] at hon
    cases hon
  · have hnone : (loopState d).scheduled = false := (congrArg LoopState.scheduled hloop).trans hscheduled
    have hjobs : ¬ 0 < cyclicJobs d := fun hpositive =>
      absurd (hnone.symm.trans ((scheduled_iff d).mpr hpositive)) Bool.false_ne_true
    omega

/-- **How stop mode ends.** While the rebootStop flag is there, on any device that has come there from a
fresh one, the cron table has one line of the job. It is due at one time of the day, every day, and its
command is `rebootnow` with arguments that `getopt` takes for the pause's request. When it runs, the device
is a fresh one again if and only if the detection is on and the request is no repetition; otherwise the
table and all of stop mode stay, and with the detection off the device reboots all the same. -/
theorem pause_ends_iff {d : Device} (hreach : Reachable FreshDevice LifeEvent.Step d)
    (hstop : d.exists .rebootStopFlag = true) :
    ∃ line, pauseLines d = [some line] ∧ DueDaily line ∧
      line.words = some ("/usr/bin/rebootnow".toList :: pauseArgs.map CString.bytes) ∧
      ∀ env : HelperEnv, env.Ok → (pidfileWriteAndGuard env).result d = true →
        let d' := (rebootnowMain env (getopt pauseArgs)).final d
        (FreshDevice d' ↔ PauseEnds env d) ∧
        (.reboot ∈ (rebootnowMain env (getopt pauseArgs)).ops d ↔
          PauseEnds env d ∨ detectionEnabled d = false) ∧
        (¬ PauseEnds env d → d'.cron = d.cron ∧ loopState d' = loopState d) := by
  have hstanding := standing_of_reachable hreach
  obtain ⟨line, hline, hcommand, hdaily⟩ := hstanding.pauseLines hstop
  refine ⟨line, hline, hdaily, words_cyclicCommand hcommand, ?_⟩
  intro env henv hguard
  have hrequest : Requests env (getopt pauseArgs) d pauseRequest := ⟨hguard, parseRequest_pauseArgs⟩
  have hloop := loopState_rebootnowMain_request henv hrequest
  have hreboot := reboot_mem_rebootnowMain_request hrequest
  have hcron := cron_rebootnowMain_request hrequest
  have hnow : (loopState d).rebootNow = true := hstanding.rebootNow hstop
  rcases hstanding.pauseBranch hstop pauseRequest.cause with
    ⟨hb, hoff⟩ | ⟨hb, hon, hwithin, hsame⟩ | ⟨hb, hon, hother⟩
  · -- nothing is compared, and the reboot goes ahead
    rw [hb] at hloop hreboot
    have hsame : loopState ((rebootnowMain env (getopt pauseArgs)).final d) = loopState d :=
      hloop.trans (finish_of_rebootNow hnow _)
    have hnot : ¬ PauseEnds env d := fun hends => absurd (hoff.symm.trans hends.1) Bool.false_ne_true
    refine ⟨iff_of_false (not_freshDevice (hsame ▸ hstop)) hnot, ?_, fun _ => ⟨hcron (Or.inl hb), hsame⟩⟩
    exact iff_of_true (hreboot.mpr rfl) (Or.inr hoff)
  · -- the record is the pause's own request: it is deferred like any repetition
    rw [hb] at hloop hreboot
    have hkept : loopState ((rebootnowMain env (getopt pauseArgs)).final d) = loopState d :=
      hloop.trans (finish_of_rebootNow hnow true)
    have hnot : ¬ PauseEnds env d := fun hends => hends.2 ⟨hwithin, hsame⟩
    refine ⟨iff_of_false (not_freshDevice (hkept ▸ hstop)) hnot, ?_, fun _ => ⟨hcron (Or.inr hb), hkept⟩⟩
    refine iff_of_false (fun hmem => Bool.false_ne_true (hreboot.mp hmem)) ?_
    rintro (hends | hoff)
    · exact hnot hends
    · exact absurd (hoff.symm.trans hon) Bool.false_ne_true
  · -- everything else resets
    obtain ⟨hfresh, hproceeds⟩ := freshDevice_of_reset hb hloop
    have hends : PauseEnds env d := ⟨hon, hother⟩
    exact ⟨iff_of_true hfresh hends, iff_of_true (hreboot.mpr hproceeds) (Or.inl hends),
      fun hnot => absurd hends hnot⟩

/-- The device after a service has asked `n` times. -/
def askedTimes : Nat → Device
  | 0 => Device.blank
  | n + 1 => (rebootnowMain (.plain .epoch 300) [.s serviceRequest.source]).final (askedTimes n)

theorem reachable_askedTimes (n : Nat) : Reachable FreshDevice LifeEvent.Step (askedTimes n) := by
  induction n with
  | zero => exact ⟨Device.blank, [], ⟨rfl, by decide, rfl, rfl⟩, Run.nil _⟩
  | succ n ih =>
    obtain ⟨first, events, hfresh, hrun⟩ := ih
    have hstep : LifeEvent.Step (askedTimes n) (.rebootnow (.plain .epoch 300) [.s serviceRequest.source])
        (askedTimes (n + 1)) := ⟨HelperEnv.plain_ok _ _, rfl⟩
    exact ⟨first, _, hfresh, hrun.append (Run.cons hstep (Run.nil _))⟩

/-- The seventh time stops the reboots, until the entry runs. -/
theorem pause_ends_service :
    ∃ line, pauseLines (askedTimes 7) = [some line] ∧ DueDaily line ∧
      FreshDevice ((rebootnowMain (.plain .epoch 300) (getopt pauseArgs)).final (askedTimes 7)) := by
  have hstop : (askedTimes 7).exists .rebootStopFlag = true := by decide +kernel
  have hguard : (pidfileWriteAndGuard (.plain .epoch 300)).result (askedTimes 7) = true := by
    decide +kernel
  have hends : PauseEnds (.plain .epoch 300) (askedTimes 7) := by
    refine ⟨by decide +kernel, ?_⟩
    rintro ⟨-, hsame⟩
    revert hsame
    decide +kernel
  obtain ⟨line, hline, hdaily, -, hruns⟩ := pause_ends_iff (reachable_askedTimes 7) hstop
  exact ⟨line, hline, hdaily, (hruns _ (HelperEnv.plain_ok _ _) hguard).1.mpr hends⟩

end RebootManager
