/-
# RebootManager.Helper.StopCoherence -- the traces of stop mode move together

Stop mode is kept in four places: the rebootStop flag, `RebootStop.Enable`, the cron table and the counter
file. No update of one is tied to an update of another, and three of the branches of
`handle_cyclic_reboot` touch none of them or only one.

`StopCoherent` says what the four places have to do with each other. It holds in every state that a clean
device reaches by complete invocations of the two programs, reboots and switching the detection on and off
(`stopCoherent_of_reachable`). What carries it through is that the count stands at the threshold as long
as the flag is there: it is where stop mode is entered, and nothing counts while the flag is there.
-/
import RebootManager.Foundation.Transition
import RebootManager.Helper.LoopState
import RebootManager.Fetcher.RecordFiles

namespace RebootManager

open Foundation

/-! ## The runs -/

/-- What happens to a device, one complete invocation after the other. -/
inductive LifeEvent where
  | rebootnow (env : HelperEnv) (opts : List Opt)
  | fetcher (env : FetcherEnv)
  /-- `RebootStop.Detection` is set, or reset. -/
  | setDetection (value : Option Bytes)
  | reboot

/-- One event; every command of a `rebootnow` succeeds. -/
def LifeEvent.Step (d : Device) : LifeEvent → Device → Prop
  | .rebootnow env opts, d' => env.Ok ∧ d' = (rebootnowMain env opts).final d
  | .fetcher env, d' => d' = (fetcherMain env).final d
  | .setDetection value, d' =>
    d' = { d with rfc := Function.update d.rfc .rebootStopDetection value }
  | .reboot, d' => d' = d.rebooted

/-- The cron entries of the cyclic reboot. -/
def cyclicJobs (d : Device) : Nat := d.cron.countP fun e => e.job = cronJob

/-- A device on which no reboot has been stopped or counted. -/
structure FreshDevice (d : Device) : Prop where
  rebootStop : d.exists .rebootStopFlag = false
  enable : rfcGetBoolParam (d.rfc .rebootStopEnable) ≠ some true
  scheduled : cyclicJobs d = 0
  count : counterValue d = 0

/-- The four places agree. -/
structure StopCoherent (d : Device) : Prop where
  enable : rfcGetBoolParam (d.rfc .rebootStopEnable) = some true ↔ d.exists .rebootStopFlag = true
  scheduled : d.exists .rebootStopFlag = true ↔ 0 < cyclicJobs d
  single : cyclicJobs d ≤ 1
  count : 0 ≤ counterValue d ∧ counterValue d ≤ 5
  threshold : d.exists .rebootStopFlag = true → counterValue d = 5

/-! ## On the machine -/

/-- What the machine knows of the agreement: everything but the number of cron entries. -/
structure LoopState.Coherent (s : LoopState) : Prop where
  enable : s.enable = some true ↔ s.rebootStop = true
  scheduled : s.scheduled = s.rebootStop
  count : 0 ≤ s.count ∧ s.count ≤ 5
  threshold : s.rebootStop = true → s.count = 5

theorem scheduled_iff (d : Device) : (loopState d).scheduled = true ↔ 0 < cyclicJobs d := by
  rw [cyclicJobs, List.countP_pos_iff]
  exact List.any_eq_true

theorem stopCoherent_iff (d : Device) :
    StopCoherent d ↔ (loopState d).Coherent ∧ cyclicJobs d ≤ 1 := by
  constructor
  · intro h
    refine ⟨⟨h.enable, ?_, h.count, h.threshold⟩, h.single⟩
    rw [Bool.eq_iff_iff, scheduled_iff]
    exact h.scheduled.symm
  · rintro ⟨h, hsingle⟩
    refine ⟨h.enable, ?_, hsingle, h.count, h.threshold⟩
    rw [← scheduled_iff, h.scheduled]
    exact Iff.rfl

namespace LoopState

theorem Coherent.finish {s : LoopState} (h : s.Coherent) (b : Bool) : (s.finish b).Coherent := by
  cases b with
  | false => exact h
  | true => exact ⟨h.enable, h.scheduled, h.count, h.threshold⟩

/-- The reset block leaves nothing of stop mode. -/
theorem coherent_reset (s : LoopState) : Coherent
    { s with rebootNow := false, rebootStop := false, enable := some false, scheduled := false,
             count := 0 } where
  enable := by simp
  scheduled := rfl
  count := by
    show (0 : Int) ≤ 0 ∧ (0 : Int) ≤ 5
    omega
  threshold := fun h => absurd h Bool.false_ne_true

end LoopState

/-- The decision keeps the machine coherent. -/
theorem coherent_decide {env : HelperEnv} {cause : Cause} {d : Device} (henv : env.io.Ok)
    (h : (loopState d).Coherent) :
    ((loopState d).decide (cyclicBranch env cause d)).Coherent := by
  have htaken := taken_cyclicBranch env cause d
  cases hb : cyclicBranch env cause d with
  | notRebootnow => exact h
  | detectionDisabled => exact h
  | noPreviousInfo => exact LoopState.coherent_reset _
  | outsideWindow => exact LoopState.coherent_reset _
  | differentReason => exact LoopState.coherent_reset _
  | halted => exact ⟨h.enable, h.scheduled, h.count, h.threshold⟩
  | loopDetected =>
    -- the count that lets stop mode begin is the threshold itself
    rw [hb] at htaken
    obtain ⟨-, -, -, hreached⟩ := htaken
    have hfive : (loopState d).count = 5 := by
      have hhigh := h.count.2
      rw [readRebootcounter_of_ok henv] at hreached
      have hthreshold : rebootCycleThreshold = 5 := rfl
      show counterValue d = 5
      change counterValue d ≤ 5 at hhigh
      omega
    exact {
      enable := iff_of_true rfl rfl
      scheduled := rfl
      count := h.count
      threshold := fun _ => hfive }
  | counted count =>
    -- the flag is not there while there is counting
    rw [hb] at htaken
    obtain ⟨-, -, hstop, -, -⟩ := htaken
    obtain ⟨hcount, hbelow⟩ := counted_bounds henv hb
    have hlow := h.count.1
    exact {
      enable := h.enable
      scheduled := h.scheduled
      count := by
        change 0 ≤ counterValue d at hlow
        show 0 ≤ count + 1 ∧ count + 1 ≤ 5
        omega
      threshold := by
        intro hflag
        change d.exists .rebootStopFlag = true at hflag
        rw [hstop] at hflag
        cases hflag }

/-! ## The cron table -/

/-- An update of anything but the cron table. -/
def SparesCron : DeviceOp → Prop
  | .cronRemove _ | .cronAdd _ => False
  | _ => True

theorem SparesCron.cron_eq {o : DeviceOp} (h : SparesCron o) (d : Device) :
    (Effect.apply o d).cron = d.cron := by
  cases o with
  | cronRemove job => exact h.elim
  | cronAdd entry => exact h.elim
  | file op => rfl
  | setRfc param value => rfl
  | reboot => rfl

theorem FilesOnly.sparesCron {S : List File} {o : DeviceOp} (h : FilesOnly S o) : SparesCron o := by
  cases o with
  | file op => trivial
  | reboot => trivial
  | setRfc param value => exact h.elim
  | cronRemove job => exact h.elim
  | cronAdd entry => exact h.elim

theorem cyclicJobs_of_sparesCron {α : Type} {p : DeviceProg α} (hp : p.Emits SparesCron) (d : Device) :
    cyclicJobs (p.final d) = cyclicJobs d :=
  hp.final cyclicJobs (fun _ ho d => congrArg (List.countP _) (ho.cron_eq d)) d

/-- What follows the decision leaves the cron table alone. -/
theorem sparesCron_finishRequest (env : HelperEnv) (req : Request) (b : Bool) :
    (finishRequest env req b).Emits SparesCron := by
  refine ((emits_writeFile _ _ _).mono fun _ => FilesOnly.sparesCron).bind fun _ => ?_
  split
  · refine ((emits_updateMaintenanceRebootFlag _ _).mono fun _ => FilesOnly.sparesCron).bind fun _ => ?_
    have hnotify : (notifyReboot env).Emits SparesCron := by
      refine (emits_notifyReboot env).mono ?_
      rintro o ⟨v, rfl⟩
      trivial
    refine hnotify.bind fun _ => ?_
    exact ((emits_touchFile _ _).mono fun _ => FilesOnly.sparesCron).bind fun _ => Prog.emits_emit trivial
  · exact Prog.emits_pure ()

/-- "remove" leaves no entry of the job. -/
theorem cyclicJobs_cronRemove (d : Device) : cyclicJobs (DeviceOp.run (.cronRemove cronJob) d) = 0 := by
  rw [cyclicJobs, List.countP_eq_zero]
  intro e he
  simpa [DeviceOp.run] using (List.mem_filter.mp he).2

/-- "add" puts one in. -/
theorem cyclicJobs_cronAdd (d : Device) (env : HelperEnv) (duration : Int) :
    cyclicJobs (DeviceOp.run (.cronAdd (cronEntry env duration)) d) = cyclicJobs d + 1 := by
  have hjob : (cronEntry env duration).job = cronJob := rfl
  simp [cyclicJobs, DeviceOp.run, hjob]

/-- Every branch leaves the table as it was, or with at most one entry. -/
theorem cyclicJobs_act_le {env : HelperEnv} (henv : env.Ok) {d : Device} (h : cyclicJobs d ≤ 1)
    (duration : Int) (b : CyclicBranch) : cyclicJobs ((b.act env duration).final d) ≤ 1 := by
  have hreset : ∀ d, cyclicJobs ((rebootCounterReset env).final d) ≤ 1 := by
    intro d
    rw [final_rebootCounterReset henv, cyclicJobs_cronRemove]
    omega
  cases b with
  | notRebootnow => exact h
  | detectionDisabled => exact h
  | noPreviousInfo => exact hreset _
  | outsideWindow => exact hreset _
  | differentReason => exact hreset _
  | halted =>
    simp only [CyclicBranch.act, Prog.final_bind, final_unlinkFile, final_touchFile henv.io]
    exact h
  | loopDetected =>
    have harm : ∀ d, cyclicJobs ((armStopMode env duration).final d) = 1 := by
      intro d
      rw [final_armStopMode henv]
      show cyclicJobs (DeviceOp.run (.cronAdd (cronEntry env duration))
        (DeviceOp.run (.cronRemove cronJob) _)) = 1
      rw [cyclicJobs_cronAdd, cyclicJobs_cronRemove]
    exact (harm _).le
  | counted count =>
    simp only [CyclicBranch.act, Prog.final_bind, final_unlinkFile, writeRebootcounter,
      final_writeFile henv.io]
    exact h

/-! ## The events keep the agreement -/

section Events

variable {d : Device}

/-- A request keeps it. -/
theorem stopCoherent_requestReboot {env : HelperEnv} (henv : env.Ok) (h : StopCoherent d)
    (req : Request) : StopCoherent ((requestReboot env req).final d) := by
  obtain ⟨hcoherent, hsingle⟩ := (stopCoherent_iff d).mp h
  apply (stopCoherent_iff _).mpr
  constructor
  · rw [loopState_requestReboot henv]
    exact (coherent_decide henv.io hcoherent).finish _
  · have hsaved := cyclicJobs_of_sparesCron
      ((emits_saveRebootInfo env req).mono fun _ => FilesOnly.sparesCron) d
    have hdecided : cyclicJobs ((handleCyclicReboot env req.cause).final
        ((saveRebootInfo env req).final d)) ≤ 1 := by
      rw [Prog.final, (handleCyclicReboot_eq env req.cause _).1]
      exact cyclicJobs_act_le henv (hsaved ▸ hsingle) _ _
    rw [final_requestReboot, cyclicJobs_of_sparesCron (sparesCron_finishRequest env req _), decideReboot,
      Prog.final_bind]
    exact hdecided

/-- What names no file of stop mode keeps it. -/
theorem stopCoherent_filesOnly {S : List File} (hnow : File.rebootNowFlag ∉ S)
    (hstop : File.rebootStopFlag ∉ S) (hcount : File.rebootCounterFile ∉ S) {α : Type}
    {p : DeviceProg α} (hp : p.Emits (FilesOnly S)) (h : StopCoherent d) :
    StopCoherent (p.final d) := by
  have hstate : loopState (p.final d) = loopState d :=
    loopState_cut_filesOnly hnow hstop hcount hp (Prog.Cut.final _ d)
  have hjobs := cyclicJobs_of_sparesCron (hp.mono fun _ => FilesOnly.sparesCron) d
  rw [stopCoherent_iff, hstate, hjobs]
  exact (stopCoherent_iff d).mp h

/-- A complete invocation keeps it, whatever its options are and whether or not it may run. -/
theorem stopCoherent_rebootnowMain {env : HelperEnv} (henv : env.Ok) (h : StopCoherent d)
    (opts : List Opt) : StopCoherent ((rebootnowMain env opts).final d) := by
  have hguard : StopCoherent ((pidfileWriteAndGuard env).final d) :=
    stopCoherent_filesOnly (by decide) (by decide) (by decide) (emits_pidfileWriteAndGuard env) h
  have hcleanup : ∀ {d : Device}, StopCoherent d → StopCoherent (cleanupPidfile.final d) := fun h =>
    stopCoherent_filesOnly (by decide) (by decide) (by decide) (emits_unlinkFile .pidFile) h
  rw [rebootnowMain, Prog.final_bind]
  split
  · split
    · exact hcleanup hguard
    · rw [Prog.final_bind, Prog.final_bind]
      exact hcleanup (stopCoherent_requestReboot henv hguard _)
  · exact hguard

/-- One event keeps it. -/
theorem stopCoherent_step {d' : Device} {e : LifeEvent} (h : StopCoherent d) (hstep : e.Step d d') :
    StopCoherent d' := by
  cases e with
  | rebootnow env opts =>
    obtain ⟨henv, rfl⟩ := hstep
    exact stopCoherent_rebootnowMain henv h opts
  | fetcher env =>
    obtain rfl : d' = _ := hstep
    exact stopCoherent_filesOnly (by decide) (by decide) (by decide) (emits_fetcherMain env) h
  | setDetection value =>
    obtain rfl : d' = _ := hstep
    have hother : RfcParam.rebootStopEnable ≠ .rebootStopDetection := by decide
    have henable : (Function.update d.rfc .rebootStopDetection value) .rebootStopEnable
        = d.rfc .rebootStopEnable := Function.update_of_ne hother _ _
    exact ⟨henable ▸ h.enable, h.scheduled, h.single, h.count, h.threshold⟩
  | reboot =>
    obtain rfl : d' = _ := hstep
    exact ⟨h.enable, h.scheduled, h.single, h.count, h.threshold⟩

theorem FreshDevice.stopCoherent (h : FreshDevice d) : StopCoherent d where
  enable := by
    rw [h.rebootStop]
    exact iff_of_false h.enable Bool.false_ne_true
  scheduled := by
    rw [h.rebootStop, h.scheduled]
    simp
  single := by
    rw [h.scheduled]
    omega
  count := by
    rw [h.count]
    omega
  threshold := fun hflag => absurd (h.rebootStop ▸ hflag) Bool.false_ne_true

end Events

/-- **Stop mode is coherent.** In every state that a fresh device reaches, `RebootStop.Enable` is true if
and only if the rebootStop flag is there, and if and only if a cyclic reboot is scheduled; it is never
scheduled twice; the count is between 0 and 5, and 5 as long as the flag is there. -/
theorem stopCoherent_of_reachable {d : Device} (h : Reachable FreshDevice LifeEvent.Step d) :
    StopCoherent d :=
  h.invariant (fun _ hfresh => hfresh.stopCoherent) fun _ _ _ hs hstep => stopCoherent_step hs hstep

/-- The first invocation on a device out of the factory. -/
theorem stopCoherent_after_first :
    StopCoherent ((rebootnowMain (.plain .epoch 300) [.s serviceRequest.source]).final Device.blank) := by
  have hfresh : FreshDevice Device.blank := ⟨rfl, by decide, rfl, rfl⟩
  have hstep : LifeEvent.Step Device.blank (.rebootnow (.plain .epoch 300) [.s serviceRequest.source])
      ((rebootnowMain (.plain .epoch 300) [.s serviceRequest.source]).final Device.blank) :=
    ⟨HelperEnv.plain_ok _ _, rfl⟩
  exact stopCoherent_of_reachable ⟨Device.blank, _, hfresh, Run.cons hstep (Run.nil _)⟩

end RebootManager
