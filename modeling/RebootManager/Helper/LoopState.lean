/-
# RebootManager.Helper.LoopState -- what one request does to the reboot-loop state

The reboot-loop logic lives in a few places: the rebootNow flag, the rebootStop flag, the counter file,
stop mode's other two traces (`RebootStop.Enable` and the cron entry) and the switch
`RebootStop.Detection`. `LoopState` is these and nothing else, and `LoopState.decide`/`LoopState.finish` are the component as it is meant: one transition
for each branch of `handle_cyclic_reboot`, and the touch of the rebootNow flag.

The theorems connect that small machine to the code: a request on a device, with all of its files and
commands, moves the loop state exactly so (`loopState_decideReboot`, `loopState_finishRequest`), also
when it is interrupted (`loopState_cut_finishRequest`).
-/
import RebootManager.Helper.RebootMain

namespace RebootManager

open Foundation

/-! ## The machine -/

/-- The state of reboot-loop detection. -/
structure LoopState where
  rebootNow : Bool
  rebootStop : Bool
  /-- `RebootStop.Enable`, as it reads. -/
  enable : Option Bool
  /-- A cyclic reboot is in the cron table. -/
  scheduled : Bool
  count : Int
  /-- Loop detection is on. -/
  detection : Bool
  deriving DecidableEq

namespace LoopState

/-- Stop mode off: no flag, the parameter false, nothing scheduled. -/
structure Disarmed (s : LoopState) : Prop where
  rebootStop : s.rebootStop = false
  enable : s.enable = some false
  scheduled : s.scheduled = false

/-- `handle_cyclic_reboot` by its branches. -/
def decide (s : LoopState) : CyclicBranch → LoopState
  | .notRebootnow | .detectionDisabled => s
  | .noPreviousInfo | .outsideWindow | .differentReason =>
    { s with
      rebootNow := false, rebootStop := false, enable := some false, scheduled := false, count := 0 }
  | .halted => { s with rebootNow := true }
  | .loopDetected =>
    { s with rebootNow := true, rebootStop := true, enable := some true, scheduled := true }
  | .counted count => { s with rebootNow := false, count := count + 1 }

/-- The touch of the rebootNow flag, when the reboot goes ahead. -/
def finish (s : LoopState) (proceedReboot : Bool) : LoopState :=
  if proceedReboot then { s with rebootNow := true } else s

end LoopState

/-- The count `read_rebootcounter` finds where the file can be read. -/
def counterValue (d : Device) : Int :=
  match (d.files .rebootCounterFile).bind scanLong with
  | some v => toInt v
  | none => 0

/-- The loop state of a device. -/
def loopState (d : Device) : LoopState where
  rebootNow := d.exists .rebootNowFlag
  rebootStop := d.exists .rebootStopFlag
  enable := rfcGetBoolParam (d.rfc .rebootStopEnable)
  scheduled := d.cron.any fun e => e.job = cronJob
  count := counterValue d
  detection := detectionEnabled d

/-! ## Frames -/

section Frames

theorem loopState_setFile {d : Device} {f : File} {content : Option Bytes}
    (hnow : File.rebootNowFlag ≠ f) (hstop : File.rebootStopFlag ≠ f)
    (hcount : File.rebootCounterFile ≠ f) : loopState (d.setFile f content) = loopState d := by
  simp [loopState, counterValue, Device.exists, detectionEnabled, Function.update_of_ne hnow,
    Function.update_of_ne hstop, Function.update_of_ne hcount]

theorem loopState_setRfc {d : Device} {p : RfcParam} {v : Bytes} (henable : RfcParam.rebootStopEnable ≠ p)
    (hdetection : RfcParam.rebootStopDetection ≠ p) : loopState (d.setRfc p v) = loopState d := by
  simp [loopState, counterValue, Device.exists, detectionEnabled, Function.update_of_ne henable,
    Function.update_of_ne hdetection]

theorem loopState_set_rebootNow (d : Device) (content : Option Bytes) :
    loopState (d.setFile .rebootNowFlag content)
      = { loopState d with rebootNow := content.isSome } := by
  simp [loopState, counterValue, Device.exists, detectionEnabled, Function.update_of_ne]

theorem loopState_set_rebootStop (d : Device) (content : Option Bytes) :
    loopState (d.setFile .rebootStopFlag content)
      = { loopState d with rebootStop := content.isSome } := by
  simp [loopState, counterValue, Device.exists, detectionEnabled, Function.update_of_ne]

theorem loopState_set_enable (d : Device) (b : Bool) :
    loopState (d.setRfc .rebootStopEnable (if b then "true".toList else "false".toList))
      = { loopState d with enable := some b } := by
  have hother : RfcParam.rebootStopDetection ≠ .rebootStopEnable := by decide
  simp only [loopState, detectionEnabled, Device.setRfc_rfc, Function.update_self,
    Function.update_of_ne hother, rfcGetBoolParam_set]
  rfl

theorem loopState_cronRemove (d : Device) :
    loopState (DeviceOp.run (.cronRemove cronJob) d) = { loopState d with scheduled := false } := by
  simp [loopState, counterValue, Device.exists, detectionEnabled, DeviceOp.run]

theorem loopState_cronAdd (d : Device) (env : HelperEnv) (duration : Int) :
    loopState (DeviceOp.run (.cronAdd (cronEntry env duration)) d)
      = { loopState d with scheduled := true } := by
  simp [loopState, counterValue, Device.exists, detectionEnabled, DeviceOp.run, cronEntry]

/-- The counter written as `"%d\n"` is the counter read. -/
theorem loopState_writeRebootcounter (d : Device) {v : Int} (hlow : -2 ^ 31 ≤ v) (hhigh : v < 2 ^ 31) :
    loopState (d.setFile .rebootCounterFile (some (decimalInt v ++ ['\n'])))
      = { loopState d with count := v } := by
  have hread : counterValue (d.setFile .rebootCounterFile (some (decimalInt v ++ ['\n']))) = v := by
    simp [counterValue, scanLong_decimalInt_newline hlow hhigh, toInt_of_int hlow hhigh]
  simp [loopState, hread, Device.exists, detectionEnabled, Function.update_of_ne]

end Frames

/-! ## Reading -/

theorem readRebootcounter_of_ok {io : Io File} (h : io.Ok) (d : Device) :
    readRebootcounter io d = counterValue d := by
  rw [readRebootcounter, if_pos (h.reads _)]
  rfl

theorem readPreviousRebootInfo_of_ok {io : Io File} (h : io.Ok) (d : Device) :
    readPreviousRebootInfo io d = (d.files .previousRebootInfoFile).bind parsePreviousRebootInfo := by
  rw [readPreviousRebootInfo, h.read_eq]
  cases d.files .previousRebootInfoFile with
  | none => rfl
  | some content => simp [parsePreviousRebootInfo, List.take_take]

/-- The count a branch carries is the counter, below the threshold. -/
theorem counted_bounds {env : HelperEnv} {c : Cause} {d : Device} {count : Int} (h : env.io.Ok)
    (hb : cyclicBranch env c d = .counted count) : count = counterValue d ∧ count < 5 := by
  have htaken := taken_cyclicBranch env c d
  rw [hb] at htaken
  obtain ⟨-, -, -, hcount, hlt⟩ := htaken
  rw [readRebootcounter_of_ok h] at hcount
  exact ⟨hcount, hlt⟩

theorem counterValue_bounds (d : Device) : -2 ^ 31 ≤ counterValue d ∧ counterValue d < 2 ^ 31 := by
  unfold counterValue
  split
  · exact toInt_bounds _
  · decide

/-! ## handle_cyclic_reboot moves the machine -/

section Moves

variable {env : HelperEnv} (h : env.Ok) (d : Device)

include h

theorem loopState_rebootCounterReset :
    loopState ((rebootCounterReset env).final d)
      = { loopState d with
          rebootStop := false, enable := some false, scheduled := false, count := 0 } := by
  have henable := loopState_set_enable d false
  rw [if_neg Bool.false_ne_true] at henable
  rw [final_rebootCounterReset h, loopState_cronRemove, loopState_set_rebootStop,
    loopState_writeRebootcounter _ (by decide) (by decide), henable]
  rfl

theorem loopState_armStopMode (duration : Int) :
    loopState ((armStopMode env duration).final d)
      = { loopState d with
          rebootNow := true, rebootStop := true, enable := some true, scheduled := true } := by
  have henable := loopState_set_enable
    (d.setFile .rebootStopFlag (some ((d.files .rebootStopFlag).getD []))) true
  rw [if_pos rfl] at henable
  rw [final_armStopMode h, loopState_set_rebootNow, loopState_cronAdd, loopState_cronRemove, henable,
    loopState_set_rebootStop]
  rfl

/-- A branch of `handle_cyclic_reboot`, acted out. -/
theorem loopState_act (cause : Cause) (duration : Int) :
    loopState (((cyclicBranch env cause d).act env duration).final d)
      = (loopState d).decide (cyclicBranch env cause d) := by
  cases hb : cyclicBranch env cause d with
  | notRebootnow => rfl
  | detectionDisabled => rfl
  | noPreviousInfo =>
    simp only [CyclicBranch.act, Prog.final_bind, final_unlinkFile, loopState_rebootCounterReset h,
      loopState_set_rebootNow]
    rfl
  | outsideWindow =>
    simp only [CyclicBranch.act, Prog.final_bind, final_unlinkFile, loopState_rebootCounterReset h,
      loopState_set_rebootNow]
    rfl
  | differentReason =>
    simp only [CyclicBranch.act, Prog.final_bind, final_unlinkFile, loopState_rebootCounterReset h,
      loopState_set_rebootNow]
    rfl
  | halted =>
    simp only [CyclicBranch.act, Prog.final_bind, final_unlinkFile, final_touchFile h.io,
      loopState_set_rebootNow]
    rfl
  | loopDetected =>
    simp only [CyclicBranch.act, Prog.final_bind, final_unlinkFile, loopState_armStopMode h,
      loopState_set_rebootNow]
    rfl
  | counted count =>
    obtain ⟨hcount, hlt⟩ := counted_bounds h.io hb
    have hlow := (counterValue_bounds d).1
    simp only [CyclicBranch.act, Prog.final_bind, final_unlinkFile, writeRebootcounter,
      final_writeFile h.io]
    rw [loopState_writeRebootcounter _ (by omega) (by omega), loopState_set_rebootNow]
    rfl

/-- **The decision refines the machine.** -/
theorem loopState_decideReboot (req : Request) :
    loopState ((decideReboot env req).final d)
      = (loopState d).decide (cyclicBranch env req.cause d) := by
  have hsame : loopState ((saveRebootInfo env req).final d) = loopState d := by
    rw [final_saveRebootInfo h.io]
    simp only [ne_eq, reduceCtorEq, not_false_eq_true, loopState_setFile]
  have hops : (handleCyclicReboot env req.cause).final ((saveRebootInfo env req).final d)
      = ((cyclicBranch env req.cause ((saveRebootInfo env req).final d)).act env
          (stopDuration ((saveRebootInfo env req).final d))).final
            ((saveRebootInfo env req).final d) :=
    congrArg (fun ops => execOps ops _) (handleCyclicReboot_eq env req.cause _).1
  rw [decideReboot, Prog.final_bind, hops, loopState_act h, hsame, cyclicBranch_saveRebootInfo]

end Moves

/-! ## The rest of the request moves it once more -/

section Finish

variable {env : HelperEnv}

/-- What changes no flag, counter, parameter or cron entry of the loop state leaves it alone. -/
theorem loopState_filesOnly {S : List File} (hnow : File.rebootNowFlag ∉ S)
    (hstop : File.rebootStopFlag ∉ S) (hcount : File.rebootCounterFile ∉ S) {o : DeviceOp}
    (ho : FilesOnly S o) (d : Device) : loopState (Effect.apply o d) = loopState d := by
  simp only [loopState, counterValue, Device.exists, detectionEnabled, ho.files_eq hnow,
    ho.files_eq hstop, ho.files_eq hcount, ho.rfc_eq, ho.cron_eq]

theorem loopState_cut_filesOnly {S : List File} (hnow : File.rebootNowFlag ∉ S)
    (hstop : File.rebootStopFlag ∉ S) (hcount : File.rebootCounterFile ∉ S) {α : Type}
    {p : DeviceProg α} (hp : p.Emits (FilesOnly S)) {d d' : Device} (hcut : p.Cut d d') :
    loopState d' = loopState d :=
  hp.cut loopState (fun _ ho d => loopState_filesOnly hnow hstop hcount ho d) hcut

/-- The notification sets another parameter. -/
theorem loopState_cut_notifyReboot {d d' : Device} (hcut : (notifyReboot env).Cut d d') :
    loopState d' = loopState d := by
  have hset : ∀ o, (∃ v, o = DeviceOp.setRfc .fwRebootNotify v) → ∀ d : Device,
      loopState (Effect.apply o d) = loopState d := by
    rintro o ⟨v, rfl⟩ d
    exact loopState_setRfc (by decide) (by decide)
  exact (emits_notifyReboot env).cut loopState hset hcut

/-- The touch, cut or not, does at most what the machine's last transition does. -/
theorem loopState_cut_touch {io : Io File} {d d' : Device}
    (hcut : (touchFile io .rebootNowFlag).Cut d d') :
    loopState d' = loopState d ∨ loopState d' = (loopState d).finish true := by
  unfold touchFile fileOps at hcut
  split at hcut
  · rcases Prog.cut_emitAll_singleton.mp hcut with rfl | rfl
    · exact Or.inl rfl
    · exact Or.inr (loopState_set_rebootNow d (some ((d.files .rebootNowFlag).getD [])))
  · obtain ⟨done, hdone, rfl⟩ := hcut
    rw [List.prefix_nil.mp hdone]
    exact Or.inl rfl

/-- The touch and the reboot command after it. -/
theorem loopState_cut_reboot {io : Io File} {d d' : Device}
    (hcut : (do touchFile io .rebootNowFlag; Prog.emit .reboot : DeviceProg Unit).Cut d d') :
    loopState d' = loopState d ∨ loopState d' = (loopState d).finish true := by
  rcases Prog.cut_bind_iff.mp hcut with hc | hc
  · exact loopState_cut_touch hc
  · have hsame : d' = (touchFile io .rebootNowFlag).final d := by
      rcases Prog.cut_emitAll_singleton.mp hc with h | h
      · exact h
      · exact h
    rw [hsame]
    exact loopState_cut_touch (Prog.Cut.final _ d)

/-- **An interrupted request.** Cut anywhere after the decision, a request has moved the machine by
its last transition or has not. -/
theorem loopState_cut_finishRequest {req : Request} {proceedReboot : Bool} {d d' : Device}
    (hcut : (finishRequest env req proceedReboot).Cut d d') :
    loopState d' = loopState d ∨ loopState d' = (loopState d).finish proceedReboot := by
  have hprev : ∀ {d d' : Device},
      (writeFile env.io .previousRebootInfoFile (rebootInfoText (req.record env))).Cut d d' →
      loopState d' = loopState d := fun hc =>
    loopState_cut_filesOnly (by decide) (by decide) (by decide) (emits_writeFile _ _ _) hc
  have hmaint : ∀ {d d' : Device},
      (updateMaintenanceRebootFlag env.io req.cause.reason).Cut d d' →
      loopState d' = loopState d := fun hc =>
    loopState_cut_filesOnly (by decide) (by decide) (by decide)
      (emits_updateMaintenanceRebootFlag _ _) hc
  -- the cut falls in the record, the maintenance flag, the notification, or the touch
  rcases Prog.cut_bind_view hprev hcut with h | ⟨h1, hc⟩
  · exact Or.inl h
  cases proceedReboot with
  | false =>
    rw [if_neg Bool.false_ne_true, Prog.cut_pure] at hc
    subst hc
    exact Or.inl h1
  | true =>
    rw [if_pos rfl] at hc
    rcases Prog.cut_bind_view hmaint hc with h | ⟨h2, hc⟩
    · exact Or.inl (h.trans h1)
    rcases Prog.cut_bind_view loopState_cut_notifyReboot hc with h | ⟨h3, hc⟩
    · exact Or.inl (h.trans (h2.trans h1))
    rw [← h1, ← h2, ← h3]
    exact loopState_cut_reboot hc

/-- A complete request makes the machine's last transition. -/
theorem loopState_finishRequest (h : env.Ok) (req : Request) (proceedReboot : Bool) (d : Device) :
    loopState ((finishRequest env req proceedReboot).final d) = (loopState d).finish proceedReboot := by
  have hprev : loopState ((writeFile env.io .previousRebootInfoFile
      (rebootInfoText (req.record env))).final d) = loopState d :=
    loopState_cut_filesOnly (by decide) (by decide) (by decide) (emits_writeFile _ _ _)
      (Prog.Cut.final _ d)
  rw [finishRequest, Prog.final_bind]
  cases proceedReboot with
  | false =>
    rw [if_neg Bool.false_ne_true]
    exact hprev
  | true =>
    rw [if_pos rfl]
    simp only [Prog.final_bind, Prog.final_emit]
    let d1 := (writeFile env.io .previousRebootInfoFile (rebootInfoText (req.record env))).final d
    let d2 := (updateMaintenanceRebootFlag env.io req.cause.reason).final d1
    let d3 := (notifyReboot env).final d2
    have h2 : loopState d2 = loopState d1 :=
      loopState_cut_filesOnly (by decide) (by decide) (by decide)
        (emits_updateMaintenanceRebootFlag _ _) (Prog.Cut.final _ d1)
    have h3 : loopState d3 = loopState d2 := loopState_cut_notifyReboot (Prog.Cut.final _ d2)
    show loopState ((touchFile env.io .rebootNowFlag).final d3) = _
    rw [final_touchFile h.io, loopState_set_rebootNow, h3, h2, hprev]
    rfl

/-- **A complete request refines the machine.** -/
theorem loopState_requestReboot (h : env.Ok) (req : Request) (d : Device) :
    loopState ((requestReboot env req).final d)
      = ((loopState d).decide (cyclicBranch env req.cause d)).finish
          (cyclicBranch env req.cause d).proceeds := by
  rw [final_requestReboot, loopState_finishRequest h, loopState_decideReboot h]

end Finish

end RebootManager
