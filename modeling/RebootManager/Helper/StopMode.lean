/-
# RebootManager.Helper.StopMode -- what stop mode leaves behind

Stop mode has three traces: the rebootStop flag, `RebootStop.Enable` and a cron entry. A reboot that
goes ahead ought to find them gone. Only the branches with the reset block remove them, so the question
is which of the others can be entered with stop mode armed.

The invariant (`StopInvariant`) says that the three traces come and go together and that the rebootNow
flag stands as long as they do. It is kept by every request, also by one that is cut after its decision,
and it closes every way but one: with `RebootStop.Detection` switched off while stop mode is armed, the
request goes ahead and stop mode stays (`disarmed_after_reboot_iff`).
-/
import RebootManager.Foundation.Transition
import RebootManager.Helper.LoopState

namespace RebootManager

open Foundation

/-! ## The runs -/

/-- What happens to a device between two requests, and the requests. -/
inductive StopEvent where
  | invoke (env : HelperEnv) (req : Request)
  /-- The power goes after `handle_cyclic_reboot` has returned. -/
  | interrupted (env : HelperEnv) (req : Request)
  /-- `RebootStop.Detection` is set, or reset. -/
  | setDetection (value : Option Bytes)
  | reboot

/-- One event; every command of a request succeeds. -/
def StopEvent.Step (d : Device) : StopEvent → Device → Prop
  | .invoke env req, d' => env.Ok ∧ d' = (requestReboot env req).final d
  | .interrupted env req, d' =>
    env.Ok ∧ (finishRequest env req ((decideReboot env req).result d)).Cut
      ((decideReboot env req).final d) d'
  | .setDetection value, d' =>
    d' = { d with rfc := Function.update d.rfc .rebootStopDetection value }
  | .reboot, d' => d' = d.rebooted

/-- Stop mode is off. -/
def Clean (d : Device) : Prop := (loopState d).Disarmed

/-! ## The invariant -/

/-- Stop mode is off, or its flag and the rebootNow flag stand together. -/
def StopInvariant (s : LoopState) : Prop :=
  s.Disarmed ∨ s.rebootStop = true ∧ s.rebootNow = true

namespace StopInvariant

variable {s : LoopState}

theorem disarmed_of_no_flag (h : StopInvariant s) (hstop : s.rebootStop = false) : s.Disarmed := by
  rcases h with hdisarmed | ⟨hflag, -⟩
  · exact hdisarmed
  · rw [hstop] at hflag
    cases hflag

theorem no_flag_of_no_rebootNow (h : StopInvariant s) (hnow : s.rebootNow = false) : s.rebootStop = false := by
  rcases h with hdisarmed | ⟨-, hflag⟩
  · exact hdisarmed.rebootStop
  · rw [hnow] at hflag
    cases hflag

theorem finish (h : StopInvariant s) (b : Bool) : StopInvariant (s.finish b) := by
  cases b with
  | false => exact h
  | true =>
    rcases h with hdisarmed | ⟨hflag, -⟩
    · exact Or.inl ⟨hdisarmed.rebootStop, hdisarmed.enable, hdisarmed.scheduled⟩
    · exact Or.inr ⟨hflag, rfl⟩

end StopInvariant

/-- The decision keeps the invariant, branch by branch. -/
theorem stopInvariant_decide {env : HelperEnv} {cause : Cause} {d : Device}
    (h : StopInvariant (loopState d)) :
    StopInvariant ((loopState d).decide (cyclicBranch env cause d)) := by
  have htaken := taken_cyclicBranch env cause d
  cases hb : cyclicBranch env cause d with
  | notRebootnow => exact h
  | detectionDisabled => exact h
  | noPreviousInfo => exact Or.inl ⟨rfl, rfl, rfl⟩
  | outsideWindow => exact Or.inl ⟨rfl, rfl, rfl⟩
  | differentReason => exact Or.inl ⟨rfl, rfl, rfl⟩
  | halted =>
    rw [hb] at htaken
    exact Or.inr ⟨htaken.2.2, rfl⟩
  | loopDetected => exact Or.inr ⟨rfl, rfl⟩
  | counted count =>
    -- counting is only reached with the flag absent
    rw [hb] at htaken
    have hdisarmed := h.disarmed_of_no_flag htaken.2.2.1
    exact Or.inl ⟨hdisarmed.rebootStop, hdisarmed.enable, hdisarmed.scheduled⟩

theorem stopInvariant_step {d d' : Device} {e : StopEvent} (h : StopInvariant (loopState d))
    (hstep : e.Step d d') : StopInvariant (loopState d') := by
  cases e with
  | invoke env req =>
    obtain ⟨henv, rfl⟩ := hstep
    rw [loopState_requestReboot henv]
    exact (stopInvariant_decide h).finish _
  | interrupted env req =>
    obtain ⟨henv, hcut⟩ := hstep
    have hdecided := @stopInvariant_decide env req.cause d h
    rw [← loopState_decideReboot henv] at hdecided
    rcases loopState_cut_finishRequest hcut with hsame | hfinished
    · rw [hsame]
      exact hdecided
    · rw [hfinished]
      exact hdecided.finish _
  | setDetection value =>
    obtain rfl : d' = _ := hstep
    have hsame : loopState { d with rfc := Function.update d.rfc .rebootStopDetection value }
        = { loopState d with detection := (rfcGetBoolParam value).getD true } := by
      simp [loopState, counterValue, Device.exists, detectionEnabled]
    rw [hsame]
    rcases h with hdisarmed | harmed
    · exact Or.inl ⟨hdisarmed.rebootStop, hdisarmed.enable, hdisarmed.scheduled⟩
    · exact Or.inr harmed
  | reboot =>
    obtain rfl : d' = _ := hstep
    exact h

theorem stopInvariant_of_reachable {d : Device} (h : Reachable Clean StopEvent.Step d) :
    StopInvariant (loopState d) :=
  h.invariant (fun _ hclean => Or.inl hclean) fun _ _ _ hs hstep => stopInvariant_step hs hstep

/-! ## A reboot that goes ahead -/

/-- **When a reboot leaves stop mode off.** In every state a clean device can reach, a request that
goes ahead ends with no rebootStop flag, `RebootStop.Enable` false and no cyclic reboot scheduled, if
and only if it did not find the flag there with loop detection switched off. -/
theorem disarmed_after_reboot_iff {d : Device} (hreach : Reachable Clean StopEvent.Step d)
    {env : HelperEnv} (henv : env.Ok) {req : Request}
    (hproceed : (requestReboot env req).result d = true) :
    (loopState ((requestReboot env req).final d)).Disarmed ↔
      ¬ (detectionEnabled d = false ∧ d.exists .rebootStopFlag = true) := by
  have hinv := stopInvariant_of_reachable hreach
  have htaken := taken_cyclicBranch env req.cause d
  have hon : detectionEnabled d = true →
      ¬ (detectionEnabled d = false ∧ d.exists .rebootStopFlag = true) := by
    rintro hdet ⟨hoff, -⟩
    rw [hdet] at hoff
    cases hoff
  have hunflagged : d.exists .rebootStopFlag = false →
      ¬ (detectionEnabled d = false ∧ d.exists .rebootStopFlag = true) := by
    rintro hstop ⟨-, hflag⟩
    rw [hstop] at hflag
    cases hflag
  rw [result_requestReboot] at hproceed
  rw [loopState_requestReboot henv req d]
  cases hb : cyclicBranch env req.cause d with
  | notRebootnow =>
    -- the invariant: without the rebootNow flag there is no rebootStop flag either
    rw [hb] at htaken
    have hstop : d.exists .rebootStopFlag = false := hinv.no_flag_of_no_rebootNow htaken
    have hdisarmed := hinv.disarmed_of_no_flag hstop
    exact iff_of_true ⟨hdisarmed.rebootStop, hdisarmed.enable, hdisarmed.scheduled⟩
      (hunflagged hstop)
  | detectionDisabled =>
    rw [hb] at htaken
    constructor
    · intro hdisarmed
      exact hunflagged hdisarmed.rebootStop
    · intro hcond
      have hstop : d.exists .rebootStopFlag = false := by
        by_contra hflag
        exact hcond ⟨htaken.2, Bool.not_eq_false _ ▸ hflag⟩
      have hdisarmed := hinv.disarmed_of_no_flag hstop
      exact ⟨hdisarmed.rebootStop, hdisarmed.enable, hdisarmed.scheduled⟩
  | noPreviousInfo =>
    rw [hb] at htaken
    exact iff_of_true ⟨rfl, rfl, rfl⟩ (hon htaken.2.1)
  | outsideWindow =>
    rw [hb] at htaken
    obtain ⟨previous, hcompared, -⟩ := htaken
    exact iff_of_true ⟨rfl, rfl, rfl⟩ (hon hcompared.2.1)
  | differentReason =>
    rw [hb] at htaken
    obtain ⟨previous, hcompared, -⟩ := htaken
    exact iff_of_true ⟨rfl, rfl, rfl⟩ (hon hcompared.2.1)
  | halted =>
    rw [hb] at hproceed
    cases hproceed
  | loopDetected =>
    rw [hb] at hproceed
    cases hproceed
  | counted count =>
    rw [hb] at htaken
    obtain ⟨hcompared, -, hstop, -⟩ := htaken
    have hdisarmed := hinv.disarmed_of_no_flag hstop
    exact iff_of_true ⟨hdisarmed.rebootStop, hdisarmed.enable, hdisarmed.scheduled⟩
      (hon hcompared.2.1)

/-- A device on which nothing has happened. -/
def cleanDevice : Device := Device.blank.setRfc .rebootStopEnable "false".toList

theorem clean_cleanDevice : Clean cleanDevice := ⟨rfl, by decide, rfl⟩

/-- The first request of all. -/
theorem disarmed_after_first_reboot :
    (loopState ((requestReboot (.plain .epoch 300) serviceRequest).final cleanDevice)).Disarmed ↔
      ¬ (detectionEnabled cleanDevice = false ∧ cleanDevice.exists .rebootStopFlag = true) :=
  disarmed_after_reboot_iff ⟨cleanDevice, [], clean_cleanDevice, Run.nil _⟩
    (HelperEnv.plain_ok _ _) (by decide +kernel)

/-! ## The way out that leaves stop mode on -/

/-- The device after `n` more requests of a service that keeps asking. -/
def askRepeatedly : Nat → Device → Device
  | 0, d => d
  | n + 1, d => askRepeatedly n ((requestReboot (.plain .epoch 300) serviceRequest).final d)

theorem run_askRepeatedly (n : Nat) (d : Device) :
    Run StopEvent.Step d (List.replicate n (.invoke (.plain .epoch 300) serviceRequest))
      (askRepeatedly n d) := by
  induction n generalizing d with
  | zero => exact Run.nil d
  | succ n ih =>
    exact Run.cons ⟨HelperEnv.plain_ok _ _, rfl⟩ (ih _)

/-- The device after the seventh request has armed stop mode and the switch has been turned off. -/
def switchedOff : Device :=
  let d := askRepeatedly 7 cleanDevice
  { d with rfc := Function.update d.rfc .rebootStopDetection (some "false".toList) }

theorem reachable_switchedOff : Reachable Clean StopEvent.Step switchedOff := by
  have hswitch : StopEvent.Step (askRepeatedly 7 cleanDevice) (.setDetection (some "false".toList))
      switchedOff := rfl
  exact ⟨cleanDevice, _, clean_cleanDevice,
    (run_askRepeatedly 7 cleanDevice).append (Run.cons hswitch (Run.nil _))⟩

/-- The eighth request goes ahead and leaves stop mode armed. -/
theorem armed_after_reboot :
    ¬ ∀ d, Reachable Clean StopEvent.Step d → ∀ env : HelperEnv, env.Ok → ∀ req,
      (requestReboot env req).result d = true →
        (loopState ((requestReboot env req).final d)).Disarmed := by
  intro hclaim
  have hdisarmed := hclaim switchedOff reachable_switchedOff (.plain .epoch 300)
    (HelperEnv.plain_ok _ _) serviceRequest (by decide +kernel)
  have hflag : (loopState ((requestReboot (.plain .epoch 300) serviceRequest).final
      switchedOff)).rebootStop = true := by
    decide +kernel
  rw [hdisarmed.rebootStop] at hflag
  cases hflag

end RebootManager
