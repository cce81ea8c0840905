/-
# RebootManager.Helper.LoopBound -- a reboot loop stops

A device that asks for the same reboot over and over again reboots at most six times, and once a
request has been deferred all later ones are (`rebootLoop_bound`).

The argument is a budget. After its first request the device is *tracking* the cause: the rebootNow
flag is there and previousreboot.info reads back as the cause, whatever the fetcher renames. From then
on a request either counts, and each count costs one of five, or finds stop mode armed, and nothing
disarms it. The first request, from whatever state the device was in, is the sixth.
-/
import RebootManager.Foundation.Transition
import RebootManager.Helper.LoopState

namespace RebootManager

open Foundation

/-! ## The run -/

/-- What happens to a device in a reboot loop. -/
inductive BootEvent where
  /-- One complete run of `rebootnow`. -/
  | invoke (env : HelperEnv) (req : Request)
  /-- A fetcher run that only renames reboot.info onto previousreboot.info. -/
  | fetch
  | reboot

/-- What came of one request. -/
structure Decision where
  proceeds : Bool
  after : Device

/-- The fetcher's rename. -/
def fetchRename : DeviceProg Unit := fileOps [.rename .rebootInfoFile .previousRebootInfoFile]

/-- The next state, and the decision where there was a request. -/
def BootEvent.next : BootEvent → Device → Device × Option Decision
  | .invoke env req, d =>
    let after := (requestReboot env req).final d
    (after, some ⟨(requestReboot env req).result d, after⟩)
  | .fetch, d => (fetchRename.final d, none)
  | .reboot, d => (d.rebooted, none)

/-- Every request has the cause, comes at most 600 s after boot, and no command of it fails. -/
def BootEvent.Repeats (cause : Cause) : BootEvent → Prop
  | .invoke env req => env.Ok ∧ (∃ secs, env.uptime = some secs ∧ secs ≤ 600) ∧ req.cause = cause
  | .fetch => True
  | .reboot => True

/-! ## Tracking -/

/-- A complete record of the cause. -/
def RecordOf (cause : Cause) (content : Option Bytes) : Prop :=
  ∃ t, content = some (rebootInfoText (cause.record (timestampUpdate t)))

/-- The device knows the cause of its last reboot, and a rename will not make it forget. -/
structure Tracking (cause : Cause) (d : Device) : Prop where
  rebootNow : (loopState d).rebootNow = true
  previous : RecordOf cause (d.files .previousRebootInfoFile)
  pending : d.files .rebootInfoFile = none ∨ RecordOf cause (d.files .rebootInfoFile)

/-- Loop detection is on and the counter is not below zero. -/
structure Watching (d : Device) : Prop where
  detection : (loopState d).detection = true
  count : 0 ≤ (loopState d).count

theorem loopState_fetchRename (d : Device) : loopState (fetchRename.final d) = loopState d := by
  have hemits : fetchRename.Emits (FilesOnly [.rebootInfoFile, .previousRebootInfoFile]) := by
    apply emits_fileOps
    intro op hop f hf
    rw [List.mem_singleton] at hop
    subst hop
    exact hf
  exact loopState_cut_filesOnly (by decide) (by decide) (by decide) hemits (Prog.Cut.final _ d)

theorem loopState_rebooted (d : Device) : loopState d.rebooted = loopState d := rfl

/-- Where the record goes when the fetcher renames it. -/
theorem files_fetchRename (d : Device) :
    (fetchRename.final d).files .previousRebootInfoFile
        = (match d.files .rebootInfoFile with
          | none => d.files .previousRebootInfoFile
          | some content => some content) ∧
      (fetchRename.final d).files .rebootInfoFile = none := by
  have hrun : (fetchRename.final d).files
      = FileOp.run (.rename .rebootInfoFile .previousRebootInfoFile) d.files := by
    rw [fetchRename, final_fileOps]
    rfl
  rw [hrun]
  cases hinfo : d.files .rebootInfoFile with
  | none => exact ⟨by simp [FileOp.run, hinfo], by simp [FileOp.run, hinfo]⟩
  | some content =>
    exact ⟨by simp [FileOp.run, hinfo, Function.update_of_ne], by simp [FileOp.run, hinfo]⟩

theorem Tracking.fetch {cause : Cause} {d : Device} (h : Tracking cause d) :
    Tracking cause (fetchRename.final d) := by
  obtain ⟨hprev, hinfo⟩ := files_fetchRename d
  refine ⟨?_, ?_, Or.inl hinfo⟩
  · rw [loopState_fetchRename]
    exact h.rebootNow
  · rw [hprev]
    rcases h.pending with hnone | ⟨t, ht⟩
    · rw [hnone]
      exact h.previous
    · rw [ht]
      exact ⟨t, rfl⟩

theorem Tracking.reboot {cause : Cause} {d : Device} (h : Tracking cause d) :
    Tracking cause d.rebooted where
  rebootNow := h.rebootNow
  previous := h.previous
  pending := h.pending

/-- After any request the rebootNow flag is there. -/
theorem rebootNow_after_request {env : HelperEnv} (h : env.Ok) (req : Request) (d : Device) :
    (loopState ((requestReboot env req).final d)).rebootNow = true := by
  rw [loopState_requestReboot h]
  cases cyclicBranch env req.cause d <;> rfl

/-- Any request, from any state, leaves the device tracking its cause. -/
theorem tracking_after_request {env : HelperEnv} (h : env.Ok) (req : Request) (d : Device) :
    Tracking req.cause ((requestReboot env req).final d) where
  rebootNow := rebootNow_after_request h req d
  previous := ⟨env.now, files_previous_requestReboot h.io req d⟩
  pending := Or.inr ⟨env.now, files_rebootInfo_requestReboot h.io req d⟩

/-- A watching device keeps watching. -/
theorem watching_after_request {env : HelperEnv} (h : env.Ok) (req : Request) {d : Device}
    (hd : Watching d) : Watching ((requestReboot env req).final d) := by
  have hmove := loopState_requestReboot h req d
  cases hb : cyclicBranch env req.cause d with
  | counted count =>
    rw [hb] at hmove
    have hcount : count = (loopState d).count := (counted_bounds h.io hb).1
    refine ⟨?_, ?_⟩
    · rw [hmove]
      exact hd.detection
    · rw [hmove]
      show 0 ≤ count + 1
      have := hd.count
      omega
  | _ =>
    rw [hb] at hmove
    refine ⟨?_, ?_⟩
    · rw [hmove]
      exact hd.detection
    · rw [hmove]
      first
        | exact hd.count
        | exact Int.le_refl 0

/-! ## One request of a tracking device -/

section Tracked

variable {env : HelperEnv} {cause : Cause} {d : Device}

/-- The same cause again, in time: halted, or halted from now on, or counted. -/
theorem cyclicBranch_of_tracking (h : env.Ok) (hup : ∃ secs, env.uptime = some secs ∧ secs ≤ 600)
    (hread : ∀ t, parsePreviousRebootInfo (rebootInfoText (cause.record (timestampUpdate t)))
      = some cause)
    (htrack : Tracking cause d) (hdet : (loopState d).detection = true) :
    cyclicBranch env cause d =
      if (loopState d).rebootStop then .halted
      else if 5 ≤ (loopState d).count then .loopDetected else .counted (loopState d).count := by
  obtain ⟨secs, hsecs, hle⟩ := hup
  obtain ⟨t, ht⟩ := htrack.previous
  have hnow : d.exists .rebootNowFlag = true := htrack.rebootNow
  have hprev : readPreviousRebootInfo env.io d = some cause := by
    rw [readPreviousRebootInfo_of_ok h.io, ht, Option.bind_some, hread]
  have hwin : withinWindow env = true := by
    rw [withinWindow, hsecs]
    exact decide_eq_true hle
  have hdet' : detectionEnabled d = true := hdet
  simp only [cyclicBranch, hnow, hdet', hprev, hwin, readRebootcounter_of_ok h.io,
    Bool.true_eq_false, if_false, ne_eq, not_true]
  rfl

end Tracked

/-! ## The budget -/

open Classical in
/-- How many more requests can go ahead: none in stop mode, one for each count that is left, and six
before the device tracks the cause. -/
noncomputable def loopBudget (cause : Cause) (d : Device) : Nat :=
  if Tracking cause d then
    if (loopState d).rebootStop then 0 else (5 - (loopState d).count).toNat
  else 6

theorem loopBudget_of_tracking {cause : Cause} {d : Device} (h : Tracking cause d) :
    loopBudget cause d
      = if (loopState d).rebootStop then 0 else (5 - (loopState d).count).toNat :=
  if_pos h

theorem loopBudget_le_five {cause : Cause} {d : Device} (h : Tracking cause d) (hd : Watching d) :
    loopBudget cause d ≤ 5 := by
  have hcount := hd.count
  rw [loopBudget_of_tracking h]
  split <;> omega

theorem loopBudget_le_six {cause : Cause} {d : Device} (hd : Watching d) : loopBudget cause d ≤ 6 := by
  by_cases h : Tracking cause d
  · exact Nat.le_succ_of_le (loopBudget_le_five h hd)
  · rw [loopBudget, if_neg h]

/-- A request that goes ahead costs one. -/
theorem loopBudget_request {env : HelperEnv} {req : Request} {d : Device} (h : env.Ok)
    (hup : ∃ secs, env.uptime = some secs ∧ secs ≤ 600)
    (hread : ∀ t, parsePreviousRebootInfo (rebootInfoText (req.cause.record (timestampUpdate t)))
      = some req.cause)
    (hd : Watching d) :
    (if (requestReboot env req).result d then 1 else 0)
        + loopBudget req.cause ((requestReboot env req).final d) ≤ loopBudget req.cause d := by
  have htracked := tracking_after_request h req d
  have hwatching := watching_after_request h req hd
  by_cases htrack : Tracking req.cause d
  · -- the branch is one of three, and the machine says what it does to flag and count
    have hb := cyclicBranch_of_tracking h hup hread htrack hd.detection
    have hmove := loopState_requestReboot h req d
    have hcount := hd.count
    rw [loopBudget_of_tracking htracked, loopBudget_of_tracking htrack, result_requestReboot, hmove,
      hb]
    by_cases hstop : (loopState d).rebootStop
    · simp [hstop, LoopState.decide, LoopState.finish, CyclicBranch.proceeds]
    · by_cases hle : 5 ≤ (loopState d).count
      · simp [hstop, hle, LoopState.decide, LoopState.finish, CyclicBranch.proceeds]
      · simp only [hstop, hle, LoopState.decide, LoopState.finish, CyclicBranch.proceeds,
          Bool.false_eq_true, if_false, if_true]
        omega
  · have hfive := loopBudget_le_five htracked hwatching
    rw [show loopBudget req.cause d = 6 from if_neg htrack]
    split <;> omega

/-! ## Stop mode absorbs -/

/-- Stop mode with the cause on record. -/
structure Halted (cause : Cause) (d : Device) : Prop where
  tracking : Tracking cause d
  watching : Watching d
  rebootStop : (loopState d).rebootStop = true

/-- A halted device defers, and stays halted. -/
theorem Halted.request {env : HelperEnv} {req : Request} {d : Device} (h : env.Ok)
    (hup : ∃ secs, env.uptime = some secs ∧ secs ≤ 600)
    (hread : ∀ t, parsePreviousRebootInfo (rebootInfoText (req.cause.record (timestampUpdate t)))
      = some req.cause)
    (hd : Halted req.cause d) :
    (requestReboot env req).result d = false ∧ Halted req.cause ((requestReboot env req).final d) := by
  have hb := cyclicBranch_of_tracking h hup hread hd.tracking hd.watching.detection
  rw [if_pos hd.rebootStop] at hb
  have hmove := loopState_requestReboot h req d
  rw [hb] at hmove
  refine ⟨?_, tracking_after_request h req d, watching_after_request h req hd.watching, ?_⟩
  · rw [result_requestReboot, hb]
    rfl
  · rw [hmove]
    exact hd.rebootStop

/-- A device that has deferred a request is halted. -/
theorem halted_of_deferred {env : HelperEnv} {req : Request} {d : Device} (h : env.Ok)
    (hd : Watching d) (hdefer : (requestReboot env req).result d = false) :
    Halted req.cause ((requestReboot env req).final d) := by
  refine ⟨tracking_after_request h req d, watching_after_request h req hd, ?_⟩
  have hmove := loopState_requestReboot h req d
  rw [result_requestReboot] at hdefer
  have htaken := taken_cyclicBranch env req.cause d
  cases hb : cyclicBranch env req.cause d with
  | halted =>
    rw [hb] at hmove htaken
    rw [hmove]
    exact htaken.2.2
  | loopDetected =>
    rw [hb] at hmove
    rw [hmove]
    rfl
  | _ =>
    rw [hb] at hdefer
    cases hdefer

/-! ## Every event keeps the invariants -/

section Events

variable {cause : Cause} {e : BootEvent} {d : Device}

theorem watching_next (he : e.Repeats cause) (hd : Watching d) : Watching (e.next d).1 := by
  cases e with
  | invoke env req => exact watching_after_request he.1 req hd
  | fetch =>
    show Watching (fetchRename.final d)
    refine ⟨?_, ?_⟩
    · rw [loopState_fetchRename]
      exact hd.detection
    · rw [loopState_fetchRename]
      exact hd.count
  | reboot => exact ⟨hd.detection, hd.count⟩

/-- Renames and reboots cost nothing and give nothing back. -/
theorem loopBudget_le_of_tracking {d' : Device} (hd : Watching d') (hsame : loopState d' = loopState d)
    (hkeep : Tracking cause d → Tracking cause d') : loopBudget cause d' ≤ loopBudget cause d := by
  by_cases h : Tracking cause d
  · rw [loopBudget_of_tracking h, loopBudget_of_tracking (hkeep h), hsame]
  · rw [show loopBudget cause d = 6 from if_neg h]
    exact loopBudget_le_six hd

theorem loopBudget_next
    (hread : ∀ t, parsePreviousRebootInfo (rebootInfoText (cause.record (timestampUpdate t)))
      = some cause)
    (he : e.Repeats cause) (hd : Watching d) :
    ((e.next d).2.toList.countP (·.proceeds)) + loopBudget cause (e.next d).1
      ≤ loopBudget cause d := by
  cases e with
  | invoke env req =>
    obtain ⟨henv, hup, rfl⟩ := he
    have hcharge := loopBudget_request henv hup hread hd
    simp only [BootEvent.next, Option.toList_some, List.countP_cons, List.countP_nil, Nat.zero_add]
    exact hcharge
  | fetch =>
    have hle : loopBudget cause (fetchRename.final d) ≤ loopBudget cause d :=
      loopBudget_le_of_tracking (watching_next he hd) (loopState_fetchRename d) Tracking.fetch
    show 0 + loopBudget cause (fetchRename.final d) ≤ _
    omega
  | reboot =>
    have hle : loopBudget cause d.rebooted ≤ loopBudget cause d :=
      loopBudget_le_of_tracking (watching_next he hd) (loopState_rebooted d) Tracking.reboot
    show 0 + loopBudget cause d.rebooted ≤ _
    omega

theorem halted_next
    (hread : ∀ t, parsePreviousRebootInfo (rebootInfoText (cause.record (timestampUpdate t)))
      = some cause)
    (he : e.Repeats cause) (hd : Halted cause d) : Halted cause (e.next d).1 := by
  have hwatching := watching_next he hd.watching
  cases e with
  | invoke env req =>
    obtain ⟨henv, hup, rfl⟩ := he
    exact (hd.request henv hup hread).2
  | fetch =>
    refine ⟨hd.tracking.fetch, hwatching, ?_⟩
    show (loopState (fetchRename.final d)).rebootStop = true
    rw [loopState_fetchRename]
    exact hd.rebootStop
  | reboot => exact ⟨hd.tracking.reboot, hwatching, hd.rebootStop⟩

/-- What a decision in stop mode looks like. -/
theorem halted_decision
    (hread : ∀ t, parsePreviousRebootInfo (rebootInfoText (cause.record (timestampUpdate t)))
      = some cause)
    (he : e.Repeats cause) (hd : Halted cause d) :
    ∀ o ∈ (e.next d).2, o.proceeds = false ∧ o.after.exists .rebootStopFlag = true ∧
      o.after.exists .rebootNowFlag = true := by
  intro o ho
  cases e with
  | invoke env req =>
    obtain ⟨henv, hup, rfl⟩ := he
    obtain ⟨hdefer, hafter⟩ := hd.request henv hup hread
    obtain rfl : (⟨(requestReboot env req).result d, (requestReboot env req).final d⟩ : Decision) = o :=
      Option.some.inj ho
    exact ⟨hdefer, hafter.rebootStop, hafter.tracking.rebootNow⟩
  | fetch => cases ho
  | reboot => cases ho

theorem halted_of_deferral (he : e.Repeats cause) (hd : Watching d) :
    ∀ o ∈ (e.next d).2, o.proceeds = false → Halted cause (e.next d).1 := by
  intro o ho hdefer
  cases e with
  | invoke env req =>
    obtain ⟨henv, -, rfl⟩ := he
    obtain rfl : (⟨(requestReboot env req).result d, (requestReboot env req).final d⟩ : Decision) = o :=
      Option.some.inj ho
    exact halted_of_deferred henv hd hdefer
  | fetch => cases ho
  | reboot => cases ho

end Events

/-! ## The bound -/

/-- **A reboot loop stops.** In any run of complete requests for one cause that reads back as written,
with fetcher renames and reboots in between, from any state with loop detection on and no negative
count, at most six requests go ahead, and after a deferred one every request is deferred and leaves
both flags in place. -/
theorem rebootLoop_bound {cause : Cause}
    (hread : ∀ t, parsePreviousRebootInfo (rebootInfoText (cause.record (timestampUpdate t)))
      = some cause)
    {events : List BootEvent} (hevents : ∀ e ∈ events, e.Repeats cause) {d : Device}
    (hdetection : detectionEnabled d = true)
    (hcounter : ∀ content v, d.files .rebootCounterFile = some content →
      scanLong content = some v → 0 ≤ v ∧ v ≤ 2147483647) :
    (outputs BootEvent.next events d).countP (·.proceeds) ≤ 6 ∧
    (outputs BootEvent.next events d).Pairwise fun decision later =>
      decision.proceeds = false →
        later.proceeds = false ∧ later.after.exists .rebootStopFlag = true ∧
          later.after.exists .rebootNowFlag = true := by
  have hwatching : Watching d := by
    refine ⟨hdetection, ?_⟩
    show 0 ≤ counterValue d
    unfold counterValue
    cases hfile : d.files .rebootCounterFile with
    | none => decide
    | some content =>
      cases hscan : scanLong content with
      | none => simp [hscan]
      | some v =>
        obtain ⟨hlow, hhigh⟩ := hcounter content v hfile hscan
        simp only [Option.bind_some, hscan]
        rw [toInt_of_int (by omega) (by omega)]
        exact hlow
  refine ⟨?_, ?_⟩
  · have hbudget := count_outputs_le (loopBudget cause) hevents
      (fun e d he hd => watching_next he hd) (fun e d he hd => loopBudget_next hread he hd) hwatching
    exact hbudget.trans (loopBudget_le_six hwatching)
  · exact pairwise_outputs hevents (fun e d he hd => watching_next he hd)
      (fun e d he hd => halted_next hread he hd)
      (fun e d he hd => halted_of_deferral he hd)
      (fun e d he hd => halted_decision hread he hd) hwatching

/-- A blank device, asked twice within five minutes of its boots. -/
theorem rebootLoop_bound_twice :
    (outputs BootEvent.next
      [.invoke (.plain .epoch 300) serviceRequest, .reboot, .fetch,
       .invoke (.plain .epoch 200) serviceRequest] Device.blank).countP (·.proceeds) ≤ 6 ∧
    (outputs BootEvent.next
      [.invoke (.plain .epoch 300) serviceRequest, .reboot, .fetch,
       .invoke (.plain .epoch 200) serviceRequest] Device.blank).Pairwise fun decision later =>
      decision.proceeds = false →
        later.proceeds = false ∧ later.after.exists .rebootStopFlag = true ∧
          later.after.exists .rebootNowFlag = true := by
  refine rebootLoop_bound (Request.readBack recordable_serviceRequest) ?_ rfl ?_
  · intro e he
    simp only [List.mem_cons, List.not_mem_nil, or_false] at he
    rcases he with rfl | rfl | rfl | rfl
    · exact ⟨HelperEnv.plain_ok _ _, ⟨300, rfl, by decide⟩, rfl⟩
    · trivial
    · trivial
    · exact ⟨HelperEnv.plain_ok _ _, ⟨200, rfl, by decide⟩, rfl⟩
  · intro content v hfile
    cases hfile

end RebootManager
