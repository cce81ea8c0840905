/-
# RebootManager.Fetcher.Idempotence -- what a second run in the same boot does

The first run past the STT gate uses its input up: reboot.info is renamed away and parodusreboot.info is
removed. The next run finds neither, takes the branch of `ENOENT`, and persists a record it derives from
the evidence, stamped with the time of that run. So the previous records stay as they are only while the
gate is closed (`stableRecords_iff`).
-/
import RebootManager.Fetcher.PersistedRecord

namespace RebootManager

open Foundation

/-- The device after further runs, one after the other. -/
def afterRuns (later : List FetcherEnv) (d : Device) : Device :=
  later.foldl (fun d env => (fetcherMain env).final d) d

/-- Any number of further runs leave the two previous records as they are. -/
def StableRecords (d : Device) : Prop :=
  ∀ later : List FetcherEnv,
    ∀ f ∈ [File.previousRebootInfoFile, .previousParodusRebootInfoFile],
      (afterRuns later d).files f = d.files f

/-! ## Behind a closed gate -/

/-- A run does not touch the STT flag, nor what else it does not write. -/
theorem files_fetcherMain_of_not_mem (env : FetcherEnv) {f : File} (hf : f ∉ fetcherFiles)
    (d : Device) : ((fetcherMain env).final d).files f = d.files f :=
  (emits_fetcherMain env).final (fun d => d.files f) (fun _ ho d => ho.files_eq hf d) d

theorem updateRebootInfo_fetcherMain (env : FetcherEnv) (d : Device) :
    updateRebootInfo ((fetcherMain env).final d) = updateRebootInfo d :=
  congrArg Option.isSome (files_fetcherMain_of_not_mem env (by decide) d)

theorem stable_of_closed {d : Device} (h : updateRebootInfo d = false) : StableRecords d := by
  intro later f hf
  have hne : f ≠ .pathFlagInvocation := by
    rintro rfl
    simp at hf
  induction later generalizing d with
  | nil => rfl
  | cons env later ih =>
    show (afterRuns later ((fetcherMain env).final d)).files f = _
    rw [ih ((updateRebootInfo_fetcherMain env d).trans h), files_fetcherMain_of_closed h hne]

/-! ## Behind an open gate -/

/-- A run like `env`, later and with nothing failing. -/
def FetcherEnv.rerun (env : FetcherEnv) (now : Tm) : FetcherEnv :=
  { env with io := Io.plain, lockAcquired := true, dirExists := true, renameFault := false, now := now }

/-- The properties are parsed again to the same context. -/
theorem passes_rerun {env : FetcherEnv} {ctx : EnvContext} {d d' : Device} (h : Passes env ctx d)
    (hprops : d'.files .devicePropertiesFile = d.files .devicePropertiesFile)
    (hstt : d'.files .sttFlag = d.files .sttFlag) (now : Tm) : Passes (env.rerun now) ctx d' where
  lock := rfl
  properties := by
    have hparse := h.properties
    unfold parseDeviceProperties at hparse ⊢
    dsimp only at hparse ⊢
    have hfield : ∀ key, propertyField (env.rerun now) key = propertyField env key := fun _ => rfl
    have hproperty : (env.rerun now).deviceProperty = env.deviceProperty := rfl
    simp only [hfield, hproperty]
    split
    · rename_i hmissing
      rw [if_pos hmissing] at hparse
      -- the first run could open /etc/device.properties
      have hopen : (env.rerun now).open .devicePropertiesFile d' = d.files .devicePropertiesFile :=
        hprops
      rw [hopen]
      cases hcan : env.io.canRead .devicePropertiesFile with
      | true => simpa [FetcherEnv.open, hcan] using hparse
      | false => simp [FetcherEnv.open, hcan] at hparse
    · rename_i hfull
      rwa [if_neg hfull] at hparse
  stt := (congrArg Option.isSome hstt).trans h.stt
  dir := rfl

/-- From the second run on every run persists a record with its own time in it. -/
theorem previous_after_two_reruns {env : FetcherEnv} {ctx : EnvContext} {d : Device}
    (h : Passes env ctx d) (now : Tm) :
    ∃ info : RebootInfo, info.timestamp = timestampUpdate now ∧
      (afterRuns [env.rerun .epoch, env.rerun now] ((fetcherMain env).final d)).files
        .previousRebootInfoFile = some (rebootInfoText info) := by
  set d₁ := (fetcherMain env).final d with hd₁
  have hfirst : Passes (env.rerun .epoch) ctx d₁ :=
    passes_rerun h (files_fetcherMain_of_not_mem env (by decide) d)
      (files_fetcherMain_of_not_mem env (by decide) d) .epoch
  set d₂ := (fetcherMain (env.rerun .epoch)).final d₁ with hd₂
  have hsecond : Passes (env.rerun now) ctx d₂ :=
    passes_rerun hfirst (files_fetcherMain_of_not_mem _ (by decide) d₁)
      (files_fetcherMain_of_not_mem _ (by decide) d₁) now
  have hgone : d₂.files .rebootInfoFile = none := rebootInfo_of_passes hfirst rfl
  have hout : renameOutcome (env.rerun now) d₂ = .noEntry := by
    simp [renameOutcome, FetcherEnv.rerun, Device.exists, hgone]
  refine ⟨(deriveRebootInfo (env.rerun now) ctx).result d₂,
    classifyRebootReason_timestamp _ _ _ _ _, ?_⟩
  have hafter := @previousAfter_of_passes (env.rerun now) Io.plain_ok.complete _ _ hsecond
  rw [hout] at hafter
  exact hafter

/-! ## Exactly when -/

/-- New Year's Day 1971. -/
def nextYear : Tm := { Tm.epoch with year := ⟨1971, by decide⟩ }

/-- **Further runs leave the records alone only behind a closed gate.** After a successful run, any
number of further runs leave previousreboot.info and previousparodusreboot.info as it left them if and
only if the STT flag is not there. -/
theorem stableRecords_iff {env : FetcherEnv} {d : Device}
    (hsuccess : (fetcherMain env).result d = .success) :
    StableRecords ((fetcherMain env).final d) ↔ updateRebootInfo d = false := by
  constructor
  · intro hstable
    by_contra hopen
    have hstt : updateRebootInfo d = true := by simpa using hopen
    obtain ⟨ctx, hpasses⟩ := passes_of_success hsuccess hstt
    obtain ⟨info, htime, hinfo⟩ := previous_after_two_reruns hpasses .epoch
    obtain ⟨info', htime', hinfo'⟩ := previous_after_two_reruns hpasses nextYear
    -- both runs would have left what the first one left, at two different times
    have hsame : rebootInfoText info = rebootInfoText info' := by
      have hleft := hstable [env.rerun .epoch, env.rerun .epoch] .previousRebootInfoFile (by simp)
      have hleft' := hstable [env.rerun .epoch, env.rerun nextYear] .previousRebootInfoFile (by simp)
      rw [hinfo] at hleft
      rw [hinfo', ← hleft] at hleft'
      exact (Option.some.inj hleft').symm
    have hstamp := timestamp_of_rebootInfoText hsame
      (htime ▸ not_mem_timestampUpdate .epoch (by decide))
      (htime' ▸ not_mem_timestampUpdate nextYear (by decide))
    rw [htime, htime'] at hstamp
    revert hstamp
    decide +kernel
  · intro hclosed
    exact stable_of_closed ((updateRebootInfo_fetcherMain env d).trans hclosed)

/-- Without the system time received, nothing ever happens. -/
theorem stableRecords_without_time :
    (fetcherMain (brcmRun .epoch)).result Device.blank = .success ∧
      StableRecords ((fetcherMain (brcmRun .epoch)).final Device.blank) :=
  ⟨by decide +kernel, (stableRecords_iff (by decide +kernel)).mpr rfl⟩

/-- After the operator's reboot, the second run replaces the operator's record by a derived one. -/
theorem second_run_overwrites :
    (fetcherMain (brcmRun .epoch)).result operatorRebooted = .success ∧
      ¬ StableRecords ((fetcherMain (brcmRun .epoch)).final operatorRebooted) := by
  refine ⟨by decide +kernel, fun hstable => ?_⟩
  have hleft := hstable [brcmRun .epoch] .previousRebootInfoFile (by simp)
  revert hleft
  decide +kernel

end RebootManager
