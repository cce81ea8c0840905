/-
# RebootManager.Fetcher.Invocation -- what the invocation flag stands for (rebootreason_main.c)

The uploader waits for /tmp/Update_rebootInfo_invoked before it reads previousreboot.info. `main` writes
the flag behind its cleanup label, where the finished run arrives together with all the early exits, so
the flag says that a run has ended under the lock, and says nothing about the update.

`flag_of_update_iff` is the exact gap. Its two halves are when a run creates the flag
(`createsFlag_iff`) and when it completes the update (`completesUpdate_iff`).
-/
import RebootManager.Fetcher.RecordFiles

namespace RebootManager

open Foundation

section Invocation

variable {env : FetcherEnv} {d : Device}

/-- The flag is there after the run and was not before. -/
def CreatesFlag (env : FetcherEnv) (d : Device) : Prop :=
  d.exists .pathFlagInvocation = false ∧
    ((fetcherMain env).final d).exists .pathFlagInvocation = true

/-- The run comes to the STT gate and finds it open. -/
def PassesGate (env : FetcherEnv) (d : Device) : Prop :=
  (∃ ctx, parseDeviceProperties env d = some ctx) ∧ updateRebootInfo d = true

/-- The run replaces previousreboot.info: by the rename, or by a `write_reboot_info` whose `fopen`
succeeds, which is when it returns `SUCCESS`. -/
def CompletesUpdate (env : FetcherEnv) (d : Device) : Prop :=
  .file (.rename .rebootInfoFile .previousRebootInfoFile) ∈ (fetcherMain env).ops d ∨
    .file (.openTrunc .previousRebootInfoFile) ∈ (fetcherMain env).ops d

/-- Past the gate, there is a record to rename or a file to write one to. -/
def CanFinish (env : FetcherEnv) (d : Device) : Prop :=
  ∃ ctx, Passes env ctx d ∧
    (renameOutcome env d = .renamed ∨ env.io.canWrite .previousRebootInfoFile = true)

theorem CanFinish.passesGate (h : CanFinish env d) : PassesGate env d := by
  obtain ⟨ctx, hpasses, -⟩ := h
  exact ⟨⟨ctx, hpasses.properties⟩, hpasses.stt⟩

/-! ## The update -/

/-- The files `main` writes under the lock. -/
def updateFiles : List File := .rebootInfoFile :: .previousRebootInfoFile :: (parodusFiles ++ logFiles)

theorem emits_updateUnderLock (env : FetcherEnv) :
    (updateUnderLock env).Emits (FilesOnly updateFiles) := by
  have hlogs : ∀ o, FilesOnly logFiles o → FilesOnly updateFiles o :=
    fun _ => FilesOnly.mono (by decide)
  have hparodus : ∀ o, FilesOnly parodusFiles o → FilesOnly updateFiles o :=
    fun _ => FilesOnly.mono (by decide)
  have hrecord : ∀ o, FilesOnly [.previousRebootInfoFile] o → FilesOnly updateFiles o :=
    fun _ => FilesOnly.mono (by decide)
  have hderived : ∀ ctx info, (finishDerived env ctx info).Emits (FilesOnly updateFiles) := by
    intro ctx info
    refine ((logsOnly_updateKernelLog env ctx info).mono hlogs).bind fun _ => ?_
    refine ((logsOnly_updatePreviousRebootLogFields env false).mono hlogs).bind fun _ => ?_
    refine Prog.Emits.bind ?_ fun written => ?_
    · exact ((emits_writeFile env.io _ _).mono hrecord).bind fun _ => Prog.emits_pure _
    split
    · refine Prog.Emits.bind ?_ fun _ => Prog.emits_pure _
      refine ((logsOnly_updateParodusLog env info).mono hlogs).bind fun _ => ?_
      refine ((emits_handleParodusRebootFile env info).mono hparodus).bind fun _ => ?_
      refine ((logsOnly_whenever (logsOnly_writeHardpower env _)).mono hlogs).bind fun _ => ?_
      exact (logsOnly_copyKeypressInfo env).mono hlogs
    · exact Prog.emits_pure _
  have hrenamed : ∀ ctx, (finishRenamed env ctx).Emits (FilesOnly updateFiles) := by
    intro ctx
    refine ((emits_handleParodusRebootFile env _).mono hparodus).bind fun _ => ?_
    refine ((logsOnly_updateKernelLog env ctx _).mono hlogs).bind fun _ => ?_
    refine ((logsOnly_updatePreviousRebootLogFields env true).mono hlogs).bind fun _ => ?_
    exact ((logsOnly_copyKeypressInfo env).mono hlogs).bind fun _ => Prog.emits_pure _
  refine Prog.emits_get.bind fun d => ?_
  split
  · exact Prog.emits_pure _
  split
  case isFalse => exact Prog.emits_pure _
  split
  case isFalse => exact Prog.emits_pure _
  refine Prog.emits_get.bind fun d => ?_
  split
  · refine Prog.Emits.bind (emits_fileOps ?_) fun _ => hrenamed _
    intro op hop f hf
    rw [List.mem_singleton.mp hop] at hf
    simp only [FileOp.targets, List.mem_cons, List.not_mem_nil, or_false] at hf
    rcases hf with rfl | rfl <;> simp [updateFiles]
  · exact ((logsOnly_deriveRebootInfo env _).mono hlogs).bind fun info => hderived _ info
  · exact hderived _ _

/-- A derived record is written exactly when its file can be. -/
theorem openTrunc_mem_finishDerived (ctx : EnvContext) (info : RebootInfo) :
    .file (.openTrunc .previousRebootInfoFile) ∈ (finishDerived env ctx info).ops d ↔
      env.io.canWrite .previousRebootInfoFile = true := by
  have hlogs : ∀ {p : DeviceProg Unit} {d : Device}, LogsOnly p →
      DeviceOp.file (.openTrunc .previousRebootInfoFile) ∉ p.ops d := by
    intro p d hp hmem
    exact absurd (hp d _ hmem _ (List.mem_singleton_self _)) (by decide)
  simp only [finishDerived, persistRebootInfo, Prog.ops_bind, List.mem_append,
    hlogs (logsOnly_updateKernelLog env ctx info),
    hlogs (logsOnly_updatePreviousRebootLogFields env false), false_or]
  constructor
  · intro hmem
    by_contra hno
    have hfail : env.io.canWrite .previousRebootInfoFile = false := Bool.not_eq_true _ ▸ hno
    simp [writeRebootInfo, writeFile, fileOps, Io.writeOps, hfail] at hmem
  · intro hwrite
    left
    simp [writeRebootInfo, writeFile, fileOps, Io.writeOps, hwrite]

/-- Without the rename, nothing is renamed. -/
theorem rename_not_mem_finishDerived (ctx : EnvContext) (info : RebootInfo) :
    .file (.rename .rebootInfoFile .previousRebootInfoFile) ∉ (finishDerived env ctx info).ops d := by
  intro hmem
  have htarget := emits_finishDerived env ctx info d _ hmem .rebootInfoFile (by simp [FileOp.targets])
  exact absurd htarget (by decide)

/-- Writing the flag is neither of the two operations. -/
theorem flag_completes_nothing {o : DeviceOp} (ho : FilesOnly [.pathFlagInvocation] o) :
    o ≠ .file (.rename .rebootInfoFile .previousRebootInfoFile) ∧
      o ≠ .file (.openTrunc .previousRebootInfoFile) := by
  constructor
  · rintro rfl
    exact absurd (ho .rebootInfoFile (by simp [FileOp.targets])) (by decide)
  · rintro rfl
    exact absurd (ho .previousRebootInfoFile (by simp [FileOp.targets])) (by decide)

/-- The flag is written behind the update, so both operations are looked for in the update. -/
theorem completesUpdate_of_passes (h : Passes env ctx d) : CompletesUpdate env d ↔
    .file (.rename .rebootInfoFile .previousRebootInfoFile) ∈ (updatePreviousReboot env ctx).ops d ∨
      .file (.openTrunc .previousRebootInfoFile) ∈ (updatePreviousReboot env ctx).ops d := by
  have htouch := emits_touchFile env.io .pathFlagInvocation ((updatePreviousReboot env ctx).final d)
  rw [CompletesUpdate, (fetcherMain_of_passes h).1, List.mem_append, List.mem_append]
  constructor
  · rintro ((hmem | hmem) | (hmem | hmem))
    · exact Or.inl hmem
    · exact absurd rfl (flag_completes_nothing (htouch _ hmem)).1
    · exact Or.inr hmem
    · exact absurd rfl (flag_completes_nothing (htouch _ hmem)).2
  · exact Or.imp Or.inl Or.inl

/-- The update does one of them where the rename succeeds or the file can be written. -/
theorem updatePreviousReboot_completes_iff (env : FetcherEnv) (ctx : EnvContext) (d : Device) :
    (.file (.rename .rebootInfoFile .previousRebootInfoFile) ∈ (updatePreviousReboot env ctx).ops d ∨
      .file (.openTrunc .previousRebootInfoFile) ∈ (updatePreviousReboot env ctx).ops d) ↔
      renameOutcome env d = .renamed ∨ env.io.canWrite .previousRebootInfoFile = true := by
  cases hout : renameOutcome env d with
  | renamed => simp [ops_updatePreviousReboot_renamed hout]
  | noEntry =>
    have hside := logsOnly_deriveRebootInfo env ctx
    rw [ops_updatePreviousReboot_noEntry hout, List.mem_append, List.mem_append,
      openTrunc_mem_finishDerived]
    constructor
    · rintro ((h | h) | (h | h))
      · exact absurd (hside d _ h .rebootInfoFile (by simp [FileOp.targets])) (by decide)
      · exact absurd h (rename_not_mem_finishDerived _ _)
      · exact absurd (hside d _ h .previousRebootInfoFile (by simp [FileOp.targets])) (by decide)
      · exact Or.inr h
    · rintro (h | h)
      · cases h
      · exact Or.inr (Or.inr h)
  | failed =>
    rw [ops_updatePreviousReboot_failed hout, openTrunc_mem_finishDerived]
    constructor
    · rintro (h | h)
      · exact absurd h (rename_not_mem_finishDerived _ _)
      · exact Or.inr h
    · rintro (h | h)
      · cases h
      · exact Or.inr h

/-- The run completes the update exactly when it can finish. -/
theorem completesUpdate_iff : CompletesUpdate env d ↔ CanFinish env d := by
  by_cases hpasses : ∃ ctx, Passes env ctx d
  case neg =>
    -- a run that stops before the gate writes the flag at most
    have hquiet := ops_fetcherMain_of_not_passes fun ctx h => hpasses ⟨ctx, h⟩
    constructor
    · rintro (hmem | hmem)
      · exact absurd rfl (flag_completes_nothing (hquiet _ hmem)).1
      · exact absurd rfl (flag_completes_nothing (hquiet _ hmem)).2
    · rintro ⟨ctx, h, -⟩
      exact absurd ⟨ctx, h⟩ hpasses
  obtain ⟨ctx, hctx⟩ := hpasses
  rw [completesUpdate_of_passes hctx, updatePreviousReboot_completes_iff]
  constructor
  · exact fun h => ⟨ctx, hctx, h⟩
  · rintro ⟨_, -, h⟩
    exact h

/-! ## The flag -/

/-- Every run under the lock that can write the flag creates it. -/
theorem createsFlag_iff : CreatesFlag env d ↔
    d.exists .pathFlagInvocation = false ∧ env.lockAcquired = true ∧
      env.io.canWrite .pathFlagInvocation = true := by
  have hsame : ((updateUnderLock env).final d).files .pathFlagInvocation
      = d.files .pathFlagInvocation :=
    (emits_updateUnderLock env).final (fun d => d.files .pathFlagInvocation)
      (fun _ ho d => ho.files_eq (by decide) d) d
  unfold CreatesFlag
  constructor
  · rintro ⟨hbefore, hafter⟩
    refine ⟨hbefore, ?_⟩
    by_contra hno
    have hnone : ((fetcherMain env).final d).files .pathFlagInvocation
        = d.files .pathFlagInvocation := by
      unfold fetcherMain
      split
      case isFalse => rfl
      rename_i hlock
      have hfail : ¬ env.io.canWrite .pathFlagInvocation = true := fun h => hno ⟨hlock, h⟩
      rw [Prog.final_bind, Prog.final_bind, Prog.final_pure, touchFile, if_neg hfail, final_fileOps]
      exact hsame
    rw [Device.exists, hnone] at hafter
    exact absurd hafter (Bool.eq_false_iff.mp hbefore)
  · rintro ⟨hbefore, hlock, hwrite⟩
    refine ⟨hbefore, ?_⟩
    rw [fetcherMain, if_pos hlock, Prog.final_bind, Prog.final_bind, Prog.final_pure, touchFile,
      if_pos hwrite, final_fileOps]
    simp [Device.exists, FileOp.run, Effect.apply]

/-- **The flag stands for an update only where the update cannot fail.** A run that creates the flag has
passed the gate and replaced previousreboot.info, if and only if it creates none (the flag is there
already, the lock is not taken, the flag cannot be written) or can finish. -/
theorem flag_of_update_iff (env : FetcherEnv) (d : Device) :
    (CreatesFlag env d → PassesGate env d ∧ CompletesUpdate env d) ↔
      (d.exists .pathFlagInvocation = true ∨ env.lockAcquired = false ∨
        env.io.canWrite .pathFlagInvocation = false ∨ CanFinish env d) := by
  rw [createsFlag_iff, completesUpdate_iff]
  constructor
  · intro h
    by_contra hno
    simp only [not_or, Bool.not_eq_true, Bool.not_eq_false] at hno
    obtain ⟨hexists, hlock, hwrite, hfinish⟩ := hno
    exact hfinish (h ⟨hexists, hlock, hwrite⟩).2
  · rintro (h | h | h | h) ⟨hexists, hlock, hwrite⟩
    · rw [h] at hexists
      cases hexists
    · rw [h] at hlock
      cases hlock
    · rw [h] at hwrite
      cases hwrite
    · exact ⟨h.passesGate, h⟩

end Invocation

/-- Before the time is known, a run ends at the gate, and the flag is there. -/
theorem flag_at_closed_gate :
    CreatesFlag (FetcherEnv.plain Tm.epoch fun _ => some "TV".toList) Device.blank ∧
      ¬ PassesGate (FetcherEnv.plain Tm.epoch fun _ => some "TV".toList) Device.blank := by
  refine ⟨createsFlag_iff.mpr ⟨rfl, rfl, rfl⟩, ?_⟩
  rintro ⟨-, hstt⟩
  cases hstt

end RebootManager
