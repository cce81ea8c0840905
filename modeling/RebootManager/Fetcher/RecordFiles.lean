/-
# RebootManager.Fetcher.RecordFiles -- what one fetcher run does to the two previous records

Of all the files a run writes, four carry a reboot record: reboot.info and parodusreboot.info, which
`rebootnow` leaves, and previousreboot.info and previousparodusreboot.info, which the fetcher leaves. A
run that does not get past the STT gate touches none of them; a run that does starts from the outcome of
the rename. The lemmas here say so once, piece by piece, for the results that follow.
-/
import RebootManager.Fetcher.FetcherMain

namespace RebootManager

open Foundation

/-! ## The other files -/

/-- The files a run writes that carry no record. -/
def sideFiles : List File :=
  [.kernelLogFile, .rebootInfoLog, .parodusLog, .previousHardRebootInfoFile,
   .previousKeypressInfoFile, .pathFlagInvocation]

/-- Updates of side files only. -/
abbrev SideOnly (p : DeviceProg α) : Prop := p.Emits (FilesOnly sideFiles)

/-- The side files without the run's own flag: the logs and what stands beside the record. -/
def logFiles : List File :=
  [.kernelLogFile, .rebootInfoLog, .parodusLog, .previousHardRebootInfoFile, .previousKeypressInfoFile]

/-- Updates of such files only. -/
abbrev LogsOnly (p : DeviceProg α) : Prop := p.Emits (FilesOnly logFiles)

theorem LogsOnly.sideOnly {p : DeviceProg α} (hp : LogsOnly p) : SideOnly p :=
  hp.mono fun _ => FilesOnly.mono (by decide)

theorem logsOnly_write (io : Io File) {f : File} (hf : f ∈ logFiles) (text : Bytes) :
    LogsOnly (writeFile io f text) :=
  (emits_writeFile io f text).mono fun _ => FilesOnly.mono (by simpa using hf)

theorem logsOnly_append (io : Io File) {f : File} (hf : f ∈ logFiles) (text : Bytes) :
    LogsOnly (appendFile io f text) :=
  (emits_appendFile io f text).mono fun _ => FilesOnly.mono (by simpa using hf)

theorem logsOnly_whenever {b : Bool} {p : DeviceProg Unit} (hp : LogsOnly p) :
    LogsOnly (whenever b p) := by
  cases b with
  | false => exact Prog.emits_pure ()
  | true => exact hp

theorem logsOnly_detectKernelPanic (env : FetcherEnv) (ctx : EnvContext) :
    LogsOnly (detectKernelPanic env ctx) := by
  refine Prog.emits_get.bind fun d => ?_
  split
  · split <;> exact Prog.emits_pure _
  split
  · split
    · exact (logsOnly_append env.io (by decide) _).bind fun _ => Prog.emits_pure _
    · exact Prog.emits_pure _
  · exact Prog.emits_pure _

theorem logsOnly_deriveRebootInfo (env : FetcherEnv) (ctx : EnvContext) :
    LogsOnly (deriveRebootInfo env ctx) := by
  refine (logsOnly_detectKernelPanic env ctx).bind fun panicInfo => ?_
  exact Prog.emits_get.bind fun d => Prog.emits_pure _

theorem logsOnly_updateKernelLog (env : FetcherEnv) (ctx : EnvContext) (info : RebootInfo) :
    LogsOnly (updateKernelLog env ctx info) :=
  logsOnly_whenever (logsOnly_append env.io (by decide) _)

theorem logsOnly_updatePreviousRebootLogFields (env : FetcherEnv) (hasRebootInfo : Bool) :
    LogsOnly (updatePreviousRebootLogFields env hasRebootInfo) :=
  Prog.emits_get.bind fun _ => logsOnly_write env.io (by decide) _

theorem logsOnly_updateParodusLog (env : FetcherEnv) (info : RebootInfo) :
    LogsOnly (updateParodusLog env info) :=
  logsOnly_append env.io (by decide) _

theorem logsOnly_writeHardpower (env : FetcherEnv) (timestamp : Bytes) :
    LogsOnly (writeHardpower env timestamp) :=
  logsOnly_write env.io (by decide) _

theorem logsOnly_copyKeypressInfo (env : FetcherEnv) : LogsOnly (copyKeypressInfo env) := by
  refine Prog.emits_get.bind fun d => ?_
  split
  · exact logsOnly_write env.io (by decide) _
  · exact Prog.emits_pure ()

/-- A file that is no side file comes out of such a piece as it went in. -/
theorem files_final_sideOnly {p : DeviceProg α} (hp : SideOnly p) {f : File} (hf : f ∉ sideFiles)
    (d : Device) : (p.final d).files f = d.files f :=
  hp.final (fun d => d.files f) (fun _ ho d => ho.files_eq hf d) d

/-! ## The handed-on line -/

/-- The files `handle_parodus_reboot_file` writes. -/
def parodusFiles : List File := [.parodusRebootInfoFile, .previousParodusRebootInfoFile, .parodusLog]

theorem emits_handleParodusRebootFile (env : FetcherEnv) (info : RebootInfo) :
    (handleParodusRebootFile env info).Emits (FilesOnly parodusFiles) := by
  have hdest : ∀ text, (writeFile env.io .previousParodusRebootInfoFile text).Emits
      (FilesOnly parodusFiles) :=
    fun text => (emits_writeFile env.io _ text).mono fun _ => FilesOnly.mono (by decide)
  refine Prog.emits_get.bind fun d => ?_
  split
  · split
    · refine (hdest _).bind fun _ => ?_
      refine ((emits_appendFile env.io .parodusLog _).mono fun _ =>
        FilesOnly.mono (by decide)).bind fun _ => ?_
      refine ((emits_unlinkFile .parodusRebootInfoFile).mono fun _ =>
        FilesOnly.mono (by decide)).bind fun _ => ?_
      exact Prog.emits_pure _
    · exact Prog.emits_pure _
  · split
    · exact Prog.emits_pure _
    · exact (hdest _).bind fun _ => Prog.emits_pure _

/-- The run's pieces behind the record, with the parodus files. -/
def handOnFiles : List File := parodusFiles ++ sideFiles

theorem emits_finishRenamed (env : FetcherEnv) (ctx : EnvContext) :
    (finishRenamed env ctx).Emits (FilesOnly handOnFiles) := by
  have hside : ∀ o, FilesOnly sideFiles o → FilesOnly handOnFiles o :=
    fun _ => FilesOnly.mono (List.subset_append_right _ _)
  refine ((emits_handleParodusRebootFile env _).mono fun _ =>
    FilesOnly.mono (List.subset_append_left _ _)).bind fun _ => ?_
  refine ((logsOnly_updateKernelLog env ctx _).sideOnly.mono hside).bind fun _ => ?_
  refine ((logsOnly_updatePreviousRebootLogFields env true).sideOnly.mono hside).bind fun _ => ?_
  refine ((logsOnly_copyKeypressInfo env).sideOnly.mono hside).bind fun _ => ?_
  exact Prog.emits_pure _

theorem emits_handOnRebootInfo (env : FetcherEnv) (info : RebootInfo) :
    (handOnRebootInfo env info).Emits (FilesOnly handOnFiles) := by
  have hside : ∀ o, FilesOnly sideFiles o → FilesOnly handOnFiles o :=
    fun _ => FilesOnly.mono (List.subset_append_right _ _)
  refine ((logsOnly_updateParodusLog env info).sideOnly.mono hside).bind fun _ => ?_
  refine ((emits_handleParodusRebootFile env info).mono fun _ =>
    FilesOnly.mono (List.subset_append_left _ _)).bind fun _ => ?_
  refine ((logsOnly_whenever (logsOnly_writeHardpower env _)).sideOnly.mono hside).bind fun _ => ?_
  exact (logsOnly_copyKeypressInfo env).sideOnly.mono hside

theorem emits_finishDerived (env : FetcherEnv) (ctx : EnvContext) (info : RebootInfo) :
    (finishDerived env ctx info).Emits (FilesOnly (.previousRebootInfoFile :: handOnFiles)) := by
  have hside : ∀ o, FilesOnly sideFiles o →
      FilesOnly (.previousRebootInfoFile :: handOnFiles) o :=
    fun _ => FilesOnly.mono
      (List.Subset.trans (List.subset_append_right _ _) (List.subset_cons_self _ _))
  refine ((logsOnly_updateKernelLog env ctx _).sideOnly.mono hside).bind fun _ => ?_
  refine ((logsOnly_updatePreviousRebootLogFields env false).sideOnly.mono hside).bind fun _ => ?_
  refine Prog.Emits.bind ?_ fun written => ?_
  · refine ((emits_writeFile env.io _ _).mono fun _ => FilesOnly.mono ?_).bind fun _ =>
      Prog.emits_pure _
    exact List.cons_subset_cons _ (List.nil_subset _)
  · split
    · exact ((emits_handOnRebootInfo env info).mono fun _ =>
        FilesOnly.mono (List.subset_cons_self _ _)).bind fun _ => Prog.emits_pure _
    · exact Prog.emits_pure _

/-- Every file a run writes. -/
def fetcherFiles : List File := .rebootInfoFile :: .previousRebootInfoFile :: handOnFiles

theorem emits_updatePreviousReboot (env : FetcherEnv) (ctx : EnvContext) :
    (updatePreviousReboot env ctx).Emits (FilesOnly fetcherFiles) := by
  have hderived : ∀ o, FilesOnly (.previousRebootInfoFile :: handOnFiles) o →
      FilesOnly fetcherFiles o := fun _ => FilesOnly.mono (List.subset_cons_self _ _)
  refine Prog.emits_get.bind fun d => ?_
  split
  · refine Prog.Emits.bind (emits_fileOps ?_) fun _ =>
      (emits_finishRenamed env ctx).mono fun _ => FilesOnly.mono (by simp [fetcherFiles])
    intro op hop f hf
    rw [List.mem_singleton.mp hop] at hf
    simp only [FileOp.targets, List.mem_cons, List.not_mem_nil, or_false] at hf
    rcases hf with rfl | rfl <;> simp [fetcherFiles]
  · refine ((logsOnly_deriveRebootInfo env ctx).sideOnly.mono fun _ => FilesOnly.mono ?_).bind fun _ =>
      (emits_finishDerived env ctx _).mono hderived
    decide
  · exact (emits_finishDerived env ctx _).mono hderived

theorem emits_fetcherMain (env : FetcherEnv) : (fetcherMain env).Emits (FilesOnly fetcherFiles) := by
  unfold fetcherMain
  split
  · refine Prog.Emits.bind ?_ fun status => ?_
    · refine Prog.emits_get.bind fun d => ?_
      split
      · exact Prog.emits_pure _
      · split
        · split
          · exact emits_updatePreviousReboot env _
          · exact Prog.emits_pure _
        · exact Prog.emits_pure _
    · exact ((emits_touchFile env.io .pathFlagInvocation).mono fun _ =>
        FilesOnly.mono (by decide)).bind fun _ => Prog.emits_pure _
  · exact Prog.emits_pure _

/-! ## Past the gate -/

/-- The run gets as far as the rename. -/
structure Passes (env : FetcherEnv) (ctx : EnvContext) (d : Device) : Prop where
  lock : env.lockAcquired = true
  properties : parseDeviceProperties env d = some ctx
  stt : updateRebootInfo d = true
  dir : env.dirExists = true

/-- A run that gets there is the update and the invocation flag. -/
theorem fetcherMain_of_passes {env : FetcherEnv} {ctx : EnvContext} {d : Device}
    (h : Passes env ctx d) :
    (fetcherMain env).ops d = (updatePreviousReboot env ctx).ops d ++
        (touchFile env.io .pathFlagInvocation).ops ((updatePreviousReboot env ctx).final d) ∧
      (fetcherMain env).result d = (updatePreviousReboot env ctx).result d := by
  have hops : (updateUnderLock env).ops d = (updatePreviousReboot env ctx).ops d := by
    simp [updateUnderLock, h.properties, h.stt, h.dir]
  have hresult : (updateUnderLock env).result d = (updatePreviousReboot env ctx).result d := by
    simp [updateUnderLock, h.properties, h.stt, h.dir]
  have hfinal : (updateUnderLock env).final d = (updatePreviousReboot env ctx).final d := by
    rw [Prog.final, hops, Prog.final]
  simp [fetcherMain, h.lock, hops, hresult, hfinal]

/-- Of the files, only the invocation flag comes after the update. -/
theorem files_fetcherMain_of_passes {env : FetcherEnv} {ctx : EnvContext} {d : Device}
    (h : Passes env ctx d) {f : File} (hf : f ≠ .pathFlagInvocation) :
    ((fetcherMain env).final d).files f = ((updatePreviousReboot env ctx).final d).files f := by
  rw [Prog.final, (fetcherMain_of_passes h).1, execOps_append]
  exact files_final_of_touchesOnly (touches_touchFile env.io (List.mem_singleton_self _))
    (by simpa using hf) _

/-- Any other run leaves the invocation flag at most. -/
theorem ops_fetcherMain_of_not_passes {env : FetcherEnv} {d : Device}
    (h : ∀ ctx, ¬ Passes env ctx d) :
    ∀ o ∈ (fetcherMain env).ops d, FilesOnly [.pathFlagInvocation] o := by
  intro o ho
  unfold fetcherMain at ho
  by_cases hlock : env.lockAcquired = true
  case neg => simp [hlock] at ho
  have hnone : (updateUnderLock env).ops d = [] := by
    unfold updateUnderLock
    cases hprops : parseDeviceProperties env d with
    | none => simp [hprops]
    | some ctx =>
      by_cases hstt : updateRebootInfo d = true
      case neg => simp [hprops, hstt]
      by_cases hdir : env.dirExists = true
      case neg => simp [hprops, hstt, hdir]
      exact absurd ⟨hlock, hprops, hstt, hdir⟩ (h ctx)
  have htouch : o ∈ (touchFile env.io .pathFlagInvocation).ops ((updateUnderLock env).final d) := by
    simpa [hlock, hnone] using ho
  exact emits_touchFile _ _ _ o htouch

/-- Without the flag, a run leaves every file but its own flag as it is. -/
theorem files_fetcherMain_of_closed {env : FetcherEnv} {d : Device} (h : updateRebootInfo d = false)
    {f : File} (hf : f ≠ .pathFlagInvocation) :
    ((fetcherMain env).final d).files f = d.files f := by
  have hnot : ∀ ctx, ¬ Passes env ctx d := by
    intro ctx hpasses
    rw [hpasses.stt] at h
    cases h
  exact execOps_frame (fun d => d.files f)
    (fun o ho d => (ops_fetcherMain_of_not_passes hnot o ho).files_eq (by simpa using hf) d) d

/-- A successful run with the flag there has got to the rename. -/
theorem passes_of_success {env : FetcherEnv} {d : Device}
    (hsuccess : (fetcherMain env).result d = .success) (hstt : updateRebootInfo d = true) :
    ∃ ctx, Passes env ctx d := by
  unfold fetcherMain at hsuccess
  by_cases hlock : env.lockAcquired = true
  case neg => simp [hlock] at hsuccess
  have hresult : (updateUnderLock env).result d = .success := by simpa [hlock] using hsuccess
  unfold updateUnderLock at hresult
  cases hprops : parseDeviceProperties env d with
  | none => simp [hprops] at hresult
  | some ctx =>
    by_cases hdir : env.dirExists = true
    case neg => simp [hprops, hstt, hdir] at hresult
    exact ⟨ctx, hlock, hprops, hstt, hdir⟩

/-! ## The three outcomes of the rename -/

section Outcomes

variable {env : FetcherEnv} {ctx : EnvContext} {d : Device}

/-- A rename succeeds on a record that is there. -/
theorem exists_rebootInfo_of_renamed (h : renameOutcome env d = .renamed) :
    ∃ content, d.files .rebootInfoFile = some content := by
  unfold renameOutcome at h
  split at h
  · cases h
  · split at h
    · rename_i hexists
      exact Option.isSome_iff_exists.mp hexists
    · cases h

/-- `ENOENT` is said of a record that is not there. -/
theorem rebootInfo_of_noEntry (h : renameOutcome env d = .noEntry) :
    d.files .rebootInfoFile = none := by
  unfold renameOutcome at h
  split at h
  · cases h
  · split at h
    · cases h
    · rename_i hmissing
      exact Option.not_isSome_iff_eq_none.mp hmissing

/-- Any other failure is a fault. -/
theorem renameFault_of_failed (h : renameOutcome env d = .failed) : env.renameFault = true := by
  unfold renameOutcome at h
  split at h
  · assumption
  · split at h <;> cases h

theorem ops_updatePreviousReboot_renamed (h : renameOutcome env d = .renamed) :
    (updatePreviousReboot env ctx).ops d =
      .file (.rename .rebootInfoFile .previousRebootInfoFile) ::
        (finishRenamed env ctx).ops
          (DeviceOp.run (.file (.rename .rebootInfoFile .previousRebootInfoFile)) d) := by
  simp only [updatePreviousReboot, Prog.ops_bind, Prog.ops_get, Prog.result_get, Prog.final_get,
    List.nil_append, h]
  rfl

theorem ops_updatePreviousReboot_noEntry (h : renameOutcome env d = .noEntry) :
    (updatePreviousReboot env ctx).ops d =
      (deriveRebootInfo env ctx).ops d ++
        (finishDerived env ctx ((deriveRebootInfo env ctx).result d)).ops
          ((deriveRebootInfo env ctx).final d) := by
  simp only [updatePreviousReboot, Prog.ops_bind, Prog.ops_get, Prog.result_get, Prog.final_get,
    List.nil_append, h]

theorem ops_updatePreviousReboot_failed (h : renameOutcome env d = .failed) :
    (updatePreviousReboot env ctx).ops d = (finishDerived env ctx env.blankInfo).ops d := by
  simp only [updatePreviousReboot, Prog.ops_bind, Prog.ops_get, Prog.result_get, Prog.final_get,
    List.nil_append, h]

/-- A run past the gate with a rename that can succeed leaves no reboot.info. -/
theorem rebootInfo_of_passes (h : Passes env ctx d) (hfault : env.renameFault = false) :
    ((fetcherMain env).final d).files .rebootInfoFile = none := by
  rw [files_fetcherMain_of_passes h (by decide), Prog.final]
  cases hout : renameOutcome env d with
  | renamed =>
    obtain ⟨content, hcontent⟩ := exists_rebootInfo_of_renamed hout
    rw [ops_updatePreviousReboot_renamed hout, execOps_cons]
    have hrenamed : (DeviceOp.run (.file (.rename .rebootInfoFile .previousRebootInfoFile)) d).files
        .rebootInfoFile = none := by
      simp [DeviceOp.run, FileOp.run, hcontent]
    exact ((emits_finishRenamed env ctx).final (fun d => d.files .rebootInfoFile)
      (fun o ho d => ho.files_eq (by decide) d) _).trans hrenamed
  | noEntry =>
    have hnone := rebootInfo_of_noEntry hout
    rw [ops_updatePreviousReboot_noEntry hout, execOps_append]
    have hderive := files_final_sideOnly (logsOnly_deriveRebootInfo env ctx).sideOnly
      (show File.rebootInfoFile ∉ sideFiles by decide) d
    exact ((emits_finishDerived env ctx _).final (fun d => d.files .rebootInfoFile)
      (fun o ho d => ho.files_eq (by decide) d) _).trans (hderive.trans hnone)
  | failed =>
    rw [renameFault_of_failed hout] at hfault
    cases hfault

end Outcomes

/-! ## A device to run on -/

/-- A set-top box with a BRCM SOC. -/
def brcmProperties (key : Bytes) : Option Bytes :=
  if key = "SOC".toList then some "BRCM".toList
  else if key = "RDK_PROFILE".toList then some "STB".toList
  else if key = "DEVICE_TYPE".toList then some "hybrid".toList
  else none

/-- A run on it in which nothing fails. -/
def brcmRun (now : Tm) : FetcherEnv := FetcherEnv.plain now brcmProperties

/-- The record of an operator's reboot. -/
def operatorRecord : RebootInfo :=
  ⟨"Thu Jan 01 00:00:00 UTC 1970".toList, "ScheduledReboot".toList, "OPS_TRIGGERED".toList,
   "Unknown".toList, "Unknown".toList⟩

/-- After that reboot, with the system time received. -/
def operatorRebooted : Device :=
  ((Device.blank.setFile .sttFlag (some [])).setFile .rebootInfoFile
    (some (rebootInfoText operatorRecord))).setFile .parodusRebootInfoFile
    (some (parodusLine operatorRecord))

theorem passes_brcmRun {now : Tm} {d : Device} (h : updateRebootInfo d = true) :
    Passes (brcmRun now) ⟨"BRCM".toList, "STB".toList, [], "hybrid".toList, false⟩ d :=
  ⟨rfl, rfl, h, rfl⟩

end RebootManager
